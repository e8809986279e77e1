import LayerTransfer.Bytes

namespace LayerTransfer.Text.Lossy

/-- How many octets follow a first one, and the range of the octet behind it. -/
def shape? (b : UInt8) : Option (Nat × UInt8 × UInt8) :=
  if b < 0x80 then some (0, 0x80, 0xbf)
  else if 0xc2 ≤ b ∧ b ≤ 0xdf then some (1, 0x80, 0xbf)
  else if b = 0xe0 then some (2, 0xa0, 0xbf)
  else if b = 0xed then some (2, 0x80, 0x9f)
  else if 0xe1 ≤ b ∧ b ≤ 0xef then some (2, 0x80, 0xbf)
  else if b = 0xf0 then some (3, 0x90, 0xbf)
  else if 0xf1 ≤ b ∧ b ≤ 0xf3 then some (3, 0x80, 0xbf)
  else if b = 0xf4 then some (3, 0x80, 0x8f)
  else none

/-- What has been read of a character: its value so far, how many octets are due, and the range of
the next one. -/
structure State where
  value : Nat := 0
  due : Nat := 0
  low : UInt8 := 0x80
  high : UInt8 := 0xbf

def mark : Char := '\ufffd'

def start (b : UInt8) : List Char × State :=
  match shape? b with
  | none => ([mark], {})
  | some (0, _, _) => ([Char.ofNat b.toNat], {})
  | some (due, low, high) => ([], { value := b.toNat % Nat.pow 2 (6 - due), due, low, high })

def scan : State → Bytes → List Char
  | s, [] => if s.due = 0 then [] else [mark]
  | s, b :: r =>
    if s.due = 0 then (start b).1 ++ scan (start b).2 r
    else if s.low ≤ b ∧ b ≤ s.high then
      let value := s.value * 64 + b.toNat % 64
      if s.due = 1 then Char.ofNat value :: scan {} r
      else scan { value, due := s.due - 1 } r
    else mark :: ((start b).1 ++ scan (start b).2 r)

def decode (b : Bytes) : String :=
  String.ofList (scan {} (if [0xef, 0xbb, 0xbf].isPrefixOf b then b.drop 3 else b))

end LayerTransfer.Text.Lossy
