import LayerTransfer.Bytes
import LayerTransfer.Json.Numeral

namespace LayerTransfer.Json

inductive Word
  | null
  | true
  | false
deriving DecidableEq, Repr

inductive Piece
  | octet (b : UInt8)
  | unit (u : Nat)
deriving DecidableEq, Repr

inductive StringFault
  | endOfInput
  | control
  | escape
  | hex
deriving DecidableEq, Repr

/-- Octets that belong to no token. They end the tokens. -/
inductive Breakage
  | stray
  | word (ended : Bool)
  | number (ended : Bool)
  | text (pieces : List Piece) (fault : StringFault)
deriving DecidableEq, Repr

inductive Token
  | braceOpen
  | braceClose
  | bracketOpen
  | bracketClose
  | colon
  | comma
  | word (w : Word)
  | number (n : Numeral)
  | text (pieces : List Piece)
  | broken (b : Breakage)
deriving DecidableEq, Repr

namespace Token

inductive Place
  | sign
  | zero
  | whole
  | point
  | fraction
  | mark
  | markSign
  | exponent
deriving DecidableEq, Repr

/-- What the machine has read of the current token. Strings are kept in reverse. -/
inductive State
  | between
  | word (rest : List UInt8) (w : Word)
  | number (place : Place) (n : Numeral)
  | text (pieces : List Piece)
  | escape (pieces : List Piece)
  | hex (pieces : List Piece) (digits : List UInt8)
  | stopped
deriving DecidableEq, Repr

def isBlank (b : UInt8) : Bool := b == 0x20 || b == 0x0a || b == 0x09 || b == 0x0d

def digit? (b : UInt8) : Option Nat :=
  if 0x30 ≤ b ∧ b ≤ 0x39 then some (b.toNat - 0x30) else none

def hexDigit? (b : UInt8) : Option Nat :=
  if 0x30 ≤ b ∧ b ≤ 0x39 then some (b.toNat - 0x30)
  else if 0x61 ≤ b ∧ b ≤ 0x66 then some (b.toNat - 0x57)
  else if 0x41 ≤ b ∧ b ≤ 0x46 then some (b.toNat - 0x37)
  else none

def unit? (digits : List UInt8) : Option Nat :=
  digits.foldlM (fun u b => (hexDigit? b).map (16 * u + ·)) 0

def escaped? (b : UInt8) : Option UInt8 :=
  if b = 0x22 ∨ b = 0x5c ∨ b = 0x2f then some b
  else if b = 0x62 then some 0x08
  else if b = 0x66 then some 0x0c
  else if b = 0x6e then some 0x0a
  else if b = 0x72 then some 0x0d
  else if b = 0x74 then some 0x09
  else none

def start (b : UInt8) : List Token × State :=
  if isBlank b then ([], .between)
  else if b = 0x7b then ([.braceOpen], .between)
  else if b = 0x7d then ([.braceClose], .between)
  else if b = 0x5b then ([.bracketOpen], .between)
  else if b = 0x5d then ([.bracketClose], .between)
  else if b = 0x3a then ([.colon], .between)
  else if b = 0x2c then ([.comma], .between)
  else if b = 0x22 then ([], .text [])
  else if b = 0x6e then ([], .word [0x75, 0x6c, 0x6c] .null)
  else if b = 0x74 then ([], .word [0x72, 0x75, 0x65] .true)
  else if b = 0x66 then ([], .word [0x61, 0x6c, 0x73, 0x65] .false)
  else if b = 0x2d then ([], .number .sign { negative := true })
  else
    match digit? b with
    | some 0 => ([], .number .zero { whole := [0] })
    | some d => ([], .number .whole { whole := [d] })
    | none => ([.broken .stray], .stopped)

def addExponent (n : Numeral) (d : Nat) : Numeral :=
  match n.exponent with
  | some (down, ds) => { n with exponent := some (down, ds ++ [d]) }
  | none => { n with exponent := some (false, [d]) }

def extend? (p : Place) (n : Numeral) (b : UInt8) : Option (Place × Numeral) :=
  match p, digit? b with
  | .sign, some 0 => some (.zero, { n with whole := [0] })
  | .sign, some d => some (.whole, { n with whole := [d] })
  | .whole, some d => some (.whole, { n with whole := n.whole ++ [d] })
  | .point, some d | .fraction, some d => some (.fraction, { n with fraction := n.fraction ++ [d] })
  | .mark, some d | .markSign, some d | .exponent, some d => some (.exponent, addExponent n d)
  | .zero, none | .whole, none =>
    if b = 0x2e then some (.point, n)
    else if b = 0x65 ∨ b = 0x45 then some (.mark, n)
    else none
  | .fraction, none => if b = 0x65 ∨ b = 0x45 then some (.mark, n) else none
  | .mark, none =>
    if b = 0x2b then some (.markSign, { n with exponent := some (false, []) })
    else if b = 0x2d then some (.markSign, { n with exponent := some (true, []) })
    else none
  | _, _ => none

/-- Whether a numeral may end here, before the octet `b`. A zero is followed by no digit. -/
def ends (p : Place) (b : Option UInt8) : Bool :=
  match p with
  | .whole | .fraction | .exponent => true
  | .zero => (b.bind digit?).isNone
  | _ => false

def feed (s : State) (b : UInt8) : List Token × State :=
  match s with
  | .between => start b
  | .word rest w =>
    match rest with
    | c :: more =>
      if b = c then (if more = [] then ([.word w], .between) else ([], .word more w))
      else ([.broken (.word false)], .stopped)
    | [] => ([.broken (.word false)], .stopped)
  | .number p n =>
    match extend? p n b with
    | some (q, m) => ([], .number q m)
    | none =>
      if ends p b then (.number n :: (start b).1, (start b).2)
      else ([.broken (.number false)], .stopped)
  | .text ps =>
    if b = 0x22 then ([.text ps.reverse], .between)
    else if b = 0x5c then ([], .escape ps)
    else if b < 0x20 then ([.broken (.text ps.reverse .control)], .stopped)
    else ([], .text (.octet b :: ps))
  | .escape ps =>
    if b = 0x75 then ([], .hex ps [])
    else
      match escaped? b with
      | some c => ([], .text (.octet c :: ps))
      | none => ([.broken (.text ps.reverse .escape)], .stopped)
  | .hex ps ds =>
    if ds.length < 3 then ([], .hex ps (ds ++ [b]))
    else
      match unit? (ds ++ [b]) with
      | some u => ([], .text (.unit u :: ps))
      | none => ([.broken (.text ps.reverse .hex)], .stopped)
  | .stopped => ([], .stopped)

def finish : State → List Token
  | .between | .stopped => []
  | .word _ _ => [.broken (.word true)]
  | .number p n => if ends p none then [.number n] else [.broken (.number true)]
  | .text ps | .escape ps | .hex ps _ => [.broken (.text ps.reverse .endOfInput)]

def scan : State → Bytes → List Token
  | s, [] => finish s
  | s, b :: r => (feed s b).1 ++ scan (feed s b).2 r

def ofBytes (b : Bytes) : List Token :=
  scan .between b

theorem scan_blanks (ws r : Bytes) (h : ∀ b ∈ ws, isBlank b = true) :
    scan .between (ws ++ r) = scan .between r := by
  induction ws with
  | nil => rfl
  | cons b ws ih =>
    have hb : isBlank b = true := h b (List.mem_cons_self ..)
    have hr := ih (fun c hc => h c (List.mem_cons_of_mem _ hc))
    simp only [List.cons_append, scan, feed, start, hb, if_true]
    simpa using hr

end Token

end LayerTransfer.Json
