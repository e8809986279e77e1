import LayerTransfer.Bytes

namespace LayerTransfer.Url.Encode

def isControl (c : Char) : Bool := c.toNat < 0x20 || 0x7e < c.toNat

def inFragment (c : Char) : Bool :=
  isControl c || c == ' ' || c == '"' || c == '<' || c == '>' || c.toNat == 0x60

def inQuery (c : Char) : Bool :=
  isControl c || c == ' ' || c == '"' || c == '#' || c == '<' || c == '>'

def inSpecialQuery (c : Char) : Bool := inQuery c || c == '\''

def inPath (c : Char) : Bool :=
  inQuery c || c == '?' || c.toNat == 0x60 || c == '\x7b' || c == '\x7d'

def inUserinfo (c : Char) : Bool :=
  inPath c || c == '/' || c == ':' || c == ';' || c == '=' || c == '@' || c == '[' || c == '\\' ||
    c == ']' || c == '^' || c == '|'

def hexDigit (n : Nat) : Char := (Nat.digitChar n).toUpper

def octet (b : UInt8) : List Char :=
  ['%', hexDigit (b.toNat / 16), hexDigit (b.toNat % 16)]

def char (c : Char) : List Char :=
  (String.utf8EncodeChar c).flatMap octet

def percent (set : Char → Bool) (cs : List Char) : List Char :=
  cs.flatMap fun c => if set c then char c else [c]

theorem percent_eq_self (set : Char → Bool) (cs : List Char) (h : ∀ c ∈ cs, set c = false) :
    percent set cs = cs := by
  induction cs with
  | nil => rfl
  | cons c r ih =>
    have hr := ih (fun d hd => h d (List.mem_cons_of_mem _ hd))
    simp only [percent] at hr
    simp [percent, h c (List.mem_cons_self ..), hr]

def hexValue? (c : Char) : Option Nat :=
  if '0' ≤ c ∧ c ≤ '9' then some (c.toNat - 0x30)
  else if 'a' ≤ c ∧ c ≤ 'f' then some (c.toNat - 0x57)
  else if 'A' ≤ c ∧ c ≤ 'F' then some (c.toNat - 0x37)
  else none

def decode : List Char → Bytes
  | [] => []
  | '%' :: a :: b :: r =>
    match hexValue? a, hexValue? b with
    | some x, some y => UInt8.ofNat (16 * x + y) :: decode r
    | _, _ => 0x25 :: decode (a :: b :: r)
  | c :: r => String.utf8EncodeChar c ++ decode r

/-- An octet in the form of web forms: letters, digits and `*-._` as they are, a space as `+`. -/
def formOctet (b : UInt8) : List Char :=
  let c := Char.ofNat b.toNat
  if c.isAlphanum || c == '*' || c == '-' || c == '.' || c == '_' then [c]
  else if c == ' ' then ['+']
  else octet b

def form (s : String) : String :=
  String.ofList ((Bytes.ofText s).flatMap formOctet)

end LayerTransfer.Url.Encode
