import LayerTransfer.Idna.Domain
import LayerTransfer.Text.Cut
import LayerTransfer.Url.Encode

namespace LayerTransfer.Url

inductive Fault
  | noScheme
  | emptyHost
  | domain
  | character
  | port
  | ipv4
  | ipv6
deriving DecidableEq, Repr

def Fault.message : Fault → String
  | noScheme => "relative URL without a base"
  | emptyHost => "empty host"
  | domain => "invalid international domain name"
  | character => "invalid domain character"
  | port => "invalid port number"
  | ipv4 => "invalid IPv4 address"
  | ipv6 => "invalid IPv6 address"

namespace Host

def radix? (base : Nat) : List Char → Option Nat
  | cs =>
    cs.foldlM (fun n c =>
      (Encode.hexValue? c).bind fun d => if d < base then some (base * n + d) else none) 0

def number? : List Char → Option Nat
  | [] => none
  | '0' :: 'x' :: r | '0' :: 'X' :: r => radix? 16 r
  | '0' :: c :: r => radix? 8 (c :: r)
  | cs => radix? 10 cs

def labels (cs : List Char) : List (List Char) :=
  let ps := Text.Cut.pieces '.' cs
  if ps.length > 1 ∧ ps.getLast? = some [] then ps.dropLast else ps

def isAddress (cs : List Char) : Bool :=
  match (labels cs).getLast? with
  | none => false
  | some l => (!l.isEmpty && l.all Char.isDigit) || (number? l).isSome

/-- The address from its numbers: all but the last are one octet each. -/
def join4? (ns : List Nat) : Option Nat :=
  match ns.reverse with
  | [] => none
  | last :: front =>
    if ns.length ≤ 4 ∧ front.all (· < 256) ∧ last < Nat.pow 256 (4 - front.length) then
      some (front.foldr (fun n high => 256 * high + n) 0 * Nat.pow 256 (4 - front.length) + last)
    else none

def text4 (n : Nat) : List Char :=
  let part (i : Nat) : String := toString (n / Nat.pow 256 i % 256)
  (part 3 ++ "." ++ part 2 ++ "." ++ part 1 ++ "." ++ part 0).toList

def address4 (cs : List Char) : Except Fault (List Char) :=
  match ((labels cs).mapM number?).bind join4? with
  | some n => .ok (text4 n)
  | none => .error .ipv4

def group? (cs : List Char) : Option Nat :=
  if cs.isEmpty || cs.length > 4 then none else radix? 16 cs

def tail4? (cs : List Char) : Option (List Nat) :=
  let plain (l : List Char) : Bool :=
    !l.isEmpty && l.length ≤ 3 && l.all Char.isDigit && (l.length = 1 || l.head? ≠ some '0')
  let ps := Text.Cut.pieces '.' cs
  if ps.length = 4 ∧ ps.all plain then
    match ps.mapM (radix? 10) with
    | some [a, b, c, d] => if a < 256 ∧ b < 256 ∧ c < 256 ∧ d < 256 then
        some [a * 256 + b, c * 256 + d] else none
    | _ => none
  else none

/-- The groups of a part without a double colon. An address of version 4 may end the last part. -/
def groups? (last : Bool) : List (List Char) → Option (List Nat)
  | [] => some []
  | [p] => if last ∧ '.' ∈ p then tail4? p else (group? p).map ([·])
  | p :: ps => (group? p).bind fun g => (groups? last ps).map (g :: ·)

def cutDouble : List Char → Option (List Char × List Char)
  | ':' :: ':' :: r => some ([], r)
  | c :: r => (cutDouble r).map fun p => (c :: p.1, p.2)
  | [] => none

def part? (last : Bool) (cs : List Char) : Option (List Nat) :=
  if cs.isEmpty then some [] else groups? last (Text.Cut.pieces ':' cs)

/-- The eight groups of an address. A double colon stands for one or more zero groups. -/
def groups6? (cs : List Char) : Option (List Nat) :=
  match cutDouble cs with
  | none => (part? true cs).bind fun gs => if gs.length = 8 then some gs else none
  | some (a, b) =>
    match part? false a, part? true b with
    | some x, some y =>
      if x.length + y.length < 8 then
        some (x ++ List.replicate (8 - x.length - y.length) 0 ++ y)
      else none
    | _, _ => none

def longestZeros (i : Nat) : List Nat → Nat × Nat
  | [] => (i, 0)
  | g :: r =>
    let here := ((g :: r).takeWhile (· = 0)).length
    let later := longestZeros (i + 1) r
    if later.2 ≤ here then (i, here) else later

def hexGroup (n : Nat) : List Char := Nat.toDigits 16 n

def joinGroups (gs : List Nat) : List Char :=
  List.intercalate [':'] (gs.map hexGroup)

/-- The usual spelling: the first longest run of at least two zero groups is left out. -/
def text6 (gs : List Nat) : List Char :=
  let (i, n) := longestZeros 0 gs
  if 2 ≤ n then joinGroups (gs.take i) ++ "::".toList ++ joinGroups (gs.drop (i + n))
  else joinGroups gs

def address6 (cs : List Char) : Except Fault (List Char) :=
  match groups6? cs with
  | some gs => .ok ('[' :: text6 gs ++ [']'])
  | none => .error .ipv6

def isSeparator (c : Char) : Bool :=
  c.toNat == 0 || "\t\n\r #/:<>?@[\\]^|".toList.contains c

def isForbidden (c : Char) : Bool :=
  c.toNat < 0x20 || c.toNat == 0x7f || c == '%' || isSeparator c

def bracketed (cs : List Char) : Except Fault (List Char) :=
  match cs.getLast? with
  | some ']' => address6 cs.dropLast
  | _ => .error .ipv6

def parse (cs : List Char) : Except Fault (List Char) :=
  match cs with
  | [] => .error .emptyHost
  | '[' :: r => bracketed r
  | _ =>
    match (Encode.decode cs : Bytes).text? with
    | none => .error .domain
    | some s =>
      match Idna.Domain.toAscii? isForbidden s.toList with
      | none => .error .domain
      | some [] => .error .emptyHost
      | some d => if isAddress d then address4 d else .ok d

/-- A host to which the scheme gives no meaning. It stays as it is written. -/
def verbatim (cs : List Char) : Except Fault (List Char) :=
  match cs with
  | '[' :: r => bracketed r
  | _ =>
    if cs.any isSeparator then .error .character else .ok (Encode.percent Encode.isControl cs)

end Host

end LayerTransfer.Url
