import LayerTransfer.Decimal.Double

namespace LayerTransfer.Json

/-- The parts of a numeral, digits in written order. An exponent is a sign (true for minus) and
digits. -/
structure Numeral where
  negative : Bool := false
  whole : List Nat := []
  fraction : List Nat := []
  exponent : Option (Bool × List Nat) := none
deriving DecidableEq, Repr

inductive Number
  | natural (n : Nat)
  | minus (n : Nat)
  | float (negative : Bool) (magnitude : Decimal.Double)
deriving DecidableEq, Repr

namespace Numeral

def digitsValue (ds : List Nat) : Nat :=
  ds.foldl (fun n d => 10 * n + d) 0

/-- Appends digits to `n` as long as the result fits 64 bits; the rest is given back. -/
def fill (n : Nat) : List Nat → Nat × List Nat
  | [] => (n, [])
  | d :: r => if 10 * n + d < UInt64.size then fill (10 * n + d) r else (n, d :: r)

/-- The product `d · 10 ^ e`, in steps of at most 308 decimal places. Two steps down reach zero
from any number of 64 bits. -/
def scale : Nat → Decimal.Double → Int → Option Decimal.Double
  | 0, d, _ => some d
  | steps + 1, d, e =>
    let power (k : Nat) : Option Decimal.Double := Decimal.Double.ofRatio (Nat.pow 10 k) 1
    if e.natAbs ≤ 308 then
      (power e.natAbs).bind fun p => if 0 ≤ e then d.mul p else d.div p
    else if d.isZero then some d
    else if 0 ≤ e then none
    else
      match (power 308).bind d.div with
      | some smaller => scale steps smaller (e + 308)
      | none => none

def magnitude (n : Numeral) : Option Decimal.Double :=
  let (s, dropped) := fill 0 n.whole
  let (s, unused) := fill s n.fraction
  let place : Int := dropped.length - (n.fraction.length - unused.length : Nat)
  let scaled (e : Int) := (Decimal.Double.ofRatio s 1).bind fun d => scale 4 d e
  match n.exponent with
  | none => scaled place
  | some (down, ds) =>
    if digitsValue ds < Nat.pow 2 31 then
      scaled (if down then place - digitsValue ds else place + digitsValue ds)
    else if s = 0 ∨ down then some .zero
    else none

/-- The number; none if it is out of range. Minus zero is a float. Whole numbers of 64 bits are
exact, and any other numeral is got from its first digits by one scaling. -/
def number (n : Numeral) : Option Number :=
  let v := digitsValue n.whole
  let whole := n.fraction = [] ∧ n.exponent = none
  if whole ∧ !n.negative ∧ v < UInt64.size then some (.natural v)
  else if whole ∧ n.negative ∧ 0 < v ∧ v ≤ Nat.pow 2 63 then some (.minus v)
  else n.magnitude.map (.float n.negative)

end Numeral

def Number.text : Number → String
  | natural n => "integer " ++ "`" ++ toString n ++ "`"
  | minus n => "integer " ++ "`-" ++ toString n ++ "`"
  | float negative d =>
    "floating point " ++ "`" ++ (if negative then "-" else "") ++ d.text ++ "`"

end LayerTransfer.Json
