import LayerTransfer.Decimal.Rounding

namespace LayerTransfer.Decimal

/-- The number `significand · 2 ^ exponent`. -/
structure Double where
  significand : Nat
  exponent : Int
deriving DecidableEq, Repr

namespace Double

def zero : Double := ⟨0, 0⟩

def scaled (num den : Nat) (e : Int) : Nat × Nat :=
  if 0 ≤ e then (num * Nat.pow 2 e.toNat, den) else (num, den * Nat.pow 2 (-e).toNat)

/-- The nearest number of the format, a half to the even neighbour; none beyond its range. -/
def ofRatio (num den : Nat) : Option Double :=
  if num = 0 then some zero
  else
    let guess : Int := max (-1074) ((num.log2 : Int) - den.log2 - 53)
    let parts := scaled num den (-guess)
    let e := if parts.1 / parts.2 < Nat.pow 2 53 then guess else guess + 1
    let parts := scaled num den (-e)
    let m := roundDiv parts.1 parts.2
    let d : Double := if m = Nat.pow 2 53 then ⟨Nat.pow 2 52, e + 1⟩ else ⟨m, e⟩
    if 971 < d.exponent then none else some d

def ratio (d : Double) : Nat × Nat :=
  scaled d.significand 1 d.exponent

def isZero (d : Double) : Bool := d.significand == 0

def mul (a b : Double) : Option Double :=
  let p := scaled (a.significand * b.significand) 1 (a.exponent + b.exponent)
  ofRatio p.1 p.2

def div (a b : Double) : Option Double :=
  let p := scaled a.significand b.significand (a.exponent - b.exponent)
  ofRatio p.1 p.2

/-- The ends of the interval of reals that round to `d`, over one denominator, with that
denominator. -/
def interval (d : Double) : Nat × Nat × Nat :=
  let low := if d.significand = Nat.pow 2 52 ∧ -1074 < d.exponent then 4 * d.significand - 1
    else 4 * d.significand - 2
  let l := scaled low 1 (d.exponent - 2)
  let h := scaled (4 * d.significand + 2) 1 (d.exponent - 2)
  (l.1, h.1, l.2)

def holds (d : Double) (num den : Nat) : Bool :=
  let (low, high, unit) := d.interval
  let x := num * unit
  if d.significand % 2 = 0 then low * den ≤ x && x ≤ high * den
  else low * den < x && x < high * den

def leading (num den : Nat) : Int :=
  let guess : Int := ((num.log2 : Int) - den.log2) * 30103 / 100000 - 1
  let reaches (k : Int) : Bool :=
    if 0 ≤ k then den * Nat.pow 10 k.toNat ≤ num else den ≤ num * Nat.pow 10 (-k).toNat
  if reaches (guess + 2) then guess + 2 else if reaches (guess + 1) then guess + 1 else guess

/-- The digits and the exponent of the nearest number with `n` digits that reads back as `d`. -/
def candidate (d : Double) (n : Nat) : Option (Nat × Int) :=
  let (num, den) := d.ratio
  let unit : Int := leading num den - n + 1
  let (p, q) :=
    if 0 ≤ unit then (num, den * Nat.pow 10 unit.toNat) else (num * Nat.pow 10 (-unit).toNat, den)
  let below := p / q
  let fits (digits : Nat) : Bool :=
    if 0 ≤ unit then d.holds (digits * Nat.pow 10 unit.toNat) 1
    else d.holds digits (Nat.pow 10 (-unit).toNat)
  let nearer := roundDiv p q
  let other := if nearer = below then below + 1 else below
  if fits nearer then some (nearer, unit) else if fits other then some (other, unit) else none

def dropZeros : Nat → Nat → Int → Nat × Int
  | 0, digits, e => (digits, e)
  | fuel + 1, digits, e =>
    if digits % 10 = 0 ∧ digits ≠ 0 then dropZeros fuel (digits / 10) (e + 1) else (digits, e)

/-- The fewest digits that read back as `d`, with their exponent. -/
def shortest (d : Double) : Nat × Int :=
  let found := ((List.range 17).map (· + 1)).findSome? (candidate d)
  match found with
  | some (digits, e) => dropZeros 20 digits e
  | none => (d.significand, 0)

/-- Decimal text: positional from `0.00001` up to sixteen digits before the point, otherwise with
an exponent that carries its sign. -/
def text (d : Double) : String :=
  if d.isZero then "0.0"
  else
    let (digits, e) := d.shortest
    let ds := (toString digits).toList
    let point : Int := ds.length + e
    if 0 ≤ e ∧ point ≤ 16 then
      String.ofList (ds ++ List.replicate e.toNat '0' ++ ".0".toList)
    else if 0 < point ∧ point ≤ 16 then
      String.ofList (ds.take point.toNat ++ '.' :: ds.drop point.toNat)
    else if -5 < point ∧ point ≤ 0 then
      String.ofList ("0.".toList ++ List.replicate (-point).toNat '0' ++ ds)
    else
      let mantissa := if ds.length = 1 then ds else ds.take 1 ++ '.' :: ds.drop 1
      let power := point - 1
      let sign := if power < 0 then "e-" else "e+"
      String.ofList mantissa ++ sign ++ toString power.natAbs

end Double

end LayerTransfer.Decimal
