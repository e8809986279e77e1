import LayerTransfer.Text.Cut

namespace LayerTransfer.Idna.Punycode

def digitChar (d : Nat) : Char := if d < 26 then Char.ofNat (0x61 + d) else Char.ofNat (0x16 + d)

def digit? (c : Char) : Option Nat :=
  if 'a' ≤ c ∧ c ≤ 'z' then some (c.toNat - 0x61)
  else if '0' ≤ c ∧ c ≤ '9' then some (c.toNat - 0x16)
  else none

/-- A digit below this value is the last one of its number. -/
def threshold (place bias : Nat) : Nat :=
  if place ≤ bias then 1 else if bias + 26 ≤ place then 26 else place - bias

theorem threshold_pos (place bias : Nat) : 1 ≤ threshold place bias := by
  unfold threshold
  split
  · omega
  · split <;> omega

def settle (k delta : Nat) : Nat :=
  if 455 < delta then settle (k + 36) (delta / 35) else k + 36 * delta / (delta + 38)
termination_by delta

def adapt (delta count : Nat) (first : Bool) : Nat :=
  let delta := if first then delta / 700 else delta / 2
  settle 0 (delta + delta / count)

/-- The characters so far, the place and the code point of the one added last, and the bias; within
a number, the value at its start and the weight and place of the next digit. -/
structure Reading where
  text : List Char
  position : Nat := 0
  point : Nat := 128
  bias : Nat := 72
  start : Nat := 0
  weight : Nat := 1
  place : Nat := 36

/-- One more digit. Values and weights have 32 bits. -/
def Reading.next (s : Reading) (d : Nat) : Option Reading :=
  let i := s.position + d * s.weight
  let weight := s.weight * (36 - threshold s.place s.bias)
  if UInt32.size ≤ i then none
  else if d < threshold s.place s.bias then
    let count := s.text.length + 1
    let point := s.point + i / count
    if point.isValidChar then
      some
        { text := s.text.insertIdx (i % count) (Char.ofNat point)
          position := i % count + 1
          point
          bias := adapt (i - s.start) count (s.start == 0)
          start := i % count + 1 }
    else none
  else if UInt32.size ≤ weight then none
  else some { s with position := i, weight, place := s.place + 36 }

def cut (cs : List Char) : List Char × List Char :=
  match Text.Cut.atLast '-' cs with
  | some (a :: r, digits) => (a :: r, digits)
  | _ => ([], cs)

def decode? (cs : List Char) : Option (List Char) :=
  let (plain, digits) := cut cs
  ((digits.mapM digit?).bind (·.foldlM Reading.next { text := plain })).bind fun s =>
    if s.place = 36 then some s.text else none

def digits (bias place n : Nat) : List Char :=
  let t := threshold place bias
  if n < t then [digitChar n]
  else digitChar (t + (n - t) % (36 - t)) :: digits bias (place + 36) ((n - t) / (36 - t))
termination_by n
decreasing_by
  have := threshold_pos place bias
  exact Nat.lt_of_le_of_lt (Nat.div_le_self _ _) (by omega)

structure Writing where
  text : List Char := []
  delta : Nat := 0
  bias : Nat := 72
  count : Nat

def Writing.pass (plain m : Nat) (s : Writing) (c : Char) : Writing :=
  if c.toNat < m then { s with delta := s.delta + 1 }
  else if c.toNat = m then
    { text := s.text ++ digits s.bias 36 s.delta
      bias := adapt s.delta (s.count + 1) (s.count == plain)
      count := s.count + 1 }
  else s

/-- Writes the characters of the code points `ms`, which rise from `n` on. -/
def write (cs : List Char) (plain : Nat) : Nat → List Nat → Writing → List Char
  | _, [], s => s.text
  | n, m :: ms, s =>
    let s := cs.foldl (Writing.pass plain m) { s with delta := s.delta + (m - n) * (s.count + 1) }
    write cs plain (m + 1) ms { s with delta := s.delta + 1 }

def insert (m : Nat) : List Nat → List Nat
  | [] => [m]
  | n :: r => if m < n then m :: n :: r else if m = n then n :: r else n :: insert m r

def encode (cs : List Char) : List Char :=
  let plain := cs.filter (·.toNat < 128)
  let points := ((cs.filter (128 ≤ ·.toNat)).map Char.toNat).foldr insert []
  plain ++ (if plain.isEmpty then [] else ['-']) ++
    write cs plain.length 128 points { count := plain.length }

end LayerTransfer.Idna.Punycode
