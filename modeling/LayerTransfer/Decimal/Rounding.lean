namespace LayerTransfer.Decimal

/-- The quotient `num / den` to the nearest whole number, a half to the even neighbour. -/
def roundDiv (num den : Nat) : Nat :=
  let q := num / den
  let twice := 2 * (num % den)
  if twice < den then q
  else if den < twice then q + 1
  else if q % 2 = 0 then q else q + 1

def onePlace (num den : Nat) : String :=
  let tenths := roundDiv (num * 10) den
  toString (tenths / 10) ++ "." ++ toString (tenths % 10)

end LayerTransfer.Decimal
