import LayerTransfer.Decimal.Rounding

namespace LayerTransfer.Log

def kilobyte : Nat := 1024

def megabyte : Nat := 1024 * kilobyte

def gigabyte : Nat := 1024 * megabyte

/-- The number `n` to 53 significant binary digits, a half to the even neighbour. -/
def significant (n : Nat) : Nat :=
  if n < Nat.pow 2 53 then n
  else
    let unit := Nat.pow 2 (n.log2 - 52)
    Decimal.roundDiv n unit * unit

def sizeText (bytes : UInt64) : String :=
  let n := bytes.toNat
  if n < kilobyte then toString n ++ " B"
  else if n < megabyte then Decimal.onePlace (significant n) kilobyte ++ " KB"
  else if n < gigabyte then Decimal.onePlace (significant n) megabyte ++ " MB"
  else Decimal.onePlace (significant n) gigabyte ++ " GB"

def durationText (millis : Nat) : String :=
  let s := millis / 1000
  if s < 60 then toString s ++ "s"
  else if s < 3600 then toString (s / 60) ++ "m" ++ toString (s % 60) ++ "s"
  else toString (s / 3600) ++ "h" ++ toString (s % 3600 / 60) ++ "m" ++ toString (s % 60) ++ "s"

end LayerTransfer.Log
