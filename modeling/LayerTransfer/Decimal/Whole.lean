namespace LayerTransfer.Decimal

def digits? : List Char → Option Nat
  | [] => none
  | cs =>
    if cs.all Char.isDigit then some (cs.foldl (fun n c => 10 * n + (c.toNat - '0'.toNat)) 0)
    else none

/-- A whole number of 64 bits. A plus sign may stand in front. -/
def parseU64 (s : String) : Option UInt64 :=
  let digits := match s.toList with
    | '+' :: r => r
    | cs => cs
  (digits? digits).bind fun n => if n < UInt64.size then some (UInt64.ofNat n) else none

end LayerTransfer.Decimal
