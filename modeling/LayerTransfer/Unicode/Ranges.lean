namespace LayerTransfer.Unicode

/-- The first and the last code point of each range, in ascending order. -/
abbrev Ranges := List (Nat × Nat)

def Ranges.holds (rs : Ranges) (c : Char) : Bool :=
  rs.any fun r => r.1 ≤ c.toNat && c.toNat ≤ r.2

end LayerTransfer.Unicode
