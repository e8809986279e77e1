import LayerTransfer.Archive.Entry

namespace LayerTransfer.Archive

def octal? (field : Bytes) : Option Nat :=
  (field.takeWhile (· ≠ 0)).foldlM
    (fun n b => if 0x30 ≤ b ∧ b < 0x38 then some (8 * n + (b.toNat - 0x30)) else none) 0

def size? (field : Bytes) : Option Nat :=
  match field with
  | 0x80 :: r => some (r.foldl (fun n b => 256 * n + b.toNat) 0)
  | _ => octal? field

def Kind.ofFlag? (b : UInt8) : Option Kind :=
  if b = Kind.file.flag then some .file
  else if b = Kind.longName.flag then some .longName
  else none

def slice (block : Bytes) (start width : Nat) : Bytes :=
  (block.drop start).take width

def blockSum (block : Bytes) : Nat :=
  Bytes.total (block.take 148) + 8 * 0x20 + Bytes.total (block.drop 156)

structure Label where
  name : Bytes
  mode : Nat
  owner : Nat
  group : Nat
  size : Nat
  time : Nat
  kind : Kind
deriving DecidableEq, Repr

def Label.read? (block : Bytes) : Option Label := do
  let sum ← octal? (slice block 148 8)
  let mode ← octal? (slice block 100 8)
  let owner ← octal? (slice block 108 8)
  let group ← octal? (slice block 116 8)
  let size ← size? (slice block 124 12)
  let time ← octal? (slice block 136 12)
  let flag ← block[156]?
  let kind ← Kind.ofFlag? flag
  let name := (block.take nameWidth).takeWhile (· ≠ 0)
  if sum = blockSum block then return { name, mode, owner, group, size, time, kind } else none

/-- A header and the octets behind it, as many as it tells; fewer where the file ends before. -/
structure Record where
  label : Label
  content : Bytes
deriving DecidableEq, Repr

def atEnd (b : Bytes) : Bool :=
  b.length < blockSize || (b.take blockSize).all (· == 0)

theorem blockSize_le_of_not_atEnd {b : Bytes} (h : ¬atEnd b = true) : blockSize ≤ b.length := by
  simp only [atEnd, Bool.or_eq_true, decide_eq_true_eq, not_or] at h
  omega

/-- The records from here on and what stands behind them; none where a block is no header. -/
def records? (b : Bytes) : Option (List Record × Bytes) :=
  if h : atEnd b = true then some ([], b)
  else
    have := blockSize_le_of_not_atEnd h
    (Label.read? (b.take blockSize)).bind fun label =>
      (records? (b.drop (blockSize + (label.size + gap label.size)))).map fun p =>
        (⟨label, (b.drop blockSize).take label.size⟩ :: p.1, p.2)
termination_by b.length
decreasing_by
  have : 0 < blockSize := by decide
  simp only [List.length_drop]
  omega

structure Member where
  label : Label
  content : Bytes
deriving DecidableEq, Repr

def Member.isWhole (m : Member) : Bool :=
  m.content.length == m.label.size

/-- The entries that records make up. A long name belongs to the entry behind it. -/
def assemble (long : Option Bytes) : List Record → List Member
  | [] => []
  | r :: rs =>
    match r.label.kind with
    | .longName => assemble (some (r.content.takeWhile (· ≠ 0))) rs
    | .file => ⟨{ r.label with name := long.getD r.label.name }, r.content⟩ :: assemble none rs

def members? (file : Bytes) : Option (List Member × Bytes) :=
  (records? file).map fun p => (assemble none p.1, p.2)

end LayerTransfer.Archive
