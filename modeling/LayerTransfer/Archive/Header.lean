import LayerTransfer.Archive.Name

namespace LayerTransfer.Archive

def blockSize : Nat := 512

def octal : Nat → Nat → Bytes
  | 0, _ => []
  | width + 1, n => octal width (n / 8) ++ [UInt8.ofNat (0x30 + n % 8)]

def octalField (width n : Nat) : Bytes :=
  octal width n ++ [0]

/-- Eleven octal digits or, from 8 GiB on, eight octets in base 256 behind a mark. -/
def sizeField (size : UInt64) : Bytes :=
  if size.toNat < Nat.pow 8 11 then octalField 11 size.toNat
  else [0x80, 0, 0, 0] ++ Bytes.bigEndian 8 size.toNat

inductive Kind
  | file
  | longName
deriving DecidableEq, Repr

def Kind.flag : Kind → UInt8
  | file => 0x30
  | longName => 0x4c

structure Header where
  name : NameField
  size : UInt64
  kind : Kind

namespace Header

def before (h : Header) : Bytes :=
  h.name.octets ++ octalField 7 0o644 ++ octalField 7 0 ++ octalField 7 0 ++ sizeField h.size ++
    octalField 11 0

def after (h : Header) : Bytes :=
  [h.kind.flag] ++ Bytes.zeros 100 ++ Bytes.ofText "ustar  " ++ [0] ++ Bytes.zeros 247

/-- The sum of all octets, with spaces in place of the checksum. -/
def checksum (h : Header) : Nat :=
  h.before.total + 8 * 0x20 + h.after.total

def bytes (h : Header) : Bytes :=
  h.before ++ octalField 7 h.checksum ++ h.after

end Header

@[simp] theorem length_octal (width n : Nat) : (octal width n).length = width := by
  induction width generalizing n with
  | zero => rfl
  | succ width ih => simp [octal, ih]

@[simp] theorem length_octalField (width n : Nat) : (octalField width n).length = width + 1 := by
  simp [octalField]

@[simp] theorem length_sizeField (size : UInt64) : (sizeField size).length = 12 := by
  unfold sizeField
  split <;> simp

@[simp] theorem length_header (h : Header) : h.bytes.length = blockSize := by
  have hm : (Bytes.ofText "ustar  ").length = 7 := by decide
  simp [Header.bytes, Header.before, Header.after, h.name.length_eq, nameWidth, blockSize, hm]

end LayerTransfer.Archive
