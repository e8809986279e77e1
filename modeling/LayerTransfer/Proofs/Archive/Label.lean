import LayerTransfer.Archive.Member

namespace LayerTransfer.Archive

theorem mod_pow_succ (base width n : Nat) :
    n % Nat.pow base (width + 1) = base * (n / base % Nat.pow base width) + n % base := by
  rw [Nat.pow_eq, Nat.pow_eq, Nat.pow_succ, Nat.mul_comm, Nat.mod_mul, Nat.add_comm]

theorem toNat_octal_digit (n : Nat) : (UInt8.ofNat (0x30 + n % 8)).toNat = 0x30 + n % 8 := by
  rw [UInt8.toNat_ofNat']
  omega

theorem octal_digit_bounds (n : Nat) :
    (0x30 : UInt8) ≤ UInt8.ofNat (0x30 + n % 8) ∧ UInt8.ofNat (0x30 + n % 8) < 0x38 := by
  rw [UInt8.le_iff_toNat_le, UInt8.lt_iff_toNat_lt, toNat_octal_digit]
  exact ⟨Nat.le_add_right .., by simp; omega⟩

theorem mem_octal {width n : Nat} {b : UInt8} (h : b ∈ octal width n) :
    (0x30 : UInt8) ≤ b ∧ b < 0x38 := by
  induction width generalizing n with
  | zero => simp [octal] at h
  | succ width ih =>
    rw [octal, List.mem_append, List.mem_singleton] at h
    rcases h with h | rfl
    · exact ih h
    · exact octal_digit_bounds n

theorem ne_zero_of_mem_octal {width n : Nat} {b : UInt8} (h : b ∈ octal width n) : b ≠ 0 := by
  rintro rfl
  exact absurd (mem_octal h).1 (by decide)

def octalStep (n : Nat) (b : UInt8) : Option Nat :=
  if 0x30 ≤ b ∧ b < 0x38 then some (8 * n + (b.toNat - 0x30)) else none

theorem foldlM_octal (width n start : Nat) :
    (octal width n).foldlM octalStep start = some (start * Nat.pow 8 width + n % Nat.pow 8 width) := by
  induction width generalizing n with
  | zero => simp [octal, Nat.mod_one]
  | succ width ih =>
    have hd := octal_digit_bounds n
    have hp : Nat.pow 8 (width + 1) = Nat.pow 8 width * 8 := rfl
    rw [octal, List.foldlM_append, ih, mod_pow_succ, hp]
    simp only [Option.bind_eq_bind, Option.bind_some, List.foldlM_cons, List.foldlM_nil, octalStep,
      hd, and_self, if_true, toNat_octal_digit, Option.pure_def, Option.some.injEq]
    generalize Nat.pow 8 width = p
    generalize n / 8 % p = q
    rw [← Nat.mul_assoc start]
    omega

theorem octal?_octalField {width n : Nat} (h : n < Nat.pow 8 width) :
    octal? (octalField width n) = some n := by
  have hd : ((octalField width n).takeWhile (· ≠ 0)) = octal width n := by
    rw [octalField, List.takeWhile_append_of_pos]
    · simp
    · exact fun b hb => by simpa using ne_zero_of_mem_octal hb
  have hf := foldlM_octal width n 0
  rw [Nat.zero_mul, Nat.zero_add, Nat.mod_eq_of_lt h] at hf
  rw [octal?, hd]
  exact hf

theorem foldl_bigEndian (width n start : Nat) :
    (Bytes.bigEndian width n).foldl (fun n b => 256 * n + b.toNat) start =
      start * Nat.pow 256 width + n % Nat.pow 256 width := by
  induction width generalizing n with
  | zero => simp [Bytes.bigEndian, Nat.mod_one]
  | succ width ih =>
    have hp : Nat.pow 256 (width + 1) = Nat.pow 256 width * 256 := rfl
    have hb : (UInt8.ofNat (n % 256)).toNat = n % 256 := by
      rw [UInt8.toNat_ofNat']
      omega
    rw [Bytes.bigEndian, List.foldl_append, ih, mod_pow_succ, hp]
    simp only [List.foldl_cons, List.foldl_nil, hb]
    generalize Nat.pow 256 width = p
    generalize n / 256 % p = q
    rw [← Nat.mul_assoc start]
    omega

theorem size?_sizeField (size : UInt64) : size? (sizeField size) = some size.toNat := by
  rw [sizeField]
  split
  next h =>
    have ho : octalField 11 size.toNat =
        UInt8.ofNat (0x30 + size.toNat / 8 / 8 / 8 / 8 / 8 / 8 / 8 / 8 / 8 / 8 % 8) ::
          (octalField 11 size.toNat).tail := rfl
    have hn : ∀ r, octalField 11 size.toNat ≠ 0x80 :: r := by
      intro r hr
      rw [ho, List.cons.injEq] at hr
      have hd := (octal_digit_bounds (size.toNat / 8 / 8 / 8 / 8 / 8 / 8 / 8 / 8 / 8 / 8)).2
      rw [hr.1] at hd
      exact absurd hd (by decide)
    unfold size?
    split
    next r hr => exact absurd hr (hn r)
    next => exact octal?_octalField h
  next =>
    have hs : size.toNat < Nat.pow 256 8 := size.toNat_lt
    have hf := foldl_bigEndian 8 size.toNat 0
    rw [Nat.zero_mul, Nat.zero_add, Nat.mod_eq_of_lt hs] at hf
    simpa [size?] using hf

def Header.label (h : Header) : Label where
  name := h.name.octets.takeWhile (· ≠ 0)
  mode := 0o644
  owner := 0
  group := 0
  size := h.size.toNat
  time := 0
  kind := h.kind

theorem slice_append {a b c : Bytes} {start width : Nat} (ha : a.length = start)
    (hb : b.length = width) : slice (a ++ b ++ c) start width = b := by
  rw [slice, List.append_assoc, ← ha, List.drop_left, ← hb, List.take_left]

theorem total_le (b : Bytes) : b.total ≤ 255 * b.length := by
  induction b with
  | nil => exact Nat.le_refl 0
  | cons c r ih =>
    have hc := c.toNat_lt
    rw [Bytes.total, List.length_cons]
    omega

@[simp] theorem length_before (h : Header) : h.before.length = 148 := by
  simp [Header.before, h.name.length_eq, nameWidth]

@[simp] theorem length_after (h : Header) : h.after.length = 356 := by
  have hm : (Bytes.ofText "ustar  ").length = 7 := by decide
  simp [Header.after, hm]

theorem checksum_lt (h : Header) : h.checksum < Nat.pow 8 7 := by
  have hb := total_le h.before
  have ha := total_le h.after
  rw [length_before] at hb
  rw [length_after] at ha
  have hp : Nat.pow 8 7 = 2097152 := by decide
  rw [Header.checksum, hp]
  omega

theorem blockSum_bytes (h : Header) : blockSum h.bytes = h.checksum := by
  have ht : h.bytes.take 148 = h.before := by
    rw [Header.bytes, List.append_assoc, List.take_left' (length_before h)]
  have hd : h.bytes.drop 156 = h.after := by
    rw [Header.bytes, List.drop_left' (by simp)]
  rw [blockSum, ht, hd, Header.checksum]

theorem ofFlag?_flag (k : Kind) : Kind.ofFlag? k.flag = some k := by
  cases k <;> decide

theorem read?_bytes (h : Header) : Label.read? h.bytes = some h.label := by
  have hn : h.name.octets.length = nameWidth := h.name.length_eq
  have hsum : slice h.bytes 148 8 = octalField 7 h.checksum :=
    slice_append (length_before h) (by simp)
  have hmode : slice h.bytes 100 8 = octalField 7 0o644 := by
    simp only [Header.bytes, Header.before, List.append_assoc]
    rw [← List.append_assoc]
    exact slice_append hn (by simp)
  have howner : slice h.bytes 108 8 = octalField 7 0 := by
    simp only [Header.bytes, Header.before, List.append_assoc]
    rw [← List.append_assoc, ← List.append_assoc]
    exact slice_append (by simp [hn, nameWidth]) (by simp)
  have hgroup : slice h.bytes 116 8 = octalField 7 0 := by
    simp only [Header.bytes, Header.before, List.append_assoc]
    rw [← List.append_assoc, ← List.append_assoc, ← List.append_assoc]
    exact slice_append (by simp [hn, nameWidth]) (by simp)
  have hsize : slice h.bytes 124 12 = sizeField h.size := by
    simp only [Header.bytes, Header.before, List.append_assoc]
    rw [← List.append_assoc, ← List.append_assoc, ← List.append_assoc, ← List.append_assoc]
    exact slice_append (by simp [hn, nameWidth]) (by simp)
  have htime : slice h.bytes 136 12 = octalField 11 0 := by
    simp only [Header.bytes, Header.before, List.append_assoc]
    rw [← List.append_assoc, ← List.append_assoc, ← List.append_assoc, ← List.append_assoc,
      ← List.append_assoc]
    exact slice_append (by simp [hn, nameWidth]) (by simp)
  have hflag : h.bytes[156]? = some h.kind.flag := by
    rw [Header.bytes, List.getElem?_append_right (by simp)]
    simp [Header.after]
  have hname : h.bytes.take nameWidth = h.name.octets := by
    simp only [Header.bytes, Header.before, List.append_assoc]
    exact List.take_left' hn
  rw [Label.read?, hsum, hmode, howner, hgroup, hsize, htime, hflag, hname, blockSum_bytes,
    octal?_octalField (checksum_lt h), octal?_octalField (by decide),
    octal?_octalField (by decide), size?_sizeField, octal?_octalField (by decide)]
  simp [ofFlag?_flag, Header.label]

end LayerTransfer.Archive
