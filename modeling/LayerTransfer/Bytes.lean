namespace LayerTransfer

abbrev Bytes := List UInt8

namespace Bytes

def ofText (s : String) : Bytes :=
  s.toByteArray.data.toList

def text? (b : Bytes) : Option String :=
  String.fromUTF8? ⟨b.toArray⟩

def hexByte (b : UInt8) : List Char :=
  [Nat.digitChar (b.toNat / 16), Nat.digitChar (b.toNat % 16)]

def hex (b : Bytes) : String :=
  String.ofList (b.flatMap hexByte)

def total : Bytes → Nat
  | [] => 0
  | b :: r => b.toNat + total r

def zeros (n : Nat) : Bytes :=
  List.replicate n 0

def bigEndian : Nat → Nat → Bytes
  | 0, _ => []
  | width + 1, n => bigEndian width (n / 256) ++ [UInt8.ofNat (n % 256)]

@[simp] theorem length_zeros (n : Nat) : (zeros n).length = n := by simp [zeros]

@[simp] theorem length_bigEndian (width n : Nat) : (bigEndian width n).length = width := by
  induction width generalizing n with
  | zero => rfl
  | succ width ih => simp [bigEndian, ih]

theorem ofText_eq_flatMap (s : String) : ofText s = s.toList.flatMap String.utf8EncodeChar := by
  rw [ofText, ← String.utf8Encode_toList, List.utf8Encode, List.toList_data_toByteArray]

theorem ofText_append (s t : String) : ofText (s ++ t) = ofText s ++ ofText t := by
  simp [ofText_eq_flatMap]

theorem utf8EncodeChar_of_ascii {c : Char} (h : c.toNat < 0x80) :
    String.utf8EncodeChar c = [UInt8.ofNat c.toNat] := by
  have hc : c.val.toNat ≤ 0x7f := Nat.le_of_lt_succ h
  simp only [String.utf8EncodeChar, hc, if_true]
  rfl

theorem ofText_of_ascii {s : String} (h : ∀ c ∈ s.toList, c.toNat < 0x80) :
    ofText s = s.toList.map fun c => UInt8.ofNat c.toNat := by
  rw [ofText_eq_flatMap]
  generalize s.toList = cs at h ⊢
  induction cs with
  | nil => rfl
  | cons c r ih =>
    rw [List.flatMap_cons, utf8EncodeChar_of_ascii (h c (List.mem_cons_self ..)),
      ih fun d hd => h d (List.mem_cons_of_mem _ hd)]
    rfl

theorem utf8EncodeChar_eq_cons (c : Char) :
    ∃ b r, String.utf8EncodeChar c = b :: r ∧ ¬(0x80 ≤ b ∧ b < 0xc0) ∧ r.length ≤ 3 := by
  have lead (n : Nat) (h : n < 0x80 ∨ 0xc0 ≤ n ∧ n < 0x100) :
      ¬(0x80 ≤ UInt8.ofNat n ∧ UInt8.ofNat n < 0xc0) := by
    rw [UInt8.le_iff_toNat_le, UInt8.lt_iff_toNat_lt, UInt8.toNat_ofNat']
    simp only [UInt8.toNat_ofNat]
    omega
  unfold String.utf8EncodeChar
  simp only
  split
  · exact ⟨_, _, rfl, lead _ (by omega), by simp⟩
  · split
    · exact ⟨_, _, rfl, lead _ (by omega), by simp⟩
    · split
      · exact ⟨_, _, rfl, lead _ (by omega), by simp⟩
      · exact ⟨_, _, rfl, lead _ (by omega), by simp⟩

/-- Of four octets of a text in a row, one starts a character. -/
theorem exists_start_ofText (s : String) {i : Nat} (hi : i < (ofText s).length) :
    ∃ j b, j ≤ i ∧ i ≤ j + 3 ∧ (ofText s)[j]? = some b ∧ ¬(0x80 ≤ b ∧ b < 0xc0) := by
  rw [ofText_eq_flatMap] at hi ⊢
  generalize s.toList = cs at hi ⊢
  induction cs generalizing i with
  | nil => simp at hi
  | cons c r ih =>
    obtain ⟨b, bs, he, hb, hl⟩ := utf8EncodeChar_eq_cons c
    rw [List.flatMap_cons, he] at hi ⊢
    by_cases h : i ≤ bs.length
    · exact ⟨0, b, Nat.zero_le i, by omega, by simp, hb⟩
    · simp only [List.length_append, List.length_cons] at hi
      obtain ⟨j, d, hj, hij, hd, hs⟩ := ih (i := i - (bs.length + 1)) (by omega)
      refine ⟨j + (bs.length + 1), d, by omega, by omega, ?_, hs⟩
      rw [List.getElem?_append_right (by simp)]
      simpa using hd

theorem text?_eq_some_iff {b : Bytes} {s : String} : b.text? = some s ↔ b = ofText s := by
  unfold text? ofText String.fromUTF8?
  constructor
  · intro h
    split at h
    · simp only [Option.some.injEq] at h
      subst h
      simp [String.fromUTF8]
    · simp at h
  · rintro rfl
    have hv : (⟨s.toByteArray.data.toList.toArray⟩ : ByteArray).IsValidUTF8 := by
      simpa using s.isValidUTF8
    rw [dif_pos hv]
    simp [String.fromUTF8]

@[simp] theorem text?_ofText (s : String) : (ofText s).text? = some s :=
  text?_eq_some_iff.2 rfl

theorem ofText_injective {s t : String} (h : ofText s = ofText t) : s = t := by
  have hs := text?_ofText s
  rw [h, text?_ofText] at hs
  exact (Option.some.inj hs).symm

theorem length_le_length_ofText (s : String) : s.length ≤ (ofText s).length := by
  rw [ofText_eq_flatMap, ← String.length_toList]
  generalize s.toList = cs
  induction cs with
  | nil => exact Nat.le_refl 0
  | cons c r ih =>
    obtain ⟨b, bs, he, -, -⟩ := utf8EncodeChar_eq_cons c
    rw [List.flatMap_cons, he]
    simp only [List.length_append, List.length_cons]
    omega

end Bytes

end LayerTransfer
