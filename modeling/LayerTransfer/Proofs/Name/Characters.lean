import LayerTransfer.Name.Reference

namespace LayerTransfer

open Text.Blank (isBlank)

theorem isAlphanum_eq (c : Char) : c.isAlphanum = (c.isUpper || c.isLower || c.isDigit) := rfl

theorem isAlphanum_iff {c : Char} : c.isAlphanum = true ↔
    0x41 ≤ c.toNat ∧ c.toNat ≤ 0x5a ∨ 0x61 ≤ c.toNat ∧ c.toNat ≤ 0x7a ∨
      0x30 ≤ c.toNat ∧ c.toNat ≤ 0x39 := by
  have hu : c.isUpper = decide (0x41 ≤ c.val ∧ c.val ≤ 0x5a) := rfl
  have hl : c.isLower = (decide (0x61 ≤ c.val) && decide (c.val ≤ 0x7a)) := rfl
  have hd : c.isDigit = (decide (0x30 ≤ c.val) && decide (c.val ≤ 0x39)) := rfl
  have hn : c.val.toNat = c.toNat := rfl
  simp [isAlphanum_eq, hu, hl, hd, UInt32.le_iff_toNat_le, hn, or_assoc]

namespace Name

def isVisible (c : Char) : Bool := 0x20 < c.toNat && c.toNat < 0x7f

theorem not_isBlank_of_isVisible {c : Char} (h : isVisible c = true) : isBlank c = false := by
  simp only [isVisible, Bool.and_eq_true, decide_eq_true_eq] at h
  simp only [isBlank, Bool.or_eq_false_iff, Bool.and_eq_false_iff, decide_eq_false_iff_not,
    beq_eq_false_iff_ne]
  omega

theorem isVisible_of_isAlphanum {c : Char} (h : c.isAlphanum = true) : isVisible c = true := by
  rw [isAlphanum_iff] at h
  simp only [isVisible, Bool.and_eq_true, decide_eq_true_eq]
  omega

theorem isVisible_of_isHostChar {c : Char} (h : isHostChar c = true) : isVisible c = true := by
  simp only [isHostChar, Bool.or_eq_true, beq_iff_eq] at h
  rcases h with ((((h | rfl) | rfl) | rfl) | rfl) | rfl
  · exact isVisible_of_isAlphanum h
  all_goals decide

theorem isVisible_of_isPathChar {c : Char} (h : isPathChar c = true) : isVisible c = true := by
  simp only [isPathChar, Bool.or_eq_true, beq_iff_eq] at h
  rcases h with (((h | h) | rfl) | rfl) | rfl
  · exact isVisible_of_isAlphanum (by simp [isAlphanum_eq, h])
  · exact isVisible_of_isAlphanum (by simp [isAlphanum_eq, h])
  all_goals decide

theorem isVisible_of_isTagChar {c : Char} (h : isTagChar c = true) : isVisible c = true := by
  simp only [isTagChar, Bool.or_eq_true, beq_iff_eq] at h
  rcases h with ((h | rfl) | rfl) | rfl
  · exact isVisible_of_isAlphanum h
  all_goals decide

theorem isTagChar_of_isTagStart {c : Char} (h : isTagStart c = true) : isTagChar c = true := by
  rw [isTagStart, Bool.or_eq_true] at h
  rcases h with h | h <;> simp [isTagChar, h]

theorem Registry.isHostChar_of_mem (r : Registry) {c : Char} (h : c ∈ r.host.toList) :
    isHostChar c = true := by
  have hv := r.host_valid
  simp only [isHost, Bool.and_eq_true] at hv
  exact List.all_eq_true.1 hv.1.1.2 c h

theorem Registry.host_ne_nil (r : Registry) : r.host.toList ≠ [] := by
  have hv := r.host_valid
  simp only [isHost, Bool.and_eq_true] at hv
  simpa using hv.1.1.1

theorem isPathChar_of_isPath {cs : List Char} (hp : isPath cs = true) {c : Char} (h : c ∈ cs) :
    c = '/' ∨ isPathChar c = true := by
  obtain h | ⟨p, hm, hc⟩ := Text.Cut.eq_or_mem_pieces (x := '/') h
  · exact .inl h
  · have hcomp := List.all_eq_true.1 hp p hm
    simp only [isComponent, Bool.and_eq_true] at hcomp
    exact .inr (List.all_eq_true.1 hcomp.1.2 c hc)

theorem Repository.isPathChar_of_mem (r : Repository) {c : Char} (h : c ∈ r.name.toList) :
    c = '/' ∨ isPathChar c = true :=
  isPathChar_of_isPath r.name_valid h

theorem isTagChar_of_isTag {cs : List Char} (ht : isTag cs = true) {c : Char} (h : c ∈ cs) :
    isTagChar c = true := by
  simp only [isTag, Bool.and_eq_true] at ht
  cases cs with
  | nil => simp at h
  | cons d r =>
    rcases List.mem_cons.1 h with rfl | h
    · exact isTagChar_of_isTagStart (by simpa using ht.1.1)
    · exact List.all_eq_true.1 ht.2 c h

theorem Tagged.isTagChar_of_mem (t : Tagged) {c : Char} (h : c ∈ t.tag.toList) :
    isTagChar c = true :=
  isTagChar_of_isTag t.tag_valid h

end Name

theorem isAlphanum_of_isHexDigit {c : Char} (h : isHexDigit c = true) : c.isAlphanum = true := by
  have hn : c.val.toNat = c.toNat := rfl
  simp only [isHexDigit, Bool.or_eq_true, Bool.and_eq_true, decide_eq_true_eq, Char.le_def,
    UInt32.le_iff_toNat_le, hn] at h
  rw [isAlphanum_iff]
  simp at h
  omega

theorem Digest.isAlphanum_of_mem (d : Digest) {c : Char} (h : c ∈ d.text.toList) :
    c = ':' ∨ c.isAlphanum = true := by
  have hv := d.hex_valid
  simp only [Algorithm.accepts, Bool.and_eq_true] at hv
  have ha : ∀ c ∈ d.algorithm.name.toList, c.isAlphanum = true := by
    rw [← List.all_eq_true]
    cases d.algorithm <;> decide
  rw [d.toList_text, List.mem_append, List.mem_cons] at h
  rcases h with h | h | h
  · exact .inr (ha c h)
  · exact .inl h
  · exact .inr (isAlphanum_of_isHexDigit (List.all_eq_true.1 hv.2 c h))

theorem Digest.at_not_mem_text (d : Digest) : '@' ∉ d.text.toList :=
  fun h => (d.isAlphanum_of_mem h).elim (by decide) (by decide)

theorem Digest.slash_not_mem_text (d : Digest) : '/' ∉ d.text.toList :=
  fun h => (d.isAlphanum_of_mem h).elim (by decide) (by decide)

end LayerTransfer
