import LayerTransfer.Bundle
import LayerTransfer.Proofs.Archive.Entry
import LayerTransfer.Proofs.Name.Characters

namespace LayerTransfer.Bundle

open Archive (IsPlain maxText)

def isFileChar (c : Char) : Bool :=
  0 < c.toNat && c.toNat < 0x80 && c != '/'

theorem isFileChar_of_isHexDigit {c : Char} (h : isHexDigit c = true) : isFileChar c = true := by
  have ha := isAlphanum_iff.1 (isAlphanum_of_isHexDigit h)
  have hs : c ≠ '/' := by
    rintro rfl
    have hslash : '/'.toNat = 0x2f := rfl
    omega
  simp only [isFileChar, Bool.and_eq_true, decide_eq_true_eq, bne_iff_ne]
  exact ⟨⟨by omega, by omega⟩, hs⟩

structure IsFileName (s : String) : Prop where
  chars : s.toList.all isFileChar = true
  long : 2 < s.toList.length
  short : s.toList.length ≤ 200

namespace IsFileName

variable {s : String}

theorem ofText_eq (h : IsFileName s) :
    Bytes.ofText s = s.toList.map fun c => UInt8.ofNat c.toNat := by
  apply Bytes.ofText_of_ascii
  intro c hc
  have hf := List.all_eq_true.1 h.chars c hc
  simp only [isFileChar, Bool.and_eq_true, decide_eq_true_eq] at hf
  exact hf.1.2

theorem length_ofText (h : IsFileName s) : (Bytes.ofText s).length = s.toList.length := by
  rw [h.ofText_eq, List.length_map]

theorem not_mem_ofText (h : IsFileName s) : (0x2f : UInt8) ∉ Bytes.ofText s ∧ 0 ∉ Bytes.ofText s := by
  rw [h.ofText_eq]
  have hb (b : UInt8) (hm : b ∈ s.toList.map fun c => UInt8.ofNat c.toNat) :
      b.toNat ≠ 0x2f ∧ b.toNat ≠ 0 := by
    obtain ⟨c, hc, rfl⟩ := List.mem_map.1 hm
    have hf := List.all_eq_true.1 h.chars c hc
    simp only [isFileChar, Bool.and_eq_true, decide_eq_true_eq, bne_iff_ne] at hf
    have hslash : c.toNat ≠ '/'.toNat := fun he => hf.2 (Char.ext (UInt32.toNat_inj.1 he))
    have h2f : '/'.toNat = 0x2f := rfl
    rw [UInt8.toNat_ofNat', Nat.mod_eq_of_lt (by omega)]
    exact ⟨by omega, by omega⟩
  exact ⟨fun hm => (hb _ hm).1 rfl, fun hm => (hb _ hm).2 rfl⟩

theorem plain (h : IsFileName s) : IsPlain (Bytes.ofText s) where
  components := by
    rw [Text.Cut.pieces_of_not_mem h.not_mem_ofText.1]
    intro p hp
    rw [List.mem_singleton] at hp
    have hl : 2 < p.length := by
      rw [hp, h.length_ofText]
      exact h.long
    refine ⟨?_, ?_, ?_⟩ <;>
    · rintro rfl
      simp at hl
  no_nul := h.not_mem_ofText.2

theorem length_lt (h : IsFileName s) : (Bytes.ofText s).length < maxText := by
  rw [h.length_ofText]
  have hs := h.short
  rw [maxText]
  omega

end IsFileName

theorem isFileName_hex (d : Digest) {ending : String} (hc : ending.toList.all isFileChar = true)
    (hl : ending.toList.length ≤ 10) : IsFileName (d.hex ++ ending) := by
  have hv := d.hex_valid
  simp only [Algorithm.accepts, Bool.and_eq_true, beq_iff_eq] at hv
  have hw : 64 ≤ d.algorithm.width ∧ d.algorithm.width ≤ 128 := by
    cases d.algorithm <;> decide
  have hlen : (d.hex ++ ending).toList.length = d.algorithm.width + ending.toList.length := by
    rw [String.toList_append, List.length_append, hv.1]
  refine ⟨?_, by omega, by omega⟩
  rw [String.toList_append, List.all_append, hc, Bool.and_true, List.all_eq_true]
  exact fun c h => isFileChar_of_isHexDigit (List.all_eq_true.1 hv.2 c h)

theorem isFileName_layerEntry (d : Digest) : IsFileName (layerEntry d) :=
  isFileName_hex d (by decide) (by decide)

theorem isFileName_configEntry (d : Digest) : IsFileName (configEntry d) :=
  isFileName_hex d (by decide) (by decide)

theorem isFileName_manifestEntry : IsFileName manifestEntry :=
  ⟨by decide, by decide, by decide⟩

theorem isFileName_indexEntry : IsFileName indexEntry :=
  ⟨by decide, by decide, by decide⟩

def IsDocument (name : Bytes) : Prop :=
  name = Bytes.ofText manifestEntry ∨ name = Bytes.ofText indexEntry ∨
    ∃ d, name = Bytes.ofText (configEntry d)

/-- Documents end in `n`, layers in `z`. -/
theorem not_isDocument_layerEntry (d : Digest) : ¬IsDocument (Bytes.ofText (layerEntry d)) := by
  have last (s t : String) : (Bytes.ofText (s ++ t)).getLast? =
      (Bytes.ofText t).getLast?.or (Bytes.ofText s).getLast? := by
    rw [Bytes.ofText_append, List.getLast?_append]
  have hz : (Bytes.ofText (layerEntry d)).getLast? = some 0x7a := by
    rw [layerEntry, last]
    have hgz : (Bytes.ofText ".tar.gz").getLast? = some 0x7a := by decide
    rw [hgz, Option.some_or]
  have hjson : (Bytes.ofText ".json").getLast? = some 0x6e := by decide
  rintro (h | h | ⟨c, h⟩) <;> rw [h] at hz
  · exact absurd hz (by decide)
  · exact absurd hz (by decide)
  · rw [configEntry, last, hjson, Option.some_or] at hz
    exact absurd hz (by decide)

end LayerTransfer.Bundle
