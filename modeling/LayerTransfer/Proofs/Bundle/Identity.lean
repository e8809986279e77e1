import LayerTransfer.Proofs.Bundle.Export
import Mathlib.Data.List.Nodup

namespace LayerTransfer

theorem Algorithm.width_injective {a b : Algorithm} (h : a.width = b.width) : a = b := by
  revert h
  cases a <;> cases b <;> decide

/-- Digests with the same digits are the same: as many digits belong to one algorithm only. -/
theorem Digest.eq_of_hex {d e : Digest} (h : d.hex = e.hex) : d = e := by
  obtain ⟨a, x, hx⟩ := d
  obtain ⟨b, y, hy⟩ := e
  obtain rfl : x = y := h
  simp only [Algorithm.accepts, Bool.and_eq_true, beq_iff_eq] at hx hy
  obtain rfl := Algorithm.width_injective (hx.1.symm.trans hy.1)
  rfl

namespace Bundle

open Name Transport
open Archive (Member members? endMarker)
open Bytes (ofText_injective)

theorem layerEntry_injective {d e : Digest} (h : layerEntry d = layerEntry e) : d = e := by
  have hchars := congrArg String.toList h
  simp only [layerEntry, String.toList_append] at hchars
  exact Digest.eq_of_hex (String.toList_inj.1 (List.append_cancel_right hchars))

theorem configEntry_ne (name : String) (hl : name.toList.length < 64) (d : Digest) :
    configEntry d ≠ name := by
  rintro rfl
  have hv := d.hex_valid
  simp only [Algorithm.accepts, Bool.and_eq_true, beq_iff_eq] at hv
  have hw : 64 ≤ d.algorithm.width := by
    cases d.algorithm <;> decide
  rw [configEntry, String.toList_append, List.length_append, hv.1] at hl
  omega

theorem layerEntry_ne_of_isDocument (d : Digest) {name : String}
    (h : IsDocument (Bytes.ofText name)) : layerEntry d ≠ name :=
  fun he => not_isDocument_layerEntry d (he ▸ h)

/-- Two entries of the same name stand where two references ask for the same digest. -/
def NamesIdentify (ps : List Pinned) (ms : List Member) : Prop :=
  ∀ (j k : Nat) (x y : Member), j < k → ms[j]? = some x → ms[k]? = some y →
    x.label.name = y.label.name →
    ∃ p q : Pinned, ps[j]? = some p ∧ ps[k]? = some q ∧ p.digest = q.digest

namespace Contents

theorem isDocument_of_mem {c : Contents} {x : String × Bytes} (h : x ∈ c.documents) :
    IsDocument (Bytes.ofText x.1) := by
  simp only [documents, List.mem_cons, List.not_mem_nil, or_false] at h
  obtain rfl | rfl | rfl := h
  · exact .inl rfl
  · exact .inr (.inr ⟨_, rfl⟩)
  · exact .inr (.inl rfl)

theorem nodup_documents (c : Contents) : (c.documents.map (·.1)).Nodup := by
  have hmanifest := configEntry_ne manifestEntry (by decide) c.configName
  have hindex := configEntry_ne indexEntry (by decide) c.configName
  have hfixed : manifestEntry ≠ indexEntry := by decide
  simp [documents, hmanifest.symm, hindex, hfixed]

theorem member_cases {c : Contents} {j : Nat} {x : Member} (h : c.members[j]? = some x) :
    (∃ a, c.layers[j]? = some a ∧ x = a.member) ∨
      ∃ n v, j = c.layers.length + n ∧ c.documents[n]? = some v ∧
        x = .plain (Bytes.ofText v.1) v.2 := by
  rw [members, List.getElem?_append, List.length_map] at h
  split at h
  · rw [List.getElem?_map] at h
    obtain ⟨a, ha, rfl⟩ := Option.map_eq_some_iff.1 h
    exact .inl ⟨a, ha, rfl⟩
  next hj =>
    rw [List.getElem?_map] at h
    obtain ⟨v, hv, rfl⟩ := Option.map_eq_some_iff.1 h
    exact .inr ⟨j - c.layers.length, v, by omega, hv, rfl⟩

theorem namesIdentify (c : Contents) :
    NamesIdentify (c.layers.map Shipped.reference) c.members := by
  intro j k x y hjk hx hy hname
  obtain ⟨a, ha, rfl⟩ | ⟨n, v, rfl, hv, rfl⟩ := member_cases hx
  · obtain ⟨b, hb, rfl⟩ | ⟨n, v, rfl, hv, rfl⟩ := member_cases hy
    · refine ⟨a.reference, b.reference, ?_, ?_, layerEntry_injective (ofText_injective hname)⟩
      · rw [List.getElem?_map, ha, Option.map_some]
      · rw [List.getElem?_map, hb, Option.map_some]
    · exact absurd (ofText_injective hname)
        (layerEntry_ne_of_isDocument _ (isDocument_of_mem (List.mem_of_getElem? hv)))
  · obtain ⟨b, hb, rfl⟩ | ⟨l, w, rfl, hw, rfl⟩ := member_cases hy
    · have hk := (List.getElem?_eq_some_iff.1 hb).1
      omega
    · have hl := (List.getElem?_eq_some_iff.1 hw).1
      refine absurd ?_ (List.nodup_iff_getElem?_ne_getElem?.1 c.nodup_documents n l (by omega)
        (by simpa using hl))
      rw [List.getElem?_map, List.getElem?_map, hv, hw]
      exact congrArg some (ofText_injective hname)

end Contents

/-- A layer entry says which digest it is for, of either algorithm, and is never named like a
manifest, an index or a config. So in a bundle whose export succeeds, two entries that are read back
under the same name are layers, and the references at their places ask for the same digest. -/
theorem entry_names_identify :
    (∀ (text text' : String) (d e : Digest), Digest.parse text = .ok d →
      Digest.parse text' = .ok e → layerEntry d = layerEntry e → d = e) ∧
    (∀ d e : Digest, layerEntry d ≠ manifestEntry ∧ layerEntry d ≠ indexEntry ∧
      layerEntry d ≠ configEntry e) ∧
    ∀ (σ : Type) (server : Server Call Call.Reply σ) (s : σ) (v : Log.Verbosity) (m : Machine)
      (ps : List Pinned) (path : String) (i : Image) (ds : List Descriptor),
      (Procedure.run server s (write v m ps path i)).1.result = .ok ds →
      ∃ file ms, (Procedure.run server s (write v m ps path i)).1.file = some file ∧
        members? file = some (ms, endMarker) ∧ ms.length = ps.length + 3 ∧ NamesIdentify ps ms := by
  refine ⟨fun _ _ d e _ _ h => layerEntry_injective h, fun d e => ⟨?_, ?_, ?_⟩, ?_⟩
  · exact layerEntry_ne_of_isDocument d (.inl rfl)
  · exact layerEntry_ne_of_isDocument d (.inr (.inl rfl))
  · exact layerEntry_ne_of_isDocument d (.inr (.inr ⟨e, rfl⟩))
  · intro σ server s v m ps path i ds h
    obtain ⟨c, hc, -, -, hfile⟩ := yields_write_ok (Procedure.yields_run server s _) h
    obtain rfl := hc.references
    refine ⟨_, c.members, hfile, Archive.members?_of_spells hc.spells, ?_, c.namesIdentify⟩
    simp [Contents.members, Contents.documents]

theorem longTwice_names_identify :
    twiceExported.1.result = .ok [longListed, longListed] ∧
      ∃ file ms, twiceExported.1.file = some file ∧ members? file = some (ms, endMarker) ∧
        ms.length = 5 ∧ NamesIdentify longTwice ms := by
  have h : twiceExported.1.result = .ok [longListed, longListed] := by
    decide +kernel
  exact ⟨h, entry_names_identify.2.2 _ _ _ _ _ _ _ _ _ h⟩

end Bundle

end LayerTransfer
