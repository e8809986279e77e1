import LayerTransfer.Archive.Basic
import LayerTransfer.Proofs.Archive.Name
import LayerTransfer.Proofs.Archive.Record

namespace LayerTransfer.Archive

open Blob (Chunk)
open Blob.Stream (collect collect_cons_eq_ok delivered resumed resumed_data)

/-! ### Copied content -/

theorem copy_prefix (declared done : Nat) (cs : List Chunk) :
    (copy declared done cs).1 <+: delivered (resumed cs) := by
  induction cs generalizing done with
  | nil => exact List.prefix_rfl
  | cons c r ih =>
    cases c with
    | failure text => exact List.nil_prefix
    | interrupted text => exact ih done
    | data b =>
      rw [copy, resumed_data, delivered]
      split
      · exact (List.prefix_append_right_inj b).2 (ih _)
      · exact (List.take_prefix _ b).trans (List.prefix_append b _)

theorem copy_le {declared done : Nat} (cs : List Chunk) (h : done ≤ declared) :
    done + (copy declared done cs).1.length ≤ declared := by
  induction cs generalizing done with
  | nil => exact h
  | cons c r ih =>
    cases c with
    | failure text => exact h
    | interrupted text => exact ih h
    | data b =>
      rw [copy]
      split
      next hb =>
        have hr := ih hb
        simp only [List.length_append]
        omega
      next =>
        have hk := Nat.div_mul_le_self (declared - done) copySize
        simp only [List.length_take]
        omega

theorem copy_of_whole {declared : Nat} (done : Nat) {cs : List Chunk} {b : Bytes}
    (hc : collect (resumed cs) = .ok b) (hl : done + b.length = declared) :
    copy declared done cs = (b, none) := by
  induction cs generalizing done b with
  | nil =>
    cases hc
    have hn : ¬done < declared := by
      rw [← hl]
      simp
    simp [copy, hn]
  | cons c r ih =>
    cases c with
    | failure text => cases hc
    | interrupted text => exact ih done hc hl
    | data d =>
      obtain ⟨t, hr, rfl⟩ := collect_cons_eq_ok.1 hc
      rw [List.length_append] at hl
      have ht := ih (done + d.length) hr (by omega)
      rw [copy, if_pos (by omega), ht]

theorem whole_of_copy {declared done : Nat} {cs : List Chunk} (h : done ≤ declared)
    (hn : (copy declared done cs).2 = none) :
    ∃ b, collect (resumed cs) = .ok b ∧ done + b.length = declared := by
  induction cs generalizing done with
  | nil =>
    rw [copy] at hn
    split at hn
    · cases hn
    · exact ⟨[], rfl, by simp; omega⟩
  | cons c r ih =>
    cases c with
    | failure text => cases hn
    | interrupted text => exact ih h hn
    | data d =>
      rw [copy] at hn
      split at hn
      next hd =>
        obtain ⟨b, hb, hl⟩ := ih hd hn
        exact ⟨d ++ b, collect_cons_eq_ok.2 ⟨b, hb, rfl⟩, by rw [List.length_append]; omega⟩
      next => cases hn

/-- Content that breaks off within the declared size is copied as far as it goes. -/
theorem copy_of_within {declared done : Nat} {cs : List Chunk}
    (h : done + (delivered (resumed cs)).length ≤ declared) :
    (copy declared done cs).1 = delivered (resumed cs) := by
  induction cs generalizing done with
  | nil => rfl
  | cons c r ih =>
    cases c with
    | failure text => rfl
    | interrupted text => exact ih h
    | data b =>
      rw [resumed_data, delivered, List.length_append] at h
      have hr := @ih (done + b.length) (by omega)
      rw [copy, if_pos (by omega), resumed_data, delivered]
      simp only [hr]

def copied (size : UInt64) (cs : List Chunk) : Bytes :=
  (copy size.toNat 0 cs).1

theorem copied_prefix (size : UInt64) (cs : List Chunk) :
    copied size cs <+: delivered (resumed cs) :=
  copy_prefix _ _ _

theorem length_copied_le (size : UInt64) (cs : List Chunk) :
    (copied size cs).length ≤ size.toNat := by
  have h := copy_le cs (Nat.zero_le size.toNat)
  rwa [Nat.zero_add] at h

theorem copied_of_within {size : UInt64} {cs : List Chunk}
    (h : (delivered (resumed cs)).length ≤ size.toNat) :
    copied size cs = delivered (resumed cs) :=
  copy_of_within (by omega)

def ContentFault.Explains (declared done : Nat) (cs : List Chunk) : ContentFault → Prop
  | .tooLong n => n = declared ∧ declared < done + (delivered cs).length
  | .tooShort found n =>
    n = declared ∧ found < declared ∧ ∃ b, collect cs = .ok b ∧ found = done + b.length
  | .broken text => collect cs = .error text ∧ done + (delivered cs).length ≤ declared

theorem explains_data {declared done : Nat} {b : Bytes} {r : List Chunk} {f : ContentFault}
    (h : f.Explains declared (done + b.length) r) : f.Explains declared done (.data b :: r) := by
  cases f with
  | tooLong n =>
    obtain ⟨hn, hl⟩ := h
    exact ⟨hn, by rw [delivered, List.length_append]; omega⟩
  | tooShort found n =>
    obtain ⟨hn, hf, t, ht, hl⟩ := h
    exact ⟨hn, hf, b ++ t, collect_cons_eq_ok.2 ⟨t, ht, rfl⟩, by rw [List.length_append]; omega⟩
  | broken text =>
    obtain ⟨ht, hl⟩ := h
    exact ⟨by rw [collect, ht]; rfl, by rw [delivered, List.length_append]; omega⟩

theorem explains_of_copy {declared done : Nat} {cs : List Chunk} {f : ContentFault}
    (h : done ≤ declared) (hf : (copy declared done cs).2 = some f) :
    f.Explains declared done (resumed cs) := by
  induction cs generalizing done with
  | nil =>
    rw [copy] at hf
    split at hf
    next hd =>
      cases hf
      exact ⟨rfl, hd, [], rfl, rfl⟩
    next => cases hf
  | cons c r ih =>
    cases c with
    | failure text =>
      cases hf
      exact ⟨rfl, h⟩
    | interrupted text => exact ih h hf
    | data b =>
      rw [copy] at hf
      split at hf
      next hb => exact explains_data (ih hb hf)
      next hb =>
        cases hf
        exact ⟨rfl, by rw [resumed_data, delivered, List.length_append]; omega⟩

/-! ### Octets of entries -/

def opening (name : Bytes) (size : UInt64) : Bytes :=
  match headerName name with
  | .ok k => headers name size k
  | .error _ => []

/-- The octets of an entry whose content has the declared size. -/
def whole (name content : Bytes) : Bytes :=
  opening name (UInt64.ofNat content.length) ++ padded content

theorem ofNat_length {b : Bytes} {size : UInt64} (h : b.length = size.toNat) :
    UInt64.ofNat b.length = size := by
  rw [h, UInt64.ofNat_toNat]

variable {order : RecordOrder} {name : String} {size : UInt64} {cs : List Chunk}

theorem entry_of_whole {k : HeaderName} {b : Bytes}
    (hn : headerName (Bytes.ofText name) = .ok k) (hc : collect (resumed cs) = .ok b)
    (hl : b.length = size.toNat) :
    entry order name size cs = (whole (Bytes.ofText name) b, none) := by
  have hcopy := copy_of_whole 0 hc ((Nat.zero_add _).trans hl)
  simp only [entry, hn, hcopy, whole, opening, padded, ofNat_length hl, List.append_assoc]

theorem whole_of_entry (h : (entry order name size cs).2 = none) :
    ∃ b, collect (resumed cs) = .ok b ∧ b.length = size.toNat ∧
      (entry order name size cs).1 = whole (Bytes.ofText name) b := by
  cases hn : headerName (Bytes.ofText name) with
  | error e => simp [entry, hn] at h
  | ok k =>
    have hcopy : (copy size.toNat 0 cs).2 = none := by
      simp only [entry, hn] at h
      split at h
      next hb => rw [hb]
      next => cases h
    obtain ⟨b, hb, hl⟩ := whole_of_copy (Nat.zero_le _) hcopy
    rw [Nat.zero_add] at hl
    exact ⟨b, hb, hl, by rw [entry_of_whole hn hb hl]⟩

theorem torn_of_entry {text : String} (hn : IsPlain (Bytes.ofText name))
    (h : (entry order name size cs).2 = some text) :
    (entry order name size cs).1 = opening (Bytes.ofText name) size ++ copied size cs ∧
      ∃ f, text = ContentFault.message f ∧ f.Explains size.toNat 0 (resumed cs) := by
  obtain ⟨k, hk, -⟩ := headerName_of_plain hn
  cases hc : (copy size.toNat 0 cs).2 with
  | none =>
    obtain ⟨b, hb, hl⟩ := whole_of_copy (Nat.zero_le _) hc
    rw [Nat.zero_add] at hl
    rw [entry_of_whole hk hb hl] at h
    cases h
  | some f =>
    have he : entry order name size cs =
        (opening (Bytes.ofText name) size ++ copied size cs, some f.message) := by
      have hp : copy size.toNat 0 cs = (copied size cs, some f) := Prod.ext rfl hc
      rw [entry, opening, hk]
      simp only
      rw [hp]
    rw [he] at h ⊢
    exact ⟨rfl, f, (Option.some.inj h).symm, explains_of_copy (Nat.zero_le _) hc⟩

/-! ### Members of entries -/

def Label.plain (name : Bytes) (size : Nat) : Label where
  name
  mode := 0o644
  owner := 0
  group := 0
  size
  time := 0
  kind := .file

def Member.plain (name content : Bytes) : Member :=
  ⟨.plain name content.length, content⟩

def Record.IsUniform (r : Record) : Prop :=
  r.label.mode = 0o644 ∧ r.label.owner = 0 ∧ r.label.group = 0 ∧ r.label.time = 0 ∧
    r.label.size = r.content.length

def maxText : Nat := 0x8000000000000000

def longRecords (name : Bytes) (k : HeaderName) : List Record :=
  if k.isFront then
    [⟨(Header.mk longNameField (UInt64.ofNat (name ++ [0]).length) .longName).label, name ++ [0]⟩]
  else []

theorem records?_headers {name : Bytes} (size : UInt64) (k : HeaderName) (rest : Bytes)
    (hl : name.length < maxText) :
    records? (headers name size k ++ rest) =
      (records? (Header.bytes ⟨k.field, size, .file⟩ ++ rest)).map fun p =>
        (longRecords name k ++ p.1, p.2) := by
  unfold headers longRecords
  cases k.isFront with
  | false => simp
  | true =>
    have hs : (name ++ [0]).length =
        (Header.mk longNameField (UInt64.ofNat (name ++ [0]).length) .longName).size.toNat := by
      rw [maxText] at hl
      simp only [UInt64.toNat_ofNat', List.length_append, List.length_singleton]
      omega
    have hr := records?_record _ (name ++ [0])
      (Header.bytes ⟨k.field, size, .file⟩ ++ rest) hs
    simp only [if_true, longName, List.append_assoc] at hr ⊢
    simpa [padded] using hr

theorem longRecords_uniform {name : Bytes} {k : HeaderName} (hl : name.length < maxText) :
    ∀ r ∈ longRecords name k, r.IsUniform := by
  rw [longRecords]
  split
  · intro r hr
    rw [List.mem_singleton] at hr
    subst hr
    refine ⟨rfl, rfl, rfl, rfl, ?_⟩
    rw [maxText] at hl
    simp only [Header.label, UInt64.toNat_ofNat', List.length_append, List.length_singleton]
    omega
  · simp

/-- The header gives the whole name, or the record before it does. -/
theorem assemble_longRecords {name : Bytes} {k : HeaderName} (h0 : 0 ∉ name)
    (hk : k.isFront = false → k.field.octets.takeWhile (· ≠ 0) = name) (size : UInt64)
    (content : Bytes) (rs : List Record) :
    assemble none (longRecords name k ++ ⟨(Header.mk k.field size .file).label, content⟩ :: rs) =
      ⟨.plain name size.toNat, content⟩ :: assemble none rs := by
  rw [longRecords]
  split
  next =>
    have ht : (name ++ [0]).takeWhile (· ≠ 0) = name := by
      rw [List.takeWhile_append_of_pos]
      · simp
      · intro b hb
        simpa using fun hb0 : b = 0 => h0 (hb0 ▸ hb)
    simp only [List.cons_append, List.nil_append, assemble, Header.label, Label.plain, ht,
      Option.getD_some]
  next hf =>
    simp only [List.nil_append, assemble, Header.label, Label.plain, Option.getD_none,
      hk (Bool.eq_false_iff.2 hf)]

end LayerTransfer.Archive
