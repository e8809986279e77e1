import LayerTransfer.Proofs.Archive.Entry
import Mathlib.Data.List.Forall2

namespace LayerTransfer.Archive

open Blob.Stream (collect collect_data resumed resumed_data resumed_nil)

/-- Octets that a reader takes for members, whatever stands behind them. -/
structure Spells (body : Bytes) (ms : List Member) : Prop where
  aligned : blockSize ∣ body.length
  reads : ∃ rs, (∀ r ∈ rs, r.IsUniform) ∧
    (∀ rest, records? (body ++ rest) = (records? rest).map fun p => (rs ++ p.1, p.2)) ∧
    ∀ more, assemble none (rs ++ more) = ms ++ assemble none more

theorem spells_nil : Spells [] [] where
  aligned := Nat.dvd_zero blockSize
  reads := ⟨[], by simp, by simp, by simp⟩

theorem Spells.append {a b : Bytes} {ms ns : List Member} (ha : Spells a ms) (hb : Spells b ns) :
    Spells (a ++ b) (ms ++ ns) where
  aligned := by
    rw [List.length_append]
    exact Nat.dvd_add ha.aligned hb.aligned
  reads := by
    obtain ⟨rs, hru, hr, hra⟩ := ha.reads
    obtain ⟨ts, htu, ht, hta⟩ := hb.reads
    refine ⟨rs ++ ts, ?_, ?_, ?_⟩
    · intro r h
      rcases List.mem_append.1 h with h | h
      · exact hru r h
      · exact htu r h
    · intro rest
      rw [List.append_assoc, hr, ht, Option.map_map]
      simp [Function.comp_def]
    · intro more
      rw [List.append_assoc, hra, hta, List.append_assoc]

theorem length_padding_dvd (content : Bytes) : blockSize ∣ (padded content).length := by
  rw [length_padded]
  exact blockSize_dvd_add_gap content.length

theorem length_headers_dvd (name : Bytes) (size : UInt64) (k : HeaderName) :
    blockSize ∣ (headers name size k).length := by
  rw [headers]
  rw [List.length_append, length_header]
  apply Nat.dvd_add _ (Nat.dvd_refl _)
  split
  · have hp := length_padding_dvd (name ++ [0])
    have hlong : longName name =
        Header.bytes ⟨longNameField, UInt64.ofNat (name ++ [0]).length, .longName⟩ ++
          padded (name ++ [0]) := by
      simp only [longName, padded, List.append_assoc]
    rw [hlong, List.length_append, length_header]
    exact Nat.dvd_add (Nat.dvd_refl _) hp
  · exact Nat.dvd_zero _

theorem spells_whole {name : String} {content : Bytes} (hn : IsPlain (Bytes.ofText name))
    (hl : (Bytes.ofText name).length < maxText) (hc : content.length < UInt64.size) :
    Spells (whole (Bytes.ofText name) content) [.plain (Bytes.ofText name) content] := by
  obtain ⟨k, hk, hfield⟩ := headerName_of_plain hn
  have hs : content.length = (UInt64.ofNat content.length).toNat :=
    (Nat.mod_eq_of_lt hc).symm
  have hw : whole (Bytes.ofText name) content =
      headers (Bytes.ofText name) (UInt64.ofNat content.length) k ++ padded content := by
    rw [whole, opening, hk]
  refine ⟨?_, longRecords (Bytes.ofText name) k ++
    [⟨(Header.mk k.field (UInt64.ofNat content.length) .file).label, content⟩], ?_, ?_, ?_⟩
  · rw [hw, List.length_append]
    exact Nat.dvd_add (length_headers_dvd ..) (length_padding_dvd _)
  · intro r hr
    rcases List.mem_append.1 hr with hr | hr
    · exact longRecords_uniform hl r hr
    · rw [List.mem_singleton] at hr
      subst hr
      exact ⟨rfl, rfl, rfl, rfl, hs.symm⟩
  · intro rest
    rw [hw, List.append_assoc, records?_headers _ _ _ hl, ← List.append_assoc,
      records?_record _ _ _ hs, Option.map_map]
    simp [Function.comp_def]
  · intro more
    rw [List.append_assoc, List.singleton_append, assemble_longRecords hn.no_nul hfield, ← hs]
    rfl

def extended (a : Archive) (b : Bytes) : Archive := { a with written := a.written ++ b }

theorem extended_nil (a : Archive) : a.extended [] = a := by
  simp [extended]

theorem extended_extended (a : Archive) (b c : Bytes) :
    (a.extended b).extended c = a.extended (b ++ c) := by
  simp [extended]

variable {a : Archive} {name : String} {size : UInt64} {cs : List Blob.Chunk}

theorem append_of_ok (h : (a.append name size cs).2 = .ok ()) :
    ∃ b, collect (resumed cs) = .ok b ∧ b.length = size.toNat ∧
      (a.append name size cs).1 = a.extended (whole (Bytes.ofText name) b) := by
  have he : (entry a.order name size cs).2 = none := by
    simp only [append] at h
    split at h
    next hf => exact hf
    next => cases h
  obtain ⟨b, hb, hsize, hw⟩ := whole_of_entry he
  exact ⟨b, hb, hsize, by rw [← hw]; rfl⟩

theorem append_of_error {e : TransferError} (hn : IsPlain (Bytes.ofText name))
    (h : (a.append name size cs).2 = .error e) :
    (a.append name size cs).1 =
        a.extended (opening (Bytes.ofText name) size ++ copied size cs) ∧
      ∃ f, e = .archive a.path (some name) (ContentFault.message f) ∧
        f.Explains size.toNat 0 (resumed cs) := by
  simp only [append] at h
  split at h
  next => cases h
  next text ht =>
    cases h
    obtain ⟨hw, f, hf, hx⟩ := torn_of_entry hn ht
    exact ⟨by rw [← hw]; rfl, f, by rw [hf], hx⟩

theorem spells_append (hn : IsPlain (Bytes.ofText name))
    (hl : (Bytes.ofText name).length < maxText) (h : (a.append name size cs).2 = .ok ()) :
    ∃ b body, collect (resumed cs) = .ok b ∧
      (a.append name size cs).1 = a.extended body ∧
      Spells body [.plain (Bytes.ofText name) b] := by
  obtain ⟨b, hb, hsize, hw⟩ := append_of_ok h
  exact ⟨b, _, hb, hw, spells_whole hn hl (hsize ▸ size.toNat_lt)⟩

def Addition.Makes (x : Addition) (m : Member) : Prop :=
  x.content = .ok m.content ∧ m = .plain (Bytes.ofText x.name) m.content

theorem spells_add {a : Archive} {x : Addition} (hn : IsPlain (Bytes.ofText x.name))
    (hl : (Bytes.ofText x.name).length < maxText) (h : (a.add x).2 = .ok ()) :
    ∃ m body, x.Makes m ∧ (a.add x).1 = a.extended body ∧
      Spells body [m] := by
  cases x with
  | held name content =>
    obtain ⟨b, body, hb, hw, hs⟩ := spells_append hn hl h
    rw [resumed_data, resumed_nil, collect_data] at hb
    cases hb
    exact ⟨_, body, ⟨rfl, rfl⟩, hw, hs⟩
  | streamed name size cs =>
    obtain ⟨b, body, hb, hw, hs⟩ := spells_append hn hl h
    exact ⟨.plain (Bytes.ofText name) b, body, ⟨hb, rfl⟩, hw, hs⟩

theorem spells_addAll {xs : List Addition} {a : Archive}
    (hn : ∀ x ∈ xs, IsPlain (Bytes.ofText x.name) ∧ (Bytes.ofText x.name).length < maxText)
    (h : ∀ o ∈ (a.addAll xs).2, o = .ok ()) :
    ∃ ms body, List.Forall₂ Addition.Makes xs ms ∧
      (a.addAll xs).1 = a.extended body ∧ Spells body ms := by
  induction xs generalizing a with
  | nil => exact ⟨[], [], .nil, a.extended_nil.symm, spells_nil⟩
  | cons x r ih =>
    have hx := hn x (List.mem_cons_self ..)
    obtain ⟨m, body, hm, hw, hs⟩ := spells_add hx.1 hx.2 (h _ (List.mem_cons_self ..))
    obtain ⟨ms, bodies, hms, hws, hss⟩ := ih (a := (a.add x).1)
      (fun y hy => hn y (List.mem_cons_of_mem _ hy))
      (fun o ho => h o (List.mem_cons_of_mem _ ho))
    refine ⟨m :: ms, body ++ bodies, .cons hm hms, ?_, hs.append hss⟩
    rw [← extended_extended, ← hw]
    exact hws

theorem records?_of_spells {body : Bytes} {ms : List Member} (h : Spells body ms) :
    ∃ rs, records? (body ++ endMarker) = some (rs, endMarker) ∧ (∀ r ∈ rs, r.IsUniform) ∧
      assemble none rs = ms := by
  obtain ⟨rs, hu, hr, ha⟩ := h.reads
  refine ⟨rs, ?_, hu, ?_⟩
  · rw [hr, endMarker, records?_zeros]
    simp
  · have hn := ha []
    rwa [List.append_nil, assemble, List.append_nil] at hn

theorem members?_of_spells {body : Bytes} {ms : List Member} (h : Spells body ms) :
    members? (body ++ endMarker) = some (ms, endMarker) := by
  obtain ⟨rs, hr, -, ha⟩ := records?_of_spells h
  rw [members?, hr, Option.map_some, ha]

/-- The front of an entry at the end of a file is read as one member of the declared size, which
takes the end marker for content. -/
theorem members?_of_torn {body : Bytes} {ms : List Member} (h : Spells body ms) {name : String}
    (hn : IsPlain (Bytes.ofText name)) (hl : (Bytes.ofText name).length < maxText) {size : UInt64}
    {torn : Bytes} (ht : torn.length ≤ size.toNat) :
    ∃ k, members? (body ++ (opening (Bytes.ofText name) size ++ torn) ++ endMarker) =
      some (ms ++ [⟨.plain (Bytes.ofText name) size.toNat,
        (torn ++ endMarker).take size.toNat⟩], Bytes.zeros k) := by
  obtain ⟨rs, -, hr, ha⟩ := h.reads
  obtain ⟨k, hk, hfield⟩ := headerName_of_plain hn
  have ho : opening (Bytes.ofText name) size = headers (Bytes.ofText name) size k := by
    rw [opening, hk]
  obtain ⟨n, hz⟩ := records?_torn ⟨k.field, size, .file⟩ torn (2 * blockSize) ht
  refine ⟨n, ?_⟩
  rw [members?, List.append_assoc, List.append_assoc, hr, ho, records?_headers _ _ _ hl,
    ← List.append_assoc, endMarker, hz]
  simp only [Option.map_some, ha, assemble_longRecords hn.no_nul hfield, assemble]

theorem dvd_endMarker : blockSize ∣ endMarker.length := by
  rw [endMarker, Bytes.length_zeros]
  exact Nat.dvd_mul_left blockSize 2

/-- A file that is created holds nothing, whatever it held before. -/
theorem written_of_create {m : Machine} {path : String} {a : Archive}
    (h : Archive.create m path = .ok a) : a = ⟨path, [], m.recordOrder⟩ := by
  rw [create] at h
  split at h
  · cases h
  · cases h
    simp [Machine.truncated]

/-- A file made of successful additions with plain names is a whole number of blocks. A reader finds
the additions as members in order, under headers that all tell the true size, and behind them one
end marker, whichever way the writing ended. -/
theorem ended_reads_back {m : Machine} {path : String} {a : Archive} {xs : List Addition}
    (hc : Archive.create m path = .ok a)
    (hn : ∀ x ∈ xs, IsPlain (Bytes.ofText x.name) ∧ (Bytes.ofText x.name).length < maxText)
    (ho : ∀ o ∈ (a.addAll xs).2, o = .ok ()) (e : Ending) :
    ∃ rs ms, records? ((a.addAll xs).1.ended e) = some (rs, endMarker) ∧
      (∀ r ∈ rs, r.IsUniform) ∧
      members? ((a.addAll xs).1.ended e) = some (ms, endMarker) ∧
      List.Forall₂ Addition.Makes xs ms ∧
      512 ∣ ((a.addAll xs).1.ended e).length ∧
      ∀ e', (a.addAll xs).1.ended e' = (a.addAll xs).1.ended e := by
  obtain ⟨ms, body, hm, hw, hs⟩ := spells_addAll hn ho
  have hfile : (a.addAll xs).1.ended e = body ++ endMarker := by
    rw [ended_eq_closed, closed, hw, written_of_create hc]
    rfl
  obtain ⟨rs, hr, hu, -⟩ := records?_of_spells hs
  refine ⟨rs, ms, hfile ▸ hr, hu, hfile ▸ members?_of_spells hs, hm, ?_, ?_⟩
  · rw [hfile, List.length_append]
    exact Nat.dvd_add hs.aligned dvd_endMarker
  · intro e'
    rw [ended_eq_closed, ended_eq_closed]

def usedMachine : Machine where
  createFault _ := none
  held _ := [1, 2, 3]

def twoAdditions : List Addition :=
  [.held "notes.txt" [0x68, 0x69],
    .streamed (String.ofList (List.replicate 120 'x') ++ "/data") 3
      [.data [1], .data [], .data [2, 3]]]

def twoAdded : Archive := (addAll { path := "b.tar" } twoAdditions).1

theorem twoAdditions_read_back :
    Archive.create usedMachine "b.tar" = .ok { path := "b.tar" } ∧
      (∀ x ∈ twoAdditions,
        IsPlain (Bytes.ofText x.name) ∧ (Bytes.ofText x.name).length < maxText) ∧
      (∀ o ∈ (addAll { path := "b.tar" } twoAdditions).2, o = .ok ()) ∧
      ∃ rs ms, records? (twoAdded.ended .dropped) = some (rs, endMarker) ∧
        (∀ r ∈ rs, r.IsUniform) ∧
        members? (twoAdded.ended .dropped) = some (ms, endMarker) ∧
        List.Forall₂ Addition.Makes twoAdditions ms ∧
        512 ∣ (twoAdded.ended .dropped).length ∧
        ∀ e', twoAdded.ended e' = twoAdded.ended .dropped := by
  have hc : Archive.create usedMachine "b.tar" = .ok { path := "b.tar" } := rfl
  have hn : ∀ x ∈ twoAdditions,
      IsPlain (Bytes.ofText x.name) ∧ (Bytes.ofText x.name).length < maxText := by
    decide +kernel
  have ho : ∀ o ∈ (addAll { path := "b.tar" } twoAdditions).2, o = .ok () := by
    decide +kernel
  exact ⟨hc, hn, ho, ended_reads_back hc hn ho .dropped⟩

end LayerTransfer.Archive
