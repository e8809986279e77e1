import LayerTransfer.Image.Manifest
import LayerTransfer.Proofs.Descriptor.Index
import LayerTransfer.Proofs.Json.Draws

namespace LayerTransfer.Descriptor

open Json

variable {all : List Token}

theorem draws_readMediaType : Draws all (fun _ => True) readMediaType :=
  draws_readText.map fun _ _ => trivial

theorem draws_readSize : Draws all (fun _ => True) readSize :=
  (draws_readNatural _ _).map fun _ _ => trivial

def Members.IsWrittenIn (ts : List Token) (p : Members) : Prop :=
  ∀ d ∈ p.digest, WrittenIn ts d

theorem keep_fields : Keep all (Members.IsWrittenIn all) shape.fields := by
  intro f hf p hp
  simp only [shape, List.mem_cons, List.not_mem_nil, or_false] at hf
  obtain rfl | rfl | rfl := hf
  · exact Draws.map (f := fun m => { p with mediaType := some m }) (Q := Members.IsWrittenIn all)
      draws_readMediaType fun _ _ => hp
  · exact Draws.map (f := fun n => { p with size := some n }) (Q := Members.IsWrittenIn all)
      draws_readSize fun _ _ => hp
  · refine Draws.map (f := fun d => { p with digest := some d }) (Q := Members.IsWrittenIn all)
      draws_readDigest fun d hd d' hd' => ?_
    cases hd'
    exact hd

theorem draws_read : Draws all (fun d : Descriptor => WrittenIn all d.digest) read := by
  refine draws_readRecord keep_fields (fun d hd => by cases hd) fun p d hp hd => ?_
  obtain ⟨mediaType, -, hd⟩ := Outcome.ok_of_bind hd
  obtain ⟨size, -, hd⟩ := Outcome.ok_of_bind hd
  obtain ⟨digest, hdigest, hd⟩ := Outcome.ok_of_bind hd
  cases hd
  exact hp digest (mem_of_required hdigest)

end Descriptor

namespace Manifest

open Json

variable {all : List Token}

structure Members.IsWrittenIn (ts : List Token) (p : Members) : Prop where
  config : ∀ d ∈ p.config, WrittenIn ts d.digest
  layers : ∀ ds ∈ p.layers, ∀ d ∈ ds, WrittenIn ts d.digest

theorem keep_fields : Keep all (Members.IsWrittenIn all) shape.fields := by
  intro f hf p hp
  simp only [shape, List.mem_cons, List.not_mem_nil, or_false] at hf
  obtain rfl | rfl | rfl | rfl := hf
  · exact Draws.map (f := fun n => { p with schemaVersion := some n })
      (Q := Members.IsWrittenIn all) (draws_readNatural _ _) fun _ _ => ⟨hp.config, hp.layers⟩
  · exact Draws.map (f := fun m => { p with mediaType := some m }) (Q := Members.IsWrittenIn all)
      (draws_readOption Descriptor.draws_readMediaType) fun _ _ => ⟨hp.config, hp.layers⟩
  · refine Draws.map (f := fun d => { p with config := some d }) (Q := Members.IsWrittenIn all)
      Descriptor.draws_read fun d hd => ⟨fun d' hd' => ?_, hp.layers⟩
    cases hd'
    exact hd
  · refine Draws.map (f := fun ds => { p with layers := some ds }) (Q := Members.IsWrittenIn all)
      (draws_readList Descriptor.draws_read) fun ds hds => ⟨hp.config, fun ds' hds' => ?_⟩
    cases hds'
    exact hds

theorem draws_read : Draws all
    (fun m => WrittenIn all m.2.config.digest ∧ ∀ d ∈ m.2.layers, WrittenIn all d.digest)
    (readRecord shape) := by
  have hstart : Members.IsWrittenIn all shape.start :=
    ⟨fun d hd => (by cases hd), fun ds hds => (by cases hds)⟩
  refine draws_readRecord keep_fields hstart fun p m hp hm => ?_
  obtain ⟨version, -, hm⟩ := Outcome.ok_of_bind hm
  obtain ⟨config, hconfig, hm⟩ := Outcome.ok_of_bind hm
  cases hm
  refine ⟨hp.config config (mem_of_required hconfig), fun d hd => ?_⟩
  cases hl : p.layers with
  | none => simp [hl] at hd
  | some ds => exact hp.layers ds hl d (by simpa [hl] using hd)

theorem written_of_parse {raw : Bytes} {m : Manifest} (h : parse raw = .ok m) :
    WrittenIn (Token.ofBytes raw) m.config.digest ∧
      ∀ d ∈ m.layers, WrittenIn (Token.ofBytes raw) d.digest := by
  unfold parse at h
  split at h
  · cases h
  next version m' hread =>
    split at h
    · cases h
      exact (of_readDocument draws_read hread :)
    · cases h

end Manifest

namespace Descriptor

open Json

/-- An index is read as the descriptors that it was made of. Any descriptor that is read, from an
index, on its own or within a manifest, has the digest that a string of the text stands for. -/
theorem descriptors_read_back :
    (∀ ds, parseIndex (printIndex ds) = .ok ds) ∧
    (∀ raw ds, parseIndex raw = .ok ds → ∀ d ∈ ds, WrittenIn (Token.ofBytes raw) d.digest) ∧
    (∀ raw d, parse raw = .ok d → WrittenIn (Token.ofBytes raw) d.digest) ∧
    (∀ raw m, Manifest.parse raw = .ok m →
      WrittenIn (Token.ofBytes raw) m.config.digest ∧
      ∀ d ∈ m.layers, WrittenIn (Token.ofBytes raw) d.digest) := by
  refine ⟨parseIndex_printIndex, fun raw ds h => ?_, fun raw d h => ?_, fun raw m h => ?_⟩
  · exact (of_readDocument (draws_readList draws_read) (Outcome.ok_of_mapError h) :)
  · exact (of_readDocument draws_read (Outcome.ok_of_mapError h) :)
  · exact Manifest.written_of_parse h

def oddDescriptor : Descriptor where
  mediaType := ⟨"\"\\\n\u0001/é😀"⟩
  size := 18446744073709551615
  digest := ⟨.sha256, String.ofList (List.replicate 64 'e'), by decide +kernel⟩

def oddManifest : Bytes :=
  Bytes.ofText "\x7b\"schemaVersion\":2,\"config\":" ++ print oddDescriptor ++
    Bytes.ofText ",\"layers\":" ++ printIndex [oddDescriptor] ++ Bytes.ofText "\x7d"

theorem oddDescriptor_reads_back :
    parseIndex (printIndex [oddDescriptor, oddDescriptor]) = .ok [oddDescriptor, oddDescriptor] ∧
    (∀ d ∈ [oddDescriptor, oddDescriptor],
      WrittenIn (Token.ofBytes (printIndex [oddDescriptor, oddDescriptor])) d.digest) ∧
    parse (print oddDescriptor) = .ok oddDescriptor ∧
    WrittenIn (Token.ofBytes (print oddDescriptor)) oddDescriptor.digest ∧
    Manifest.parse oddManifest = .ok ⟨none, oddDescriptor, [oddDescriptor]⟩ ∧
    WrittenIn (Token.ofBytes oddManifest) oddDescriptor.digest := by
  obtain ⟨hback, hindex, hsingle, hmanifest⟩ := descriptors_read_back
  have hi := hback [oddDescriptor, oddDescriptor]
  have hs : parse (print oddDescriptor) = .ok oddDescriptor := by decide +kernel
  have hm : Manifest.parse oddManifest = .ok ⟨none, oddDescriptor, [oddDescriptor]⟩ := by
    decide +kernel
  exact ⟨hi, hindex _ _ hi, hs, hsingle _ _ hs, hm, (hmanifest _ _ hm).1⟩

end Descriptor

end LayerTransfer
