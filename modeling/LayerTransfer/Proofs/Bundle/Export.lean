import LayerTransfer.Proofs.Bundle.Layer
import LayerTransfer.Proofs.Descriptor.Index
import LayerTransfer.Transport.Memory

namespace LayerTransfer.Bundle

open Name Transport
open Archive (Member Spells whole members? endMarker)

/-! ### Documents -/

def packed (x : String × Bytes) : Bytes := whole (Bytes.ofText x.1) x.2

theorem appendBytes_of_ok {a : Archive} {name : String} {content : Bytes}
    (h : (a.appendBytes name content).2 = .ok ()) :
    (a.appendBytes name content).1 = a.extended (packed (name, content)) ∧
      content.length < UInt64.size := by
  obtain ⟨b, hb, hl, hw⟩ := Archive.append_of_ok h
  rw [Blob.Stream.resumed_data, Blob.Stream.resumed_nil, Blob.Stream.collect_data] at hb
  cases hb
  exact ⟨hw, hl ▸ UInt64.toNat_lt _⟩

theorem addDocuments_of_ok {os : List (Outcome (String × Bytes))} {a : Archive}
    (h : (addDocuments os a).2 = .ok ()) :
    ∃ docs : List (String × Bytes), os = docs.map .ok ∧ (∀ x ∈ docs, x.2.length < UInt64.size) ∧
      (addDocuments os a).1 = a.extended (docs.flatMap packed) := by
  induction os generalizing a with
  | nil => exact ⟨[], rfl, by simp, a.extended_nil.symm⟩
  | cons o os ih =>
    cases o with
    | error e => cases h
    | ok x =>
      obtain ⟨name, content⟩ := x
      have hstep : addDocuments (.ok (name, content) :: os) a =
          match (a.appendBytes name content).2 with
          | .error e => ((a.appendBytes name content).1, .error e)
          | .ok _ => addDocuments os (a.appendBytes name content).1 := by
        rw [addDocuments]
        split <;> simp_all
      cases hx : (a.appendBytes name content).2 with
      | error e =>
        rw [hstep, hx] at h
        cases h
      | ok u =>
        rw [hstep, hx] at h ⊢
        obtain ⟨docs, rfl, hl, hw⟩ := ih h
        obtain ⟨ha, hc⟩ := appendBytes_of_ok hx
        refine ⟨(name, content) :: docs, rfl, ?_, ?_⟩
        · intro y hy
          rcases List.mem_cons.1 hy with rfl | hy
          · exact hc
          · exact hl y hy
        · rw [List.flatMap_cons, ← Archive.extended_extended, ← ha]
          exact hw

theorem documents_of_ok {i : Image} {ds : List Descriptor} {docs : List (String × Bytes)}
    (h : documents i ds = docs.map .ok) :
    ∃ manifest config d, i.rawManifest = .ok manifest ∧ i.configName = .ok d ∧
      i.rawConfig = .ok config ∧ docs = [(manifestEntry, manifest), (configEntry d, config),
        (indexEntry, Descriptor.printIndex ds)] := by
  obtain ⟨x, docs, rfl, hx, h⟩ := List.map_eq_cons_iff.1 h.symm
  obtain ⟨y, docs, rfl, hy, h⟩ := List.map_eq_cons_iff.1 h
  obtain ⟨z, docs, rfl, hz, h⟩ := List.map_eq_cons_iff.1 h
  obtain rfl := List.map_eq_nil_iff.1 h
  obtain ⟨manifest, hm, rfl⟩ := Outcome.ok_of_map hx.symm
  obtain ⟨d, hd, hy⟩ := Outcome.ok_of_bind hy.symm
  obtain ⟨config, hc, rfl⟩ := Outcome.ok_of_map hy
  cases hz
  exact ⟨manifest, config, d, hm, hd, hc, rfl⟩

theorem documents_named (manifest : Bytes) (d : Digest) (config index : Bytes) :
    ∀ x ∈ [(manifestEntry, manifest), (configEntry d, config), (indexEntry, index)],
      IsFileName x.1 := by
  intro x hx
  simp only [List.mem_cons, List.not_mem_nil, or_false] at hx
  obtain rfl | rfl | rfl := hx
  · exact isFileName_manifestEntry
  · exact isFileName_configEntry d
  · exact isFileName_indexEntry

/-! ### Whole exports -/

variable {σ : Type} {server : Server Call Call.Reply σ} {s t : σ} {v : Log.Verbosity} {m : Machine}
  {ps : List Pinned} {path : String} {i : Image} {a b : Archive} {es : List (Event Call Call.Reply)}

/-- An export that fails on a layer makes no more calls and writes no more entries. -/
theorem run_write_of_error {e : TransferError} (hc : Archive.create m path = .ok a)
    (hl : Procedure.run server s (addLayers v ps.length 0 ps a) = ((b, .error e), es, t)) :
    (Procedure.run server s (write v m ps path i)).1 = ⟨some b.closed, .error e⟩ ∧
      Event.exchanges (Procedure.run server s (write v m ps path i)).2.1 = Event.exchanges es := by
  have he : Procedure.run server s (addEntries v ps i a) = ((b, .error e), es, t) := by
    rw [addEntries, Procedure.run_bind, hl]
    simp [Procedure.run]
  simp [write, hc, Procedure.run, Procedure.run_bind, he]

theorem run_layers (server : Server Call Call.Reply σ) (s : σ) (ps : List Pinned)
    (hc : Archive.create m path = .ok a) :
    ∃ (es : List (Event Call Call.Reply)) (xs : List CallExchange) (body : Bytes)
      (o : Outcome (List Descriptor)) (t : σ), Event.exchanges es = xs ∧ Advance path ps xs body o ∧
      Procedure.run server s (addLayers v ps.length 0 ps a) =
        ((⟨path, body, m.recordOrder⟩, o), es, t) := by
  obtain rfl := Archive.written_of_create hc
  have hy := Procedure.yields_run server s (addLayers v ps.length 0 ps ⟨path, [], m.recordOrder⟩)
  generalize Procedure.run server s (addLayers v ps.length 0 ps ⟨path, [], m.recordOrder⟩) = r at hy ⊢
  obtain ⟨⟨b, o⟩, es, t⟩ := r
  obtain ⟨body, hadv, hw⟩ := yields_addLayers hy
  obtain rfl : b = ⟨path, body, m.recordOrder⟩ := hw
  exact ⟨es, _, body, o, t, rfl, hadv, rfl⟩

/-! ### Reading back -/

theorem spells_shipped (ss : List Shipped) :
    Spells (ss.flatMap Shipped.octets) (ss.map Shipped.member) := by
  induction ss with
  | nil => exact Archive.spells_nil
  | cons x ss ih =>
    have hn := isFileName_layerEntry x.reference.digest
    exact (Archive.spells_whole hn.plain hn.length_lt (x.size_eq ▸ x.size.toNat_lt)).append ih

theorem spells_documents {docs : List (String × Bytes)} (hn : ∀ x ∈ docs, IsFileName x.1)
    (hl : ∀ x ∈ docs, x.2.length < UInt64.size) :
    Spells (docs.flatMap packed) (docs.map fun x => .plain (Bytes.ofText x.1) x.2) := by
  induction docs with
  | nil => exact Archive.spells_nil
  | cons x docs ih =>
    have hx := hn x (List.mem_cons_self ..)
    have hw := Archive.spells_whole hx.plain hx.length_lt (hl x (List.mem_cons_self ..))
    exact hw.append (ih (fun y hy => hn y (List.mem_cons_of_mem _ hy))
      fun y hy => hl y (List.mem_cons_of_mem _ hy))

/-- What a bundle is made of. -/
structure Contents where
  layers : List Shipped
  manifest : Bytes
  configName : Digest
  config : Bytes

namespace Contents

variable {c : Contents}

def descriptors (c : Contents) : List Descriptor := c.layers.map Shipped.descriptor

def documents (c : Contents) : List (String × Bytes) :=
  [(manifestEntry, c.manifest), (configEntry c.configName, c.config),
    (indexEntry, Descriptor.printIndex c.descriptors)]

def octets (c : Contents) : Bytes := c.layers.flatMap Shipped.octets ++ c.documents.flatMap packed

def members (c : Contents) : List Member :=
  c.layers.map Shipped.member ++ c.documents.map fun x => .plain (Bytes.ofText x.1) x.2

/-- The blobs at references, and the documents of an image. -/
structure IsOf (c : Contents) (ps : List Pinned) (i : Image) : Prop where
  references : c.layers.map Shipped.reference = ps
  manifest : i.rawManifest = .ok c.manifest
  configName : i.configName = .ok c.configName
  config : i.rawConfig = .ok c.config
  sized : ∀ x ∈ c.documents, x.2.length < UInt64.size

theorem IsOf.spells (h : c.IsOf ps i) : Spells c.octets c.members := by
  have hnamed := documents_named c.manifest c.configName c.config
    (Descriptor.printIndex c.descriptors)
  exact (spells_shipped c.layers).append (spells_documents hnamed h.sized)

end Contents

/-- An export that succeeds has shipped the blobs at all references, whoever served them, and has
written nothing else but the documents. -/
theorem yields_write_ok {xs : List CallExchange} {e : Exported} {ds : List Descriptor}
    (h : Procedure.Yields (write v m ps path i) xs e) (he : e.result = .ok ds) :
    ∃ c : Contents, c.IsOf ps i ∧ c.descriptors = ds ∧ c.layers.flatMap Shipped.exchanges = xs ∧
      e.file = some (c.octets ++ endMarker) := by
  have hw := Procedure.yields_tell.1 (Procedure.yields_tell.1 h)
  cases hc : Archive.create m path with
  | error f =>
    rw [hc] at hw
    obtain ⟨-, rfl⟩ := Procedure.yields_done.1 hw
    cases he
  | ok a =>
    rw [hc] at hw
    obtain rfl := Archive.written_of_create hc
    obtain ⟨⟨b, o⟩, ys, zs, rfl, hentries, hend⟩ := Procedure.yields_bind.1 hw
    cases o with
    | error f =>
      obtain ⟨-, rfl⟩ := Procedure.yields_done.1 hend
      cases he
    | ok ds' =>
      obtain ⟨rfl, rfl⟩ := Procedure.yields_done.1 (Procedure.yields_tell.1 hend)
      cases he
      obtain ⟨⟨a, o⟩, us, vs, rfl, hlayers, hdocs⟩ := Procedure.yields_bind.1 hentries
      obtain ⟨body, hadv, hbody⟩ := yields_addLayers hlayers
      cases o with
      | error f => cases (Procedure.yields_done.1 hdocs).2
      | ok ds' =>
        have hadd : Procedure.Yields (.done ((addDocuments (Bundle.documents i ds') a).1,
            (addDocuments (Bundle.documents i ds') a).2.map fun _ => ds')) vs (b, .ok ds) := hdocs
        obtain ⟨rfl, hb⟩ := Procedure.yields_done.1 hadd
        obtain ⟨rfl, hds⟩ := Prod.mk.inj hb
        obtain ⟨u, hd, rfl⟩ := Outcome.ok_of_map hds.symm
        obtain ⟨docs, hdocuments, hsized, hwritten⟩ := addDocuments_of_ok hd
        obtain ⟨manifest, config, d, hm, hn, hcfg, rfl⟩ := documents_of_ok hdocuments
        cases hadv with
        | complete ss hp =>
          refine ⟨⟨ss, manifest, d, config⟩, ⟨hp, hm, hn, hcfg, hsized⟩, rfl, ?_, ?_⟩
          · rw [List.append_nil, List.append_nil]
          · rw [Archive.ended_eq_closed, Archive.closed, hwritten]
            obtain rfl : a = _ := hbody
            rfl

/-- A bundle whose export succeeds is read back as the layers that were asked for, in their order
and with the content that the registry sent, and then manifest, config and index. The index lists
what was asked for, and can be read. -/
theorem bundle_reads_back {ds : List Descriptor}
    (h : (Procedure.run server s (write v m ps path i)).1.result = .ok ds) :
    ∃ (ss : List Shipped) (manifest : Bytes) (d : Digest) (config file : Bytes),
      ss.map Shipped.reference = ps ∧ ss.map Shipped.descriptor = ds ∧
      ds.map Descriptor.digest = ps.map Pinned.digest ∧
      ds.map (·.size.toNat) = ss.map (·.content.length) ∧
      Event.exchanges (Procedure.run server s (write v m ps path i)).2.1 =
        ss.flatMap Shipped.exchanges ∧
      i.rawManifest = .ok manifest ∧ i.configName = .ok d ∧ i.rawConfig = .ok config ∧
      (Procedure.run server s (write v m ps path i)).1.file = some file ∧
      members? file = some (ss.map Shipped.member ++
        [.plain (Bytes.ofText manifestEntry) manifest, .plain (Bytes.ofText (configEntry d)) config,
          .plain (Bytes.ofText indexEntry) (Descriptor.printIndex ds)], endMarker) ∧
      Descriptor.parseIndex (Descriptor.printIndex ds) = .ok ds := by
  obtain ⟨c, hc, rfl, hx, hfile⟩ := yields_write_ok (Procedure.yields_run server s _) h
  refine ⟨c.layers, c.manifest, c.configName, c.config, _, hc.references, rfl, ?_, ?_, hx.symm,
    hc.manifest, hc.configName, hc.config, hfile, Archive.members?_of_spells hc.spells,
    Descriptor.parseIndex_printIndex _⟩
  · rw [← hc.references, Contents.descriptors, List.map_map, List.map_map]
    rfl
  · rw [Contents.descriptors, List.map_map]
    exact List.map_congr_left fun x _ => x.size_eq.symm

def localRegistry : Registry := ⟨"localhost:5000", false, by decide, by decide⟩

def appRepository : Repository := ⟨localRegistry, "team/app", by decide, by decide⟩

def longDigest : Digest := ⟨.sha512, String.ofList (List.replicate 128 'a'), by decide +kernel⟩

def shortDigest : Digest := ⟨.sha256, String.ofList (List.replicate 64 'b'), by decide +kernel⟩

/-- Two blobs, of which the second is longer than the registry says. -/
def twoBlobs : Memory where
  blobs := [
    { digest := longDigest, chunks := [.data [1, 2], .data [3]], hint := none, size := 3 },
    { digest := shortDigest, chunks := [.data [4, 5]], hint := none, size := 1 }]

def emptyImage : Image :=
  HeldImage.toImage
    { layers := [], diffIds := [], rawManifest := [0x7b, 0x7d], rawConfig := some [0x5b, 0x5d],
      configName := shortDigest, descriptor := none }

def longTwice : List Pinned := [⟨appRepository, longDigest⟩, ⟨appRepository, longDigest⟩]

def longListed : Descriptor := ⟨.dockerLayer, 3, longDigest⟩

def twiceExported : Exported × List (Event Call Call.Reply) × Memory :=
  Procedure.run Memory.server twoBlobs (write {} Archive.usedMachine longTwice "b.tar" emptyImage)

theorem longTwice_reads_back :
    twiceExported.1.result = .ok [longListed, longListed] ∧
      ∃ (ss : List Shipped) (manifest : Bytes) (d : Digest) (config file : Bytes),
        ss.map Shipped.reference = longTwice ∧
        ss.map Shipped.descriptor = [longListed, longListed] ∧
        [longListed, longListed].map Descriptor.digest = longTwice.map Pinned.digest ∧
        [longListed, longListed].map (·.size.toNat) = ss.map (·.content.length) ∧
        Event.exchanges twiceExported.2.1 = ss.flatMap Shipped.exchanges ∧
        emptyImage.rawManifest = .ok manifest ∧ emptyImage.configName = .ok d ∧
        emptyImage.rawConfig = .ok config ∧ twiceExported.1.file = some file ∧
        members? file = some (ss.map Shipped.member ++
          [.plain (Bytes.ofText manifestEntry) manifest,
            .plain (Bytes.ofText (configEntry d)) config,
            .plain (Bytes.ofText indexEntry)
              (Descriptor.printIndex [longListed, longListed])], endMarker) ∧
        Descriptor.parseIndex (Descriptor.printIndex [longListed, longListed]) =
          .ok [longListed, longListed] := by
  have h : twiceExported.1.result = .ok [longListed, longListed] := by
    decide +kernel
  exact ⟨h, bundle_reads_back h⟩

theorem Failing.members {p : Pinned} {ys : List CallExchange} {e : TransferError} {body : Bytes}
    {residue : Bytes} {ms : List Member} (hf : Failing path p ys e residue) (hs : Spells body ms) :
    ∃ tail k, members? (body ++ residue ++ endMarker) = some (ms ++ tail, Bytes.zeros k) ∧
      ∀ x ∈ tail, x.label.name = Bytes.ofText (layerEntry p.digest) := by
  have hnil : ∃ tail k, members? (body ++ [] ++ endMarker) = some (ms ++ tail, Bytes.zeros k) ∧
      ∀ x ∈ tail, x.label.name = Bytes.ofText (layerEntry p.digest) := by
    refine ⟨[], 2 * Archive.blockSize, ?_, by simp⟩
    rw [List.append_nil, List.append_nil, Archive.members?_of_spells hs]
    rfl
  cases hf with
  | refused => exact hnil
  | unsized => exact hnil
  | unfetched => exact hnil
  | torn size stream content f hx hp hl =>
    have hn := isFileName_layerEntry p.digest
    obtain ⟨k, hk⟩ := Archive.members?_of_torn hs hn.plain hn.length_lt hl
    refine ⟨_, k, hk, ?_⟩
    intro x hm
    rw [List.mem_singleton] at hm
    rw [hm]
    rfl

/-- An export that fails on a layer reports that layer with the failure underneath. It has read the
layers before it and asked for this one up to the failing call, and it leaves their entries, what
came of this one, and the end marker: no document at all. -/
theorem failed_layer_ends_bundle {e : TransferError} (hc : Archive.create m path = .ok a)
    (hl : (Procedure.run server s (addLayers v ps.length 0 ps a)).1.2 = .error e) :
    ∃ (ss : List Shipped) (p : Pinned) (after : List Pinned) (ys : List CallExchange)
      (cause : TransferError) (residue : Bytes) (ms : List Member) (k : Nat),
      ps = ss.map Shipped.reference ++ p :: after ∧ Failing path p ys cause residue ∧
      (Procedure.run server s (write v m ps path i)).1 =
        ⟨some (ss.flatMap Shipped.octets ++ residue ++ endMarker),
          .error (.layer p.text cause)⟩ ∧
      (TransferError.layer p.text cause).root = cause.root ∧
      Event.exchanges (Procedure.run server s (write v m ps path i)).2.1 =
        ss.flatMap Shipped.exchanges ++ ys ∧
      members? (ss.flatMap Shipped.octets ++ residue ++ endMarker) =
        some (ss.map Shipped.member ++ ms, Bytes.zeros k) ∧
      ∀ x ∈ ss.map Shipped.member ++ ms, ¬IsDocument x.label.name := by
  obtain ⟨es, xs, body, o, t, hxs, hadv, hr⟩ := run_layers server s ps hc
  rw [hr] at hl
  obtain rfl : o = .error e := hl
  obtain ⟨hw, hx⟩ := run_write_of_error (i := i) hc hr
  cases hadv with
  | failed ss p after ys cause residue hp hf =>
    -- what is read back: the layers before, and at most one member for the failed one
    obtain ⟨tail, k, hk, ht⟩ := hf.members (spells_shipped ss)
    refine ⟨ss, p, after, ys, cause, residue, tail, k, hp, hf, hw, rfl, hx.trans hxs, hk, ?_⟩
    intro x hmem
    rcases List.mem_append.1 hmem with hmem | hmem
    · obtain ⟨y, -, rfl⟩ := List.mem_map.1 hmem
      exact not_isDocument_layerEntry _
    · rw [ht x hmem]
      exact not_isDocument_layerEntry _

def shortBetween : List Pinned :=
  [⟨appRepository, longDigest⟩, ⟨appRepository, shortDigest⟩, ⟨appRepository, longDigest⟩]

def tooLongError : TransferError :=
  .layer (Pinned.text ⟨appRepository, shortDigest⟩)
    (.archive "b.tar" (some (layerEntry shortDigest)) (Archive.ContentFault.tooLong 1).message)

def betweenExported : Exported × List (Event Call Call.Reply) × Memory :=
  Procedure.run Memory.server twoBlobs (write {} Archive.usedMachine shortBetween "b.tar" emptyImage)

theorem shortBetween_ends_bundle :
    Archive.create Archive.usedMachine "b.tar" = .ok { path := "b.tar" } ∧
      (Procedure.run Memory.server twoBlobs
        (addLayers {} shortBetween.length 0 shortBetween { path := "b.tar" })).1.2 =
          .error tooLongError ∧
      ∃ (ss : List Shipped) (p : Pinned) (after : List Pinned) (ys : List CallExchange)
        (cause : TransferError) (residue : Bytes) (ms : List Member) (k : Nat),
        shortBetween = ss.map Shipped.reference ++ p :: after ∧
        Failing "b.tar" p ys cause residue ∧
        betweenExported.1 = ⟨some (ss.flatMap Shipped.octets ++ residue ++ endMarker),
          .error (.layer p.text cause)⟩ ∧
        (TransferError.layer p.text cause).root = cause.root ∧
        Event.exchanges betweenExported.2.1 = ss.flatMap Shipped.exchanges ++ ys ∧
        members? (ss.flatMap Shipped.octets ++ residue ++ endMarker) =
          some (ss.map Shipped.member ++ ms, Bytes.zeros k) ∧
        ∀ x ∈ ss.map Shipped.member ++ ms, ¬IsDocument x.label.name := by
  have hc : Archive.create Archive.usedMachine "b.tar" = .ok { path := "b.tar" } := rfl
  have hl : (Procedure.run Memory.server twoBlobs
      (addLayers {} shortBetween.length 0 shortBetween { path := "b.tar" })).1.2 =
        .error tooLongError := by
    decide +kernel
  exact ⟨hc, hl, failed_layer_ends_bundle hc hl⟩

end LayerTransfer.Bundle
