import LayerTransfer.Proofs.Image.Mountable
import LayerTransfer.Proofs.Image.Remote
import LayerTransfer.Transport.Memory

namespace LayerTransfer

open Name Transport

/-! ### Registries that serve a blob -/

variable {σ : Type}

namespace Transport

/-- Whether a server that is in a steady state gives the content `b` for the digest `d` in the
repository `r`, and its length as its size, as often as it is asked. -/
structure Serves (server : Server Call Call.Reply σ) (steady : σ → Prop) (r : Repository) (d : Digest)
    (b : Bytes) : Prop where
  stays (s : σ) (q : Call) (h : steady s) : steady (server s q).2
  size (s : σ) (h : steady s) : ∃ n : UInt64, (server s (.size r d)).1 = .ok n ∧ n.toNat = b.length
  content (s : σ) (q : BlobRequest) (h : steady s) (hq : q.digest = d) :
    ∃ stream : Blob.Stream, (server s (.fetch r q)).1 = .ok stream ∧ stream.readAll = .ok b

end Transport

/-- Whether `l` is a blob of digest `d` and content `b` where the server is steady. -/
structure Layer.Delivers (server : Server Call Call.Reply σ) (steady : σ → Prop) (d : Digest) (b : Bytes)
    (l : Layer) : Prop where
  digest : l.digest = d
  size (s : σ) (h : steady s) :
    ∃ n : UInt64, (Procedure.run server s l.size.run).1 = .ok n ∧ n.toNat = b.length
  content (s : σ) (h : steady s) : ∃ stream : Blob.Stream,
    (Procedure.run server s l.content.run).1 = .ok stream ∧ stream.readAll = .ok b

variable {server : Server Call Call.Reply σ} {steady : σ → Prop} {r : Repository} {d : Digest}
  {b : Bytes}

theorem Layer.Delivers.wrap {l : Layer} (h : l.Delivers server steady d b) (o : Reference) :
    (l.wrap o).Delivers server steady d b :=
  ⟨h.digest, h.size, h.content⟩

theorem Transport.Serves.remote (h : Serves server steady r d b) (x : Option Descriptor) :
    ({ blob := .remote r d x } : Layer).Delivers server steady d b where
  digest := rfl
  size s hs := h.size s hs
  content s hs := h.content s (.layer d) hs rfl

theorem Layer.delivers_held (m : MediaType) (hb : b.length < UInt64.size) :
    ({ blob := .held b d m } : Layer).Delivers server steady d b where
  digest := rfl
  size _ _ := ⟨UInt64.ofNat b.length, rfl, UInt64.toNat_ofNat_of_lt' hb⟩
  content _ _ := ⟨.ofBytes b, rfl, Blob.Stream.readAll_ofBytes b⟩

/-! ### Two ways to a config -/

theorem rawConfig_of_serves {raw : Bytes} {i : RemoteImage} {s : σ} (hs : steady s)
    (h : Serves server steady r i.manifest.config.digest b)
    (hread : (Procedure.run server s (RemoteImage.read r raw).run).1 = .ok i) : i.rawConfig = b := by
  have hyields := Task.yields_run server s (RemoteImage.read r raw)
  rw [hread] at hyields
  obtain ⟨stream, hx, hraw⟩ := (RemoteImage.fetched_of_yields_read hyields).content
  obtain ⟨t, ht, hanswer⟩ := Procedure.answered_run h.stays hs (RemoteImage.read r raw).run _
    (hx ▸ List.mem_singleton_self _)
  obtain ⟨stream', hstream, hb⟩ := h.content t (RemoteImage.configRequest i.manifest) ht rfl
  cases hstream.symm.trans hanswer
  exact Except.ok.inj (hraw.symm.trans hb)

theorem Image.heldConfig_of_parse {raw : Bytes} {m : Manifest} (h : Manifest.parse raw = .ok m)
    (config : Bytes) (d : Digest) :
    heldConfig (.ok raw) (.ok config) (.ok d) = .ok { blob := .held config d m.config.mediaType } := by
  have hbind : heldConfig (.ok raw) (.ok config) (.ok d) =
      (Manifest.parse raw).bind fun m => .ok { blob := .held config d m.config.mediaType } := rfl
  rw [hbind, h]
  rfl

/-- Origins change nothing about the config of an image but its origin. -/
theorem Image.configLayer_nested {i : Image} {l : Layer} (h : i.configLayer = .ok l)
    (os : List Reference) :
    ∃ l', (i.nested os).configLayer = .ok l' ∧ (l' = l ∨ ∃ o, l' = l.wrap o) := by
  cases os with
  | nil => exact ⟨l, h, .inl rfl⟩
  | cons o os =>
    have hn : (i.nested (o :: os)).configLayer = (i.mountable o).configLayer :=
      congrArg Image.configLayer (nested_mountable o os i)
    refine ⟨l.wrap o, ?_, .inr ⟨o, rfl⟩⟩
    rw [hn, mountable, h]
    rfl

theorem Layer.Delivers.nested {l l' : Layer} (h : l.Delivers server steady d b)
    (hl : l' = l ∨ ∃ o, l' = l.wrap o) :
    l'.Delivers server steady d b ∧ l'.mediaType = l.mediaType := by
  obtain rfl | ⟨o, rfl⟩ := hl
  · exact ⟨h, rfl⟩
  · exact ⟨h.wrap o, rfl⟩

theorem Layer.Delivers.size_eq {l l' : Layer} {d' : Digest} (h : l.Delivers server steady d b)
    (h' : l'.Delivers server steady d' b) {s : σ} (hs : steady s) :
    (Procedure.run server s l.size.run).1 = (Procedure.run server s l'.size.run).1 := by
  obtain ⟨n, hn, hb⟩ := h.size s hs
  obtain ⟨n', hn', hb'⟩ := h'.size s hs
  rw [hn, hn', UInt64.toNat_inj.1 (hb.trans hb'.symm)]

theorem Layer.Delivers.size_of_length {l : Layer} (h : l.Delivers server steady d b) {n : UInt64}
    (hn : n.toNat = b.length) {s : σ} (hs : steady s) :
    (Procedure.run server s l.size.run).1 = .ok n := by
  obtain ⟨m, hm, hb⟩ := h.size s hs
  rw [hm, UInt64.toNat_inj.1 (hb.trans hn.symm)]

/-- The config of an image in a repository, and the config that is made of the raw documents of that
image, have the digest that the manifest gives, and both have the content and the size of what the
registry serves, whatever origins they are given. That is the size in the manifest if it states the
true one. The config at hand has the media type that the manifest gives, the one in the repository
that of a layer. -/
theorem config_layers_agree {raw : Bytes} {i : RemoteImage} {s : σ}
    (h : Serves server steady r i.manifest.config.digest b) (hs : steady s)
    (hread : (Procedure.run server s (RemoteImage.read r raw).run).1 = .ok i) (j : Image)
    (hmanifest : j.rawManifest = i.toImage.rawManifest) (hconfig : j.rawConfig = i.toImage.rawConfig)
    (hname : j.configName = i.toImage.configName)
    (hj : j.configLayer = Image.heldConfig j.rawManifest j.rawConfig j.configName)
    (os os' : List Reference) :
    Manifest.parse raw = .ok i.manifest ∧ i.rawConfig = b ∧
      ∃ l l', (i.toImage.nested os).configLayer = .ok l ∧ (j.nested os').configLayer = .ok l' ∧
        l.Delivers server steady i.manifest.config.digest b ∧
        l'.Delivers server steady i.manifest.config.digest b ∧
        (∀ t, steady t → (Procedure.run server t l.size.run).1 = (Procedure.run server t l'.size.run).1) ∧
        (i.manifest.config.size.toNat = b.length →
          ∀ t, steady t → (Procedure.run server t l.size.run).1 = .ok i.manifest.config.size) ∧
        l.mediaType = .dockerLayer ∧ l'.mediaType = i.manifest.config.mediaType := by
  have hyields := Task.yields_run server s (RemoteImage.read r raw)
  rw [hread] at hyields
  have hi := RemoteImage.fetched_of_yields_read hyields
  have hb := rawConfig_of_serves hs h hread
  obtain ⟨n, -, hn⟩ := h.size s hs
  have hheld : j.configLayer =
      .ok { blob := .held b i.manifest.config.digest i.manifest.config.mediaType } := by
    rw [hj, hmanifest, hconfig, hname, ← hb]
    exact Image.heldConfig_of_parse (by rw [hi.rawManifest, hi.manifest]) _ _
  obtain ⟨l, hl, hwrap⟩ := Image.configLayer_nested (i := i.toImage) rfl os
  obtain ⟨l', hl', hwrap'⟩ := Image.configLayer_nested hheld os'
  have hremote : i.configLayer.Delivers server steady i.manifest.config.digest b := by
    obtain rfl := hi.repository
    exact h.remote _
  obtain ⟨hd, hm⟩ := hremote.nested hwrap
  obtain ⟨hd', hm'⟩ := (Layer.delivers_held _ (hn ▸ n.toNat_lt)).nested hwrap'
  exact ⟨hi.manifest, hb, l, l', hl, hl', hd, hd', fun t ht => hd.size_eq hd' ht,
    fun hsize t ht => hd.size_of_length hsize ht, hm, hm'⟩

theorem Transport.Memory.serves {m : Memory} {x : StoredBlob} (r : Repository)
    (hx : m.find? x.digest = some x) (hsize : x.sizeFailure = none) (hfetch : x.fetchFailure = none)
    (hb : Blob.Stream.collect x.chunks = .ok b) (hn : x.size.toNat = b.length) :
    Serves Memory.server (· = m) r x.digest b where
  stays _ _ h := h
  size := by
    rintro _ rfl
    exact ⟨x.size, by simp [server, answer, hx, answerFor, hsize], hn⟩
  content := by
    rintro _ q rfl hq
    exact ⟨⟨x.chunks, x.hint, q.redaction⟩, by simp [server, answer, hq, hx, answerFor, hfetch],
      (Blob.Stream.readAll_eq _).trans hb⟩

namespace RemoteImage

def ociListing (size : UInt64) : Manifest where
  declared := some .ociManifest
  config := ⟨⟨"application/vnd.oci.image.config.v1+json"⟩, size, digestOf 'c' rfl⟩
  layers := []

def ociConfig : Bytes := [0x7b, 0x7d]

def ociImage (size : UInt64) : RemoteImage where
  repository := tools
  rawManifest := Json.printObject
    [("schemaVersion", Json.printNatural 2),
      ("mediaType", Json.printText MediaType.ociManifest.text),
      ("config", (ociListing size).config.print)]
  manifest := ociListing size
  rawConfig := ociConfig
  config := ⟨[]⟩

def heldOci (size : UInt64) : Image :=
  HeldImage.toImage
    { layers := [], diffIds := [], rawManifest := (ociImage size).rawManifest,
      rawConfig := some ociConfig, configName := digestOf 'c' rfl, descriptor := none }

def ociBlob : StoredBlob where
  digest := digestOf 'c' rfl
  chunks := [.data [0x7b], .data [0x7d]]
  hint := none
  size := 2

def ociRegistry : Memory where
  blobs := [ociBlob]

theorem ociRegistry_serves :
    Serves Memory.server (· = ociRegistry) tools (digestOf 'c' rfl) ociConfig :=
  Memory.serves (x := ociBlob) tools rfl rfl rfl rfl rfl

def ociFetched (size : UInt64) :=
  Procedure.run Memory.server ociRegistry (read tools (ociImage size).rawManifest).run

theorem ociConfig_layers_agree :
    (ociFetched 2).1 = .ok (ociImage 2) ∧
      Manifest.parse (ociImage 2).rawManifest = .ok (ociListing 2) ∧
      ∃ l l', (ociImage 2).toImage.configLayer = .ok l ∧
        ((heldOci 2).mountable (.tagged ⟨tools, "v1", by decide⟩)).configLayer = .ok l' ∧
        l.Delivers Memory.server (· = ociRegistry) (digestOf 'c' rfl) ociConfig ∧
        l'.Delivers Memory.server (· = ociRegistry) (digestOf 'c' rfl) ociConfig ∧
        (Procedure.run Memory.server ociRegistry l.size.run).1 = .ok 2 ∧
        l.mediaType = .dockerLayer ∧ l'.mediaType = (ociListing 2).config.mediaType := by
  have hread : (ociFetched 2).1 = .ok (ociImage 2) := by decide +kernel
  have hserves : Serves Memory.server (· = ociRegistry) tools (ociImage 2).manifest.config.digest
      ociConfig := ociRegistry_serves
  obtain ⟨hm, -, l, l', hl, hl', hd, hd', -, hsize, ht, ht'⟩ :=
    config_layers_agree hserves rfl hread (heldOci 2) rfl rfl rfl rfl []
      [.tagged ⟨tools, "v1", by decide⟩]
  exact ⟨hread, hm, l, l', hl, hl', hd, hd', hsize rfl ociRegistry rfl, ht, ht'⟩

/-- The registry serves the config with its true size. Nevertheless its layer has another media type
than the config at hand, and neither has the size that the manifest gives. -/
theorem ociConfig_layers_differ :
    (ociFetched 7).1 = .ok (ociImage 7) ∧
      Serves Memory.server (· = ociRegistry) tools (ociListing 7).config.digest ociConfig ∧
      ∃ l l', (ociImage 7).toImage.configLayer = .ok l ∧
        Image.heldConfig (ociImage 7).toImage.rawManifest (ociImage 7).toImage.rawConfig
          (ociImage 7).toImage.configName = .ok l' ∧
        l.mediaType ≠ l'.mediaType ∧
        (Procedure.run Memory.server ociRegistry l.size.run).1 = .ok 2 ∧
        (Procedure.run Memory.server ociRegistry l'.size.run).1 = .ok 2 ∧
        (ociListing 7).config.size ≠ 2 := by
  have hread : (ociFetched 7).1 = .ok (ociImage 7) := by decide +kernel
  have hm : Manifest.parse (ociImage 7).rawManifest = .ok (ociListing 7) := by decide +kernel
  exact ⟨hread, ociRegistry_serves, _, _, rfl, Image.heldConfig_of_parse hm ociConfig _, by decide,
    rfl, rfl, by decide⟩

end RemoteImage

end LayerTransfer
