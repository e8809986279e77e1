import LayerTransfer.Image.Remote
import LayerTransfer.Proofs.Procedure.Yields
import Mathlib.Data.List.Forall2

namespace LayerTransfer

open Name Transport

/-! ### Layers -/

/-- Whether `l` is the blob in the repository `r` that a manifest lists as `d`. Each use of it is
one call about just that blob, and what it says of itself takes no call. -/
structure Layer.IsListed (r : Repository) (d : Descriptor) (l : Layer) : Prop where
  digest : l.digest = d.digest
  origin : l.origin = none
  listed : l.blob.listed? = some d
  descriptor (xs : List (Exchanged Call Call.Reply)) (o : Outcome Descriptor) :
    l.descriptor.Yields xs o ↔ xs = [] ∧ o = .ok d
  size (xs : List (Exchanged Call Call.Reply)) (o : Outcome UInt64) :
    l.size.Yields xs o ↔ xs = [⟨.size r d.digest, o⟩]
  isPresent (xs : List (Exchanged Call Call.Reply)) (o : Outcome Bool) :
    l.isPresent.Yields xs o ↔ xs = [⟨.present r d.digest, o⟩]
  content (xs : List (Exchanged Call Call.Reply)) (o : Outcome Blob.Stream) :
    l.content.Yields xs o ↔ xs = [⟨.fetch r (.layer d.digest), o⟩]

/-- Whether a manifest lists the digest `d` as `x`: as its config, or else as the first of its
layers with that digest. -/
inductive Manifest.Lists (m : Manifest) (d : Digest) : Descriptor → Prop
  | config (h : d = m.config.digest) : Lists m d m.config
  | layer {before after : List Descriptor} {x : Descriptor} (hc : d ≠ m.config.digest)
      (hl : m.layers = before ++ x :: after) (hb : ∀ y ∈ before, y.digest ≠ d) (hx : x.digest = d) :
      Lists m d x

theorem Manifest.Lists.digest {m : Manifest} {d : Digest} {x : Descriptor} (h : m.Lists d x) :
    x.digest = d := by
  cases h with
  | config h => exact h.symm
  | layer _ _ _ hx => exact hx

/-- Whether `n` is the first position of `x` in `xs`. -/
def IsFirst {α : Type} (x : α) (n : Nat) (xs : List α) : Prop :=
  ∃ h : n < xs.length, xs[n] = x ∧ ∀ (k : Nat) (_ : k < n), xs[k] ≠ x

theorem idxOf?_eq_some_iff_isFirst {α : Type} [DecidableEq α] {x : α} {n : Nat} {xs : List α} :
    xs.idxOf? x = some n ↔ IsFirst x n xs :=
  List.idxOf?_eq_some_iff

namespace RemoteImage

variable {r : Repository} {raw : Bytes} {xs : List (Exchanged Call Call.Reply)} {i : RemoteImage}

/-- How the image `i` comes about: its manifest is what `raw` says, and its config is what the one
call delivered. -/
structure Fetched (r : Repository) (raw : Bytes) (xs : List (Exchanged Call Call.Reply))
    (i : RemoteImage) : Prop where
  repository : i.repository = r
  rawManifest : i.rawManifest = raw
  manifest : Manifest.parse raw = .ok i.manifest
  config : ImageConfig.parse i.rawConfig = .ok i.config
  content : ∃ stream : Blob.Stream,
    xs = [⟨.fetch r (configRequest i.manifest), .ok stream⟩] ∧ stream.readAll = .ok i.rawConfig

theorem fetched_of_yields_read (h : (read r raw).Yields xs (.ok i)) : Fetched r raw xs i := by
  obtain ⟨m, hm, hfetch⟩ := Task.ok_of_yields_ofOutcome_bind h
  obtain ⟨stream, us, vs, rfl, hcall, hread⟩ := Task.ok_of_yields_bind hfetch
  obtain ⟨raw', hraw, hparse⟩ := Task.ok_of_yields_ofOutcome_bind hread
  obtain ⟨config, hconfig, hdone⟩ := Task.ok_of_yields_ofOutcome_bind hparse
  obtain ⟨rfl, hi⟩ := Task.yields_pure.1 hdone
  cases hi
  refine ⟨rfl, rfl, hm, hconfig, stream, ?_, Outcome.ok_of_mapError hraw⟩
  rw [Procedure.yields_single.1 hcall]
  rfl

theorem yields_read_of_fetched (h : Fetched r raw xs i) : (read r raw).Yields xs (.ok i) := by
  obtain ⟨rfl, rfl, hm, hconfig, stream, rfl, hraw⟩ := h
  refine Task.yields_ofOutcome_bind.2 (.inr ⟨_, hm, ?_⟩)
  refine Task.yields_bind.2 (.inr ⟨stream, _, [], rfl, Procedure.yields_single.2 rfl, ?_⟩)
  refine Task.yields_ofOutcome_bind.2 (.inr ⟨i.rawConfig, by rw [hraw]; rfl, ?_⟩)
  exact Task.yields_ofOutcome_bind.2 (.inr ⟨_, hconfig, Task.yields_pure.2 ⟨rfl, rfl⟩⟩)

/-! ### Lookups -/

theorem isListed_layer (d : Descriptor) : (i.layer d).IsListed i.repository d where
  digest := rfl
  origin := rfl
  listed := rfl
  descriptor _ _ := Task.yields_pure
  size _ _ := Procedure.yields_single
  isPresent _ _ := Procedure.yields_single
  content _ _ := Procedure.yields_single

theorem isListed_layers :
    List.Forall₂ (Layer.IsListed i.repository) i.manifest.layers (i.manifest.layers.map i.layer) := by
  rw [List.forall₂_map_right_iff, List.forall₂_same]
  exact fun d _ => isListed_layer d

theorem layerByDigest_cases (i : RemoteImage) (d : Digest) :
    (∃ x, i.manifest.Lists d x ∧ i.layerByDigest d = .ok (i.layer x)) ∨
      (d ≠ i.manifest.config.digest ∧ ∀ x ∈ i.manifest.layers, x.digest ≠ d) ∧
        ∃ text, i.layerByDigest d = .error (.manifest text) := by
  unfold layerByDigest
  split
  next hc => exact .inl ⟨i.manifest.config, .config hc, rfl⟩
  next hc =>
    split
    next x hx =>
      obtain ⟨hd, before, after, hl, hb⟩ := List.find?_eq_some_iff_append.1 hx
      exact .inl ⟨x, .layer hc hl (by simpa using hb) (by simpa using hd), rfl⟩
    next hx =>
      rw [List.find?_eq_none] at hx
      exact .inr ⟨⟨hc, by simpa using hx⟩, _, rfl⟩

theorem exists_layerByDigest_iff {d : Digest} :
    (∃ l, i.layerByDigest d = .ok l) ↔
      d = i.manifest.config.digest ∨ ∃ x ∈ i.manifest.layers, x.digest = d := by
  obtain ⟨x, hx, hok⟩ | ⟨⟨hc, hl⟩, text, he⟩ := layerByDigest_cases i d
  · refine iff_of_true ⟨_, hok⟩ ?_
    cases hx with
    | config h => exact .inl h
    | @layer before after x _ hl _ hx => exact .inr ⟨x, by simp [hl], hx⟩
  · refine iff_of_false (fun ⟨l, h⟩ => ?_) ?_
    · rw [he] at h
      cases h
    · rintro (h | ⟨x, hx, h⟩)
      · exact hc h
      · exact hl x hx h

theorem isListed_of_layerByDigest {d : Digest} {l : Layer} (h : i.layerByDigest d = .ok l) :
    ∃ x, i.manifest.Lists d x ∧ l.IsListed i.repository x := by
  obtain ⟨x, hx, hok⟩ | ⟨-, text, he⟩ := layerByDigest_cases i d
  · rw [hok] at h
    cases h
    exact ⟨x, hx, isListed_layer x⟩
  · rw [he] at h
    cases h

theorem layerByDigest_error {d : Digest} {e : TransferError} (h : i.layerByDigest d = .error e) :
    ∃ text, e = .manifest text := by
  obtain ⟨x, -, hok⟩ | ⟨-, text, he⟩ := layerByDigest_cases i d
  · rw [hok] at h
    cases h
  · rw [he] at h
    cases h
    exact ⟨text, rfl⟩

theorem layerByDiffId_cases (i : RemoteImage) (d : Digest) :
    (∃ n x, IsFirst d n i.config.diffIds ∧ i.manifest.layers[n]? = some x ∧
        i.layerByDiffId d = .ok (i.layer x)) ∨
      (∀ n, IsFirst d n i.config.diffIds → i.manifest.layers[n]? = none) ∧
        ∃ text, i.layerByDiffId d = .error (.manifest text) := by
  unfold layerByDiffId
  split
  next hn =>
    refine .inr ⟨fun n h => ?_, _, rfl⟩
    rw [← idxOf?_eq_some_iff_isFirst, hn] at h
    cases h
  next n hn =>
    split
    next x hx => exact .inl ⟨n, x, idxOf?_eq_some_iff_isFirst.1 hn, hx, rfl⟩
    next hx =>
      refine .inr ⟨fun k h => ?_, _, rfl⟩
      rw [← idxOf?_eq_some_iff_isFirst, hn] at h
      cases h
      exact hx

theorem layerByDiffId_eq_ok_iff {d : Digest} {l : Layer} :
    i.layerByDiffId d = .ok l ↔
      ∃ n, IsFirst d n i.config.diffIds ∧ (i.manifest.layers.map i.layer)[n]? = some l := by
  obtain ⟨n, x, hn, hx, hok⟩ | ⟨hn, text, he⟩ := layerByDiffId_cases i d
  · rw [hok]
    constructor
    · intro h
      cases h
      exact ⟨n, hn, by simp [hx]⟩
    · rintro ⟨k, hk, hl⟩
      -- there is only one first position
      have hkn : k = n := by
        rw [← idxOf?_eq_some_iff_isFirst] at hn hk
        exact Option.some.inj (hk.symm.trans hn)
      rw [hkn, List.getElem?_map, hx] at hl
      exact congrArg Except.ok (Option.some.inj hl)
  · refine iff_of_false (fun h => ?_) ?_
    · rw [he] at h
      cases h
    · rintro ⟨k, hk, hl⟩
      rw [List.getElem?_map, hn k hk] at hl
      cases hl

theorem layerByDiffId_error {d : Digest} {e : TransferError} (h : i.layerByDiffId d = .error e) :
    ∃ text, e = .manifest text := by
  obtain ⟨n, x, -, -, hok⟩ | ⟨-, text, he⟩ := layerByDiffId_cases i d
  · rw [hok] at h
    cases h
  · rw [he] at h
    cases h
    exact ⟨text, rfl⟩

/-! ### Whole images -/

def Silent {α : Type} (t : Reading α) : Prop :=
  ∀ ys o, t.Yields ys o → ys = []

theorem silent_ofOutcome {α : Type} (o : Outcome α) : Silent (Task.ofOutcome o) :=
  fun _ _ h => (Task.yields_ofOutcome.1 h).1

/-- How the layers of the image `i` are found: they are those of the manifest, in order. A digest is
found where the manifest lists it, and a diff id if its first position is one of a layer. The error
of any other lookup is one about the manifest. -/
structure FindsLayers (r : Repository) (i : RemoteImage) : Prop where
  layers : ∃ ls, i.toImage.layers = .ok ls ∧ List.Forall₂ (Layer.IsListed r) i.manifest.layers ls ∧
    ∀ d l, i.toImage.layerByDiffId d = .ok l ↔
      ∃ n, IsFirst d n i.config.diffIds ∧ ls[n]? = some l
  layerByDigest_iff (d : Digest) : (∃ l, i.toImage.layerByDigest d = .ok l) ↔
    d = i.manifest.config.digest ∨ ∃ x ∈ i.manifest.layers, x.digest = d
  layerByDigest (d : Digest) (l : Layer) (h : i.toImage.layerByDigest d = .ok l) :
    l.digest = d ∧ ∃ x, i.manifest.Lists d x ∧ l.IsListed r x
  layerByDigest_error (d : Digest) (e : TransferError) (h : i.toImage.layerByDigest d = .error e) :
    ∃ text, e = .manifest text
  layerByDiffId_error (d : Digest) (e : TransferError) (h : i.toImage.layerByDiffId d = .error e) :
    ∃ text, e = .manifest text
  silent_layers : Silent (Task.ofOutcome i.toImage.layers)
  silent_layerByDigest (d : Digest) : Silent (Task.ofOutcome (i.toImage.layerByDigest d))
  silent_layerByDiffId (d : Digest) : Silent (Task.ofOutcome (i.toImage.layerByDiffId d))

/-- The lookups of any image that has been read agree with the layers that its manifest lists. No
lookup asks the registry. It is asked when a layer is used, about that blob alone. -/
theorem lookups_agree (h : (read r raw).Yields xs (.ok i)) : Fetched r raw xs i ∧ FindsLayers r i := by
  have hi := fetched_of_yields_read h
  obtain rfl := hi.repository
  refine ⟨hi, ⟨_, rfl, isListed_layers, fun d l => layerByDiffId_eq_ok_iff⟩,
    fun d => exists_layerByDigest_iff, fun d l hl => ?_, fun d e => layerByDigest_error,
    fun d e => layerByDiffId_error, silent_ofOutcome _, fun d => silent_ofOutcome _,
    fun d => silent_ofOutcome _⟩
  obtain ⟨x, hx, hlisted⟩ := isListed_of_layerByDigest hl
  exact ⟨hlisted.digest.trans hx.digest, x, hx, hlisted⟩

def digestOf (c : Char) (h : isHexDigit c = true) : Digest where
  algorithm := .sha256
  hex := String.ofList (List.replicate 64 c)
  hex_valid := by simp [Algorithm.accepts, Algorithm.width, h]

def tools : Repository := ⟨⟨"gcr.io", false, by decide, by decide⟩, "team/tools", by decide, by decide⟩

/-- A config that is a layer as well, and a layer that is listed twice. -/
def repeatedListing : Manifest where
  declared := none
  config := ⟨.dockerConfig, 1, digestOf 'b' rfl⟩
  layers := [⟨.dockerLayer, 2, digestOf 'a' rfl⟩, ⟨.dockerLayer, 3, digestOf 'b' rfl⟩,
    ⟨.dockerLayer, 4, digestOf 'a' rfl⟩]

def repeatedIds : List Digest :=
  [digestOf '1' rfl, digestOf '2' rfl, digestOf '1' rfl, digestOf '3' rfl, digestOf '2' rfl]

def repeatedImage : RemoteImage where
  repository := tools
  rawManifest := Json.printObject
    [("schemaVersion", Json.printNatural 2), ("config", repeatedListing.config.print),
      ("layers", Json.printList (repeatedListing.layers.map Descriptor.print))]
  manifest := repeatedListing
  rawConfig := Json.printObject
    [("rootfs", Json.printObject
      [("diff_ids", Json.printList (repeatedIds.map fun d => Json.printText d.text))])]
  config := ⟨repeatedIds⟩

def repeatedExchanges : List (Exchanged Call Call.Reply) :=
  [⟨.fetch tools (configRequest repeatedListing), .ok (.ofBytes repeatedImage.rawConfig)⟩]

theorem repeated_lookups_agree :
    (read tools repeatedImage.rawManifest).Yields repeatedExchanges (.ok repeatedImage) ∧
      Fetched tools repeatedImage.rawManifest repeatedExchanges repeatedImage ∧
      FindsLayers tools repeatedImage := by
  have h : (read tools repeatedImage.rawManifest).Yields repeatedExchanges (.ok repeatedImage) := by
    have hm : Manifest.parse repeatedImage.rawManifest = .ok repeatedListing := by decide +kernel
    have hc : ImageConfig.parse repeatedImage.rawConfig = .ok ⟨repeatedIds⟩ := by decide +kernel
    exact yields_read_of_fetched
      ⟨rfl, rfl, hm, hc, _, rfl, Blob.Stream.readAll_ofBytes repeatedImage.rawConfig⟩
  exact ⟨h, lookups_agree h⟩

end RemoteImage

end LayerTransfer
