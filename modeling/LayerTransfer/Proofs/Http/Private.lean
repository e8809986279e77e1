import LayerTransfer.Bundle
import LayerTransfer.Proofs.Http.Endpoint
import LayerTransfer.Proofs.Http.Ensures
import LayerTransfer.Proofs.Name.Characters
import LayerTransfer.Proofs.Url.Private

namespace LayerTransfer

open Name Transport

def Name.Repository.IsSecure (r : Repository) : Prop := r.registry.insecure = false

def Transport.Call.repository : Call → Repository
  | .connect r | .size r _ | .present r _ | .fetch r _ => r

def Blob.IsSecure : Blob → Prop
  | held .. => True
  | remote r _ _ => r.IsSecure

def Layer.IsSecure (l : Layer) : Prop := l.blob.IsSecure

structure Image.IsSecure (i : Image) : Prop where
  layers : ∀ ls, i.layers = .ok ls → ∀ l ∈ ls, l.IsSecure
  config : ∀ l, i.configLayer = .ok l → l.IsSecure

namespace Http

def Request.IsPrivate (q : Request) : Prop := q.url.isPrivate = true

variable {c : Client} {r : Repository} {l : Layer} {d : Digest} {base start u : Url}
  {xs ys : List Sent}

theorem apiHost_of_isLoopback {r : Registry} (h : r.isLoopback = true) : r.apiHost = r.host := by
  unfold Registry.apiHost
  split
  next hub =>
    have hhost : r.host = dockerHub := by simpa [Registry.isDockerHub] using hub
    rw [Registry.isLoopback, Registry.bareHost, hhost] at h
    exact absurd h (by decide)
  next => rfl

theorem isPrivate_of_endpoint {path : String} (hr : r.IsSecure)
    (hp : Url.IsPlainPath path.toList) (h : endpoint r path = .ok u) : u.isPrivate = true := by
  obtain ⟨v, hv, hs⟩ := parseAuthority_of_endpoint hp h
  rw [← Url.isPrivate_of_server hs]
  have hi : r.registry.insecure = false := hr
  cases hl : r.registry.isLoopback with
  | false =>
    have hscheme : r.registry.scheme = "https" := by simp [Registry.scheme, hi, hl]
    exact Url.isPrivate_of_https ((Url.parts_of_parseAuthority hv).1.trans hscheme)
  | true =>
    rw [apiHost_of_isLoopback hl] at hv
    have hat : '@' ∉ r.registry.host.toList := by
      intro hm
      exact absurd (r.registry.isHostChar_of_mem hm) (by decide)
    have hlocal := hl
    simp only [Registry.isLoopback, Registry.bareHost, Bool.or_eq_true, beq_iff_eq, or_assoc,
      List.isPrefixOf_iff_prefix] at hlocal
    exact Url.isPrivate_of_local (isWeb_scheme _).isSpecial.1 hat hlocal hv

theorem server_request (c : Client) (m : Method) (u : Url) :
    (c.request m u).url.server = u.server := by
  unfold Client.request
  simp only
  split <;> rfl

theorem isPrivate_request {m : Method} (h : u.isPrivate = true) : (c.request m u).IsPrivate :=
  (Url.isPrivate_of_server (server_request c m u)).trans h

theorem isPrivate_request_blob {m : Method} (hr : r.IsSecure) (h : endpoint r (blobPath d) = .ok u) :
    (c.request m u).IsPrivate :=
  isPrivate_request (isPrivate_of_endpoint hr (isPlainPath_blobPath d) h)

theorem ensures_serve {q : Call} (hq : q.repository.IsSecure) :
    (c.serve q).Ensures Request.IsPrivate fun _ => True := by
  cases q with
  | connect r => exact .done trivial
  | size r d =>
    have h : (c.size r d).Ensures _ _ _ := ensures_size fun u hu => isPrivate_request_blob hq hu
    exact Procedure.Ensures.mono h fun _ _ => trivial
  | present r d =>
    have h : (c.present r d).Ensures _ _ _ := ensures_present fun u hu => isPrivate_request_blob hq hu
    exact Procedure.Ensures.mono h fun _ _ => trivial
  | fetch r b =>
    have h : (c.fetch r b).Ensures _ _ _ := ensures_fetch fun u hu => isPrivate_request_blob hq hu
    exact Procedure.Ensures.mono h fun _ _ => trivial

variable {α : Type} {Q : α → Prop}

def ReadsSecure (Q : α → Prop) (t : Reading α) : Prop :=
  t.Ensures (·.repository.IsSecure) Q fun _ => True

theorem ensures_reading {t : Reading α} (h : ReadsSecure Q t) :
    (c.reading t).Ensures Request.IsPrivate Q fun _ => True :=
  Procedure.ensures_through (fun _ => ensures_serve) h

theorem satisfies_true (o : Outcome α) : o.Satisfies (fun _ => True) fun _ => True := by
  cases o <;> trivial

theorem readsSecure_size (hl : l.IsSecure) : ReadsSecure (fun _ => True) l.size := by
  obtain ⟨b, origin, handle⟩ := l
  cases b with
  | held b d m => exact Task.ensures_pure trivial
  | remote r d listed => exact .ask hl fun a => .done (satisfies_true a)

theorem readsSecure_content (hl : l.IsSecure) : ReadsSecure (fun _ => True) l.content := by
  obtain ⟨b, origin, handle⟩ := l
  cases b with
  | held b d m => exact Task.ensures_pure trivial
  | remote r d listed => exact .ask hl fun a => .done (satisfies_true a)

theorem readsSecure_connect (hr : r.IsSecure) : ReadsSecure (fun _ => True) (connect r) :=
  .ask hr fun a => .done (satisfies_true a)

theorem readsSecure_fetch {q : BlobRequest} (hr : r.IsSecure) :
    ReadsSecure (fun _ => True) (fetch r q) :=
  .ask hr fun a => .done (satisfies_true a)

theorem readsSecure_read {raw : Bytes} (hr : r.IsSecure) :
    ReadsSecure (·.repository = r) (RemoteImage.read r raw) := by
  refine Task.ensures_ofOutcome_bind (fun _ _ => trivial) fun m _ => ?_
  refine Task.ensures_bind (readsSecure_fetch hr) fun stream _ => ?_
  refine Task.ensures_ofOutcome_bind (fun _ _ => trivial) fun config _ => ?_
  refine Task.ensures_ofOutcome_bind (fun _ _ => trivial) fun parsed _ => ?_
  exact Task.ensures_pure rfl

theorem ensures_image {ref : Reference} (hr : ref.repository.IsSecure) :
    (c.image ref).Ensures Request.IsPrivate (·.repository = ref.repository) fun _ => True := by
  have hm : (c.fetchManifest ref).Ensures Request.IsPrivate _ _ :=
    ensures_fetchManifest fun u hu =>
      isPrivate_request (isPrivate_of_endpoint hr (isPlainPath_manifestPath ref) hu)
  refine Task.ensures_bind (hm.mono (fun _ h => h) fun _ _ => trivial) fun raw _ => ?_
  refine ensures_reading (Task.ensures_bind (readsSecure_connect hr) fun _ _ => ?_)
  exact readsSecure_read hr

theorem isSecure_toImage {i : RemoteImage} (h : i.repository.IsSecure) : i.toImage.IsSecure where
  layers := by
    intro ls hls l hl
    cases hls
    obtain ⟨d, -, rfl⟩ := List.mem_map.1 hl
    exact h
  config := by
    intro l hl
    cases hl
    exact h

theorem isSecure_mountable {i : Image} (h : i.IsSecure) (origin : Reference) :
    (i.mountable origin).IsSecure where
  layers := by
    intro ls hls l hl
    obtain ⟨ms, hms, rfl⟩ := Outcome.ok_of_map hls
    obtain ⟨m, hm, rfl⟩ := List.mem_map.1 hl
    exact h.layers ms hms m hm
  config := by
    intro l hl
    obtain ⟨m, hm, rfl⟩ := Outcome.ok_of_map hl
    exact h.config m hm

theorem readsSecure_ofPinned {p : Pinned} (hp : p.repository.IsSecure) :
    ReadsSecure Layer.IsSecure (Layer.ofPinned p) := by
  refine Task.ensures_bind (Q := Layer.IsSecure) ?_ fun l hl => Task.ensures_pure hl
  exact Task.ensures_bind (readsSecure_connect hp) fun _ _ => Task.ensures_pure hp

theorem readsSecure_readLayer {v : Log.Verbosity} {p : Pinned} (hp : p.repository.IsSecure) :
    ReadsSecure (fun _ => True) (Bundle.readLayer v p) := by
  refine Task.ensures_bind (readsSecure_ofPinned hp) fun l hl => ?_
  refine Task.ensures_bind (readsSecure_size hl) fun size _ => ?_
  refine Task.ensures_tell_bind (Task.ensures_bind (readsSecure_content hl) fun content _ => ?_)
  exact Task.ensures_pure trivial

theorem ensures_addLayers {v : Log.Verbosity} {ps : List Pinned} (hps : ∀ p ∈ ps, p.repository.IsSecure)
    (total index : Nat) (a : Archive) :
    (Bundle.addLayers v total index ps a).Ensures (·.repository.IsSecure) fun _ => True := by
  induction ps generalizing index a with
  | nil => exact .done trivial
  | cons p ps ih =>
    obtain ⟨hp, hps⟩ := List.forall_mem_cons.1 hps
    have hadd : (Bundle.addLayer v p a).Ensures (·.repository.IsSecure) fun _ => True := by
      refine Procedure.ensures_bind (readsSecure_readLayer hp) fun o _ => ?_
      cases o <;> exact .done trivial
    refine Procedure.ensures_tell (Procedure.ensures_bind hadd ?_)
    rintro ⟨b, e | d⟩ -
    · exact .done trivial
    · exact Procedure.ensures_bind (ih hps (index + 1) b) fun _ _ => .done trivial

theorem ensures_bundle {ps : List Pinned} (hps : ∀ p ∈ ps, p.repository.IsSecure)
    (v : Log.Verbosity) (m : Machine) (path : String) (i : Image) :
    (Bundle.write v m ps path i).Ensures (·.repository.IsSecure) fun _ => True := by
  refine Procedure.ensures_tell (Procedure.ensures_tell ?_)
  split
  · exact .done trivial
  next a ha =>
    have hentries : (Bundle.addEntries v ps i a).Ensures (·.repository.IsSecure) fun _ => True := by
      refine Procedure.ensures_bind (ensures_addLayers hps ps.length 0 a) ?_
      rintro ⟨b, e | ds⟩ - <;> exact .done trivial
    refine Procedure.ensures_bind hentries ?_
    rintro ⟨b, e | ds⟩ -
    · exact .done trivial
    · exact Procedure.ensures_tell (.done trivial)

end Http

end LayerTransfer
