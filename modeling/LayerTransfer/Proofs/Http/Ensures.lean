import LayerTransfer.Proofs.Http.Client
import LayerTransfer.Proofs.Procedure.Ensures

namespace LayerTransfer

def TransferError.IsRegistry (e : TransferError) : Prop :=
  ∃ operation target message, e = .registry operation target message

namespace Http

open Name Transport

variable {P : Request → Prop} {α : Type} {Q : α → Prop} {operation target : String} {q : Request}
  {wanted : Status → Bool} {f : Response → Exchange α} {c : Client} {r : Repository} {d : Digest}

theorem isRegistry_of_endpoint {path : String} {e : TransferError}
    (h : endpoint r path = .error e) : e.IsRegistry := by
  unfold endpoint at h
  cases hp : Url.parse (endpointText r path) with
  | error f =>
    rw [hp] at h
    cases h
    exact ⟨_, _, _, rfl⟩
  | ok u =>
    rw [hp] at h
    cases h

theorem ensures_send (hq : P q) :
    (send operation target q).Ensures P (fun _ => True) TransferError.IsRegistry := by
  have hfail {β : Type} {R : β → Prop} (text : String) :
      (Task.fail (.registry operation target text) : Exchange β).Ensures P R
        TransferError.IsRegistry := Task.ensures_fail ⟨_, _, _, rfl⟩
  unfold send
  simp only
  split
  · exact hfail _
  split
  · exact hfail _
  refine .ask hq fun a => ?_
  cases a with
  | failed f text => exact hfail _
  | response s => exact .done trivial

theorem ensures_expect {s : Response} :
    (expect wanted operation target s).Ensures P (fun t => t = s ∧ wanted s.status = true)
      TransferError.IsRegistry := by
  unfold expect
  split
  · exact Task.ensures_pure ⟨rfl, ‹_›⟩
  · exact Task.ensures_fail ⟨_, _, _, rfl⟩

theorem ensures_exchange (hq : P q)
    (hf : ∀ s, wanted s.status = true → (f s).Ensures P Q TransferError.IsRegistry) :
    (send operation target q >>= fun s => expect wanted operation target s >>= f).Ensures P Q
      TransferError.IsRegistry := by
  refine Task.ensures_bind (ensures_send hq) fun s _ => ?_
  refine Task.ensures_bind ensures_expect ?_
  rintro t ⟨rfl, hs⟩
  exact hf t hs

theorem ensures_head (hq : ∀ u, endpoint r (blobPath d) = .ok u → P (c.request .head u)) :
    (c.head operation r d).Ensures P (fun _ => True) TransferError.IsRegistry := by
  refine Task.ensures_ofOutcome_bind (fun e => isRegistry_of_endpoint) fun u hu => ?_
  exact Task.ensures_tell_bind (ensures_send (hq u hu))

theorem ensures_size (hq : ∀ u, endpoint r (blobPath d) = .ok u → P (c.request .head u)) :
    (c.size r d).Ensures P (fun _ => True) TransferError.IsRegistry := by
  refine Task.ensures_bind (ensures_head hq) fun s _ => ?_
  refine Task.ensures_bind ensures_expect fun t _ => ?_
  split
  · exact Task.ensures_pure trivial
  · exact Task.ensures_fail ⟨_, _, _, rfl⟩

theorem ensures_present (hq : ∀ u, endpoint r (blobPath d) = .ok u → P (c.request .head u)) :
    (c.present r d).Ensures P (fun _ => True) TransferError.IsRegistry := by
  refine Task.ensures_bind (ensures_head hq) fun s _ => ?_
  exact Task.ensures_bind ensures_expect fun t _ => Task.ensures_pure trivial

theorem ensures_fetch {b : BlobRequest}
    (hq : ∀ u, endpoint r (blobPath b.digest) = .ok u → P (c.request .get u)) :
    (c.fetch r b).Ensures P (fun _ => True) TransferError.IsRegistry := by
  refine Task.ensures_ofOutcome_bind (fun e => isRegistry_of_endpoint) fun u hu => ?_
  refine Task.ensures_tell_bind (ensures_exchange (hq u hu) fun s _ => ?_)
  exact Task.ensures_pure trivial

theorem ensures_fetchManifest {r : Reference}
    (hq : ∀ u, endpoint r.repository (manifestPath r) = .ok u →
      P { c.request .get u with accept := some MediaType.manifestAccept }) :
    (c.fetchManifest r).Ensures P (fun _ => True) TransferError.IsRegistry := by
  refine Task.ensures_ofOutcome_bind (fun e => isRegistry_of_endpoint) fun u hu => ?_
  refine Task.ensures_tell_bind (ensures_exchange (hq u hu) fun s _ => ?_)
  split
  · exact Task.ensures_fail ⟨_, _, _, rfl⟩
  · exact Task.ensures_tell_bind (Task.ensures_pure trivial)

end Http

end LayerTransfer
