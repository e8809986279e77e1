import LayerTransfer.Http.Push
import LayerTransfer.Proofs.Bundle.Discreet
import LayerTransfer.Proofs.Http.Ensures

namespace LayerTransfer.Http

open Name Transport

def Body.blank : Body → Body
  | held b => .held b.blank
  | streamed cs => .streamed (cs.map Blob.Chunk.blank)

def Response.blank (s : Response) : Response :=
  { s with chunks := s.chunks.map Bytes.blank }

namespace Request

/-- Whether the body of a request is the content of a blob. -/
def sendsBlob (q : Request) : Bool :=
  q.method = .put && q.contentType = some "application/octet-stream"

/-- A request without the content of a blob. -/
def outline (q : Request) : Request :=
  if q.sendsBlob then { q with body := q.body.blank } else q

/-- Requests that are the same apart from the content of a blob. -/
def Alike (q q' : Request) : Prop := q.outline = q'.outline

/-- Whether a request asks for the content of a blob that is hidden at its address. -/
def isHidden (hidden : Url → Bool) (q : Request) : Bool :=
  q.method = .get && q.accept = none && hidden q.url

end Request

def Answer.outline (hidden : Url → Bool) (q : Request) : Answer → Answer
  | .response s =>
    .response (if q.isHidden hidden && Status.isSuccess s.status then s.blank else s)
  | a => a

/-- Whether the address from which a client fetches a blob is hidden. -/
def Client.hides (c : Client) (hidden : Url → Bool) (r : Repository) (d : Digest) : Bool :=
  match endpoint r (blobPath d) with
  | .ok u => hidden (c.request .get u).url
  | .error _ => false

/-- Answers that are the same apart from the content of hidden blobs. The configs of the images that
are read are not hidden. -/
structure ResponsesAlike (c : Client) (hidden : Url → Bool) (Reads : Reference → Prop)
    (q q' : Request) (a a' : Answer) : Prop where
  outline : a.outline hidden q = a'.outline hidden q'
  config : ∀ r, Reads r → ∀ raw m, Delivers c r raw ⟨q, a⟩ → Manifest.parse raw = .ok m →
    c.hides hidden r.repository m.config.digest = false

abbrev ExchangeAlike {α β : Type} (c : Client) (hidden : Url → Bool) (Reads : Reference → Prop)
    (V : α → β → Prop) (t : Exchange α) (t' : Exchange β) : Prop :=
  Task.Alike Request.Alike (ResponsesAlike c hidden Reads) V t t'

/-- Networks whose registries differ in nothing but the content of hidden blobs. -/
abbrev Network.Twins {σ τ : Type} (c : Client) (hidden : Url → Bool) (Reads : Reference → Prop)
    (R : σ → τ → Prop) (net : Network σ) (net' : Network τ) : Prop :=
  Server.Twins Request.Alike (ResponsesAlike c hidden Reads) R net net'

variable {c : Client} {hidden : Url → Bool} {Reads : Reference → Prop} {q q' : Request}

namespace Request

variable (q : Request)

theorem outline_method : q.outline.method = q.method := by
  unfold outline
  split <;> rfl

theorem outline_url : q.outline.url = q.url := by
  unfold outline
  split <;> rfl

theorem outline_accept : q.outline.accept = q.accept := by
  unfold outline
  split <;> rfl

theorem outline_fieldTexts : q.outline.fieldTexts = q.fieldTexts := by
  unfold outline
  split <;> rfl

variable {q}

theorem Alike.url (h : q.Alike q') : q.url = q'.url := by
  rw [← outline_url, h, outline_url]

theorem Alike.fieldTexts (h : q.Alike q') : q.fieldTexts = q'.fieldTexts := by
  rw [← outline_fieldTexts, h, outline_fieldTexts]

theorem Alike.isWeb (h : q.Alike q') : q.isWeb = q'.isWeb := by
  simp only [Request.isWeb, h.url]

theorem Alike.isHidden (h : q.Alike q') : q.isHidden hidden = q'.isHidden hidden := by
  have hm : q.method = q'.method := by rw [← outline_method, h, outline_method]
  have ha : q.accept = q'.accept := by rw [← outline_accept, h, outline_accept]
  simp only [Request.isHidden, hm, ha, h.url]

theorem isHidden_of_ne (h : q.method ≠ .get) : q.isHidden hidden = false := by
  simp [isHidden, h]

end Request

namespace ResponsesAlike

theorem cases {a a' : Answer} (h : ResponsesAlike c hidden Reads q q' a a') :
    (∃ s s', a = .response s ∧ a' = .response s') ∨ a = a' ∧ ∀ s, a ≠ .response s := by
  have ho := h.outline
  cases a with
  | response s =>
    cases a' with
    | response s' => exact .inl ⟨s, s', rfl, rfl⟩
    | failed f text => cases ho
  | failed f text =>
    cases a' with
    | response s' => cases ho
    | failed f' text' => exact .inr ⟨ho, fun _ => nofun⟩

variable {s s' : Response}

theorem blank_eq (h : ResponsesAlike c hidden Reads q q' (.response s) (.response s')) :
    s.blank = s'.blank := by
  have hblank (t : Response) (b : Bool) : (if b then t.blank else t).blank = t.blank := by
    cases b with
    | false => rfl
    | true => simp [Response.blank]
  have ho := congrArg Response.blank (Answer.response.inj h.outline)
  rwa [hblank, hblank] at ho

theorem status_eq (h : ResponsesAlike c hidden Reads q q' (.response s) (.response s')) :
    s.status = s'.status := by
  have hs : s.blank.status = s'.blank.status := by rw [h.blank_eq]
  exact hs

/-- Where nothing is hidden, alike is equal. -/
theorem eq_of_open (h : ResponsesAlike c hidden Reads q q' (.response s) (.response s'))
    (hq : q.Alike q') (ho : q.isHidden hidden = false) : s = s' := by
  have hr := Answer.response.inj h.outline
  simpa [← hq.isHidden, ho] using hr

theorem eq_of_refusal (h : ResponsesAlike c hidden Reads q q' (.response s) (.response s'))
    (hs : Status.isSuccess s.status = false) : s = s' := by
  have hs' : Status.isSuccess s'.status = false := h.status_eq ▸ hs
  have hr := Answer.response.inj h.outline
  simpa [hs, hs'] using hr

end ResponsesAlike

variable {operation target : String} {wanted : Status → Bool} {α : Type} {V : α → α → Prop}
  {f f' : Response → Exchange α}

theorem alike_send (hq : q.Alike q') :
    ExchangeAlike c hidden Reads
      (fun s s' => ResponsesAlike c hidden Reads q q' (.response s) (.response s'))
      (send operation target q) (send operation target q') := by
  unfold send
  simp only [hq.fieldTexts, hq.isWeb, hq.url]
  split
  · exact Task.alike_fail _
  split
  · exact Task.alike_fail _
  refine .ask hq fun a a' h => ?_
  obtain ⟨s, s', rfl, rfl⟩ | ⟨rfl, hnone⟩ := h.cases
  · exact .done (.ok h)
  · cases a with
    | response s => exact absurd rfl (hnone s)
    | failed f text => exact Task.alike_fail _

theorem alike_expect {s s' : Response} (hq : q.Alike q')
    (hw : q.isHidden hidden = true → ∀ st, Status.isSuccess st = true → wanted st = true)
    (h : ResponsesAlike c hidden Reads q q' (.response s) (.response s')) :
    ExchangeAlike c hidden Reads (fun t t' => t = s ∧ t' = s' ∧ wanted s.status = true)
      (expect wanted operation target s) (expect wanted operation target s') := by
  unfold expect
  rw [← h.status_eq]
  cases hs : wanted s.status with
  | true => exact Task.alike_pure ⟨rfl, rfl, rfl⟩
  | false =>
    -- What is not wanted is no success, or nothing is hidden.
    have heq : s = s' := by
      cases ho : q.isHidden hidden with
      | false => exact h.eq_of_open hq ho
      | true =>
        refine h.eq_of_refusal (Bool.eq_false_iff.2 fun hsuccess => ?_)
        rw [hw ho _ hsuccess] at hs
        cases hs
    rw [heq]
    exact Task.alike_fail _

theorem alike_exchange (hq : q.Alike q')
    (hw : q.isHidden hidden = true → ∀ st, Status.isSuccess st = true → wanted st = true)
    (hf : ∀ s s', ResponsesAlike c hidden Reads q q' (.response s) (.response s') →
      wanted s.status = true → ExchangeAlike c hidden Reads V (f s) (f' s')) :
    ExchangeAlike c hidden Reads V
      (send operation target q >>= fun s => expect wanted operation target s >>= f)
      (send operation target q' >>= fun s => expect wanted operation target s >>= f') := by
  refine Task.alike_bind (alike_send hq) fun s s' h => ?_
  refine Task.alike_bind (alike_expect hq hw h) ?_
  rintro t t' ⟨rfl, rfl, hs⟩
  exact hf t t' h hs

theorem alike_exchange_open (hq : q.Alike q') (ho : q.isHidden hidden = false)
    (hf : ∀ s, wanted s.status = true → ExchangeAlike c hidden Reads V (f s) (f' s)) :
    ExchangeAlike c hidden Reads V
      (send operation target q >>= fun s => expect wanted operation target s >>= f)
      (send operation target q' >>= fun s => expect wanted operation target s >>= f') := by
  refine alike_exchange hq (fun h => ?_) fun s s' h hs => ?_
  · rw [ho] at h
    cases h
  · cases h.eq_of_open hq ho
    exact hf s hs

end LayerTransfer.Http
