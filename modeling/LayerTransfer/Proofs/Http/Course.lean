import LayerTransfer.Http.Push
import LayerTransfer.Proofs.Http.Client
import LayerTransfer.Proofs.Http.Endpoint
import LayerTransfer.Proofs.Url.Query

namespace LayerTransfer.Http

open Name Transport Push

/-! ### Requests -/

/-- Where an upload is asked for. A mount is asked for with it where there is a source. -/
def openingUrl (r : Repository) (l : Layer) (base : Url) : Url :=
  match mountSource l r with
  | none => base
  | some source => (base.addPair "mount" l.digest.text).addPair "from" source.name

def opensWith (r : Repository) (l : Layer) : Status → Bool :=
  match mountSource l r with
  | none => (· == 202)
  | some _ => fun s => s == 201 || s == 202

namespace Client

variable (c : Client)

def asking (r : Repository) (l : Layer) (base : Url) : Request :=
  c.request .head { base with path := servedPath r (blobPath l.digest) }

def opening (r : Repository) (l : Layer) (base : Url) : Request :=
  c.post (openingUrl r l base)

def sending (l : Layer) (start : Url) (size : UInt64) (stream : Blob.Stream) : Request :=
  { c.request .put (start.addPair "digest" l.digest.text) with
    contentType := some "application/octet-stream"
    contentLength := some size
    body := .streamed stream.chunks }

end Client

/-! ### Courses -/

/-- An upload is asked for, with a mount or without. -/
inductive Opened (c : Client) (r : Repository) (l : Layer) (base : Url) :
    List Sent → Outcome (Option Url) → Prop
  | missed {xs : List Sent} (e : TransferError)
      (hm : Missed (c.opening r l base) (opensWith r l) xs) : Opened c r l base xs (.error e)
  | mounted (s : Response) (source : Repository) (hq : (c.opening r l base).isSendable = true)
      (hr : mountSource l r = some source) (hs : s.status = 201) :
      Opened c r l base [⟨c.opening r l base, .response s⟩] (.ok none)
  | lost (s : Response) (e : TransferError) (hq : (c.opening r l base).isSendable = true)
      (hs : s.status = 202) (hl : location base r s = .error e) :
      Opened c r l base [⟨c.opening r l base, .response s⟩] (.error e)
  | session (s : Response) (start : Url) (hq : (c.opening r l base).isSendable = true)
      (hs : s.status = 202) (hl : location base r s = .ok start) :
      Opened c r l base [⟨c.opening r l base, .response s⟩] (.ok (some start))

inductive Sending (c : Client) (l : Layer) (start : Url) : List Sent → Outcome Unit → Prop
  | unsized {us : List Sent} {e : TransferError} (hs : (c.reading l.size).Yields us (.error e)) :
      Sending c l start us (.error e)
  | unread {us vs : List Sent} {size : UInt64} {e : TransferError}
      (hs : (c.reading l.size).Yields us (.ok size))
      (hc : (c.reading l.content).Yields vs (.error e)) :
      Sending c l start (us ++ vs) (.error e)
  | missed {us vs ws : List Sent} {size : UInt64} {stream : Blob.Stream} (e : TransferError)
      (hs : (c.reading l.size).Yields us (.ok size))
      (hc : (c.reading l.content).Yields vs (.ok stream))
      (hm : Missed (c.sending l start size stream) Status.isSuccess ws) :
      Sending c l start (us ++ vs ++ ws) (.error e)
  | accepted {us vs : List Sent} {size : UInt64} {stream : Blob.Stream} (s : Response)
      (hs : (c.reading l.size).Yields us (.ok size))
      (hc : (c.reading l.content).Yields vs (.ok stream))
      (hm : Met (c.sending l start size stream) Status.isSuccess s) :
      Sending c l start (us ++ vs ++ [⟨c.sending l start size stream, .response s⟩]) (.ok ())

/-- A layer is brought into a repository. These relations say all that a client can do, with its
exchanges and its outcome, whatever the registry answers. -/
inductive Course (c : Client) (r : Repository) (l : Layer) (base : Url) :
    List Sent → Outcome Unit → Prop
  | unknown {xs : List Sent} (e : TransferError)
      (hm : Missed (c.asking r l base) (fun s => Status.isSuccess s || s == 404) xs) :
      Course c r l base xs (.error e)
  | there (s : Response) (hq : (c.asking r l base).isSendable = true)
      (hs : Status.isSuccess s.status = true) :
      Course c r l base [⟨c.asking r l base, .response s⟩] (.ok ())
  | unopened {xs : List Sent} {e : TransferError} (s : Response)
      (hq : (c.asking r l base).isSendable = true) (hs : s.status = 404)
      (ho : Opened c r l base xs (.error e)) :
      Course c r l base (⟨c.asking r l base, .response s⟩ :: xs) (.error e)
  | mounted {xs : List Sent} (s : Response)
      (hq : (c.asking r l base).isSendable = true) (hs : s.status = 404)
      (ho : Opened c r l base xs (.ok none)) :
      Course c r l base (⟨c.asking r l base, .response s⟩ :: xs) (.ok ())
  | sent {xs ys : List Sent} {start : Url} {o : Outcome Unit} (s : Response)
      (hq : (c.asking r l base).isSendable = true) (hs : s.status = 404)
      (ho : Opened c r l base xs (.ok (some start))) (hy : Sending c l start ys o) :
      Course c r l base (⟨c.asking r l base, .response s⟩ :: (xs ++ ys)) o

variable {c : Client} {r : Repository} {l : Layer} {base start : Url} {xs : List Sent}

/-! ### Exchanges of a course -/

@[simp] theorem Client.post_method (c : Client) (u : Url) : (c.post u).method = .post :=
  c.request_method .post u

@[simp] theorem Client.opening_method : (c.opening r l base).method = .post :=
  c.post_method _

@[simp] theorem Client.asking_method : (c.asking r l base).method = .head :=
  c.request_method .head _

@[simp] theorem Client.sending_method {size : UInt64} {stream : Blob.Stream} :
    (c.sending l start size stream).method = .put :=
  c.request_method .put _

theorem Opened.request {o : Outcome (Option Url)} (h : Opened c r l base xs o) :
    xs = [] ∧ (c.opening r l base).isSendable = false ∨ ∃ a, xs = [⟨c.opening r l base, a⟩] := by
  cases h with
  | missed e hm =>
    cases hm with
    | unsent hq => exact .inl ⟨rfl, hq⟩
    | refused a => exact .inr ⟨a, rfl⟩
  | mounted s => exact .inr ⟨_, rfl⟩
  | lost s => exact .inr ⟨_, rfl⟩
  | session s => exact .inr ⟨_, rfl⟩

/-- The exchanges in which a layer tells its size, and then its content. -/
def Client.Reads (c : Client) (l : Layer) (xs : List Sent) (size : UInt64) (stream : Blob.Stream) :
    Prop :=
  ∃ us vs, xs = us ++ vs ∧ (c.reading l.size).Yields us (.ok size) ∧
    (c.reading l.content).Yields vs (.ok stream)

theorem Sending.split {o : Outcome Unit} (h : Sending c l start xs o) :
    ∃ reads, (∀ x ∈ reads, x.1.method = .head ∨ x.1.method = .get) ∧
      (xs = reads ∧ o ≠ .ok () ∨ ∃ size stream a,
        xs = reads ++ [⟨c.sending l start size stream, a⟩] ∧
        (o = .ok () ↔ Accepted Status.isSuccess ⟨c.sending l start size stream, a⟩) ∧
        c.Reads l reads size stream) := by
  cases h with
  | unsized hs => exact ⟨xs, method_of_yields_reading hs, .inl ⟨rfl, by simp⟩⟩
  | unread hs hc =>
    have hreads := List.forall_mem_append.2
      ⟨method_of_yields_reading hs, method_of_yields_reading hc⟩
    exact ⟨_, hreads, .inl ⟨rfl, by simp⟩⟩
  | missed e hs hc hm =>
    have hreads := List.forall_mem_append.2
      ⟨method_of_yields_reading hs, method_of_yields_reading hc⟩
    cases hm with
    | unsent => exact ⟨_, hreads, .inl ⟨List.append_nil _, by simp⟩⟩
    | refused a hq ha =>
      refine ⟨_, hreads, .inr ⟨_, _, a, rfl, ?_, _, _, rfl, hs, hc⟩⟩
      exact ⟨fun h => (by cases h), fun h => absurd h ha⟩
  | accepted s hs hc hm =>
    have hreads := List.forall_mem_append.2
      ⟨method_of_yields_reading hs, method_of_yields_reading hc⟩
    refine ⟨_, hreads, .inr ⟨_, _, _, rfl, ?_, _, _, rfl, hs, hc⟩⟩
    exact ⟨fun _ => ⟨s, rfl, hm.status⟩, fun _ => rfl⟩

/-! ### Courses of the client -/

theorem opened_of_yields_startUpload {o : Outcome Url} (hb : endpoint r uploadsPath = .ok base)
    (hr : mountSource l r = none) (h : (c.startUpload r).Yields xs o) :
    Opened c r l base xs (o.map some) := by
  have hu : c.opening r l base = c.post base := by rw [Client.opening, openingUrl, hr]
  have hw : opensWith r l = (· == 202) := by rw [opensWith, hr]
  obtain ⟨e, he, -, -⟩ | ⟨base', hb', h⟩ := Task.yields_ofOutcome_bind.1 h
  · rw [hb] at he
    cases he
  cases hb.symm.trans hb'
  obtain ⟨e, rfl, hm⟩ | ⟨s, ys, rfl, hm, hf⟩ := yields_exchange h
  · exact .missed e (by rwa [hu, hw])
  obtain ⟨rfl, rfl⟩ := Task.yields_ofOutcome.1 hf
  have hs : s.status = 202 := by simpa using hm.status
  rw [← hu]
  cases hl : location base r s with
  | error e => exact .lost s e (hu ▸ hm.sendable) hs hl
  | ok start => exact .session s start (hu ▸ hm.sendable) hs hl

def MountOutcome.session? : MountOutcome → Option Url
  | .mounted => none
  | .session start => some start

theorem opened_of_yields_mount {source : Repository} {o : Outcome MountOutcome}
    (hb : endpoint r uploadsPath = .ok base) (hr : mountSource l r = some source)
    (h : (c.mount r source l.digest).Yields xs o) :
    Opened c r l base xs (o.map MountOutcome.session?) := by
  have hu : c.opening r l base =
      c.post ((base.addPair "mount" l.digest.text).addPair "from" source.name) := by
    rw [Client.opening, openingUrl, hr]
  have hw : opensWith r l = fun s => s == 201 || s == 202 := by rw [opensWith, hr]
  obtain ⟨e, he, -, -⟩ | ⟨base', hb', h⟩ := Task.yields_ofOutcome_bind.1 h
  · rw [hb] at he
    cases he
  cases hb.symm.trans hb'
  obtain ⟨e, rfl, hm⟩ | ⟨s, ys, rfl, hm, hf⟩ := yields_exchange h
  · exact .missed e (by rwa [hu, hw])
  rw [← hu]
  by_cases h201 : s.status = 201
  · rw [if_pos h201] at hf
    obtain ⟨rfl, rfl⟩ := Task.yields_pure.1 hf
    exact .mounted s source (hu ▸ hm.sendable) hr h201
  · rw [if_neg h201] at hf
    have h202 : s.status = 202 := by simpa [h201] using hm.status
    obtain ⟨e, hl, rfl, rfl⟩ | ⟨start, hl, hf⟩ := Task.yields_ofOutcome_bind.1 hf
    · exact .lost s e (hu ▸ hm.sendable) h202 hl
    · obtain ⟨rfl, rfl⟩ := Task.yields_pure.1 hf
      exact .session s start (hu ▸ hm.sendable) h202 hl

theorem opened_of_yields_openUpload {o : Outcome (Option Url)}
    (hb : endpoint r uploadsPath = .ok base) (h : (c.openUpload r l).Yields xs o) :
    Opened c r l base xs o := by
  rw [Client.openUpload] at h
  split at h
  next hr =>
    obtain ⟨e, hs, rfl⟩ | ⟨start, ys, zs, rfl, hs, hf⟩ := Task.yields_bind.1 h
    · exact opened_of_yields_startUpload hb hr hs
    · obtain ⟨rfl, rfl⟩ := Task.yields_pure.1 hf
      rw [List.append_nil]
      exact opened_of_yields_startUpload hb hr hs
  next source hr =>
    obtain ⟨e, hm, rfl⟩ | ⟨m, ys, zs, rfl, hm, hf⟩ := Task.yields_bind.1 h
    · exact opened_of_yields_mount hb hr hm
    have hopened := opened_of_yields_mount hb hr hm
    cases m with
    | mounted =>
      have hdone := Task.yields_tell_bind.1 hf
      obtain ⟨rfl, rfl⟩ := Task.yields_pure.1 hdone
      rw [List.append_nil]
      exact hopened
    | session start =>
      have hdone := Task.yields_tell_bind.1 hf
      obtain ⟨rfl, rfl⟩ := Task.yields_pure.1 hdone
      rw [List.append_nil]
      exact hopened

theorem sending_of_yields_uploadBlob {o : Outcome Unit}
    (h : (c.uploadBlob start l).Yields xs o) : Sending c l start xs o := by
  obtain ⟨e, hs, rfl⟩ | ⟨size, us, vs, rfl, hs, hrest⟩ := Task.yields_bind.1 h
  · exact .unsized hs
  obtain ⟨e, hc, rfl⟩ | ⟨stream, ws, zs, rfl, hc, htell⟩ := Task.yields_bind.1 hrest
  · exact .unread hs hc
  have hsend := Task.yields_tell_bind.1 htell
  rw [← List.append_assoc]
  obtain ⟨e, rfl, hm⟩ | ⟨s, ys, rfl, hm, hf⟩ := yields_exchange hsend
  · exact .missed e hs hc hm
  · obtain ⟨rfl, rfl⟩ := Task.yields_pure.1 hf
    exact .accepted s hs hc hm

/-- Bringing a layer into a repository takes one of these courses, unless there is no address. -/
theorem course_of_yields_writeLayer {o : Outcome Unit} (h : (c.writeLayer r l).Yields xs o) :
    (xs = [] ∧ (∀ base, endpoint r uploadsPath ≠ .ok base) ∧ o ≠ .ok ()) ∨
      ∃ base, endpoint r uploadsPath = .ok base ∧ Course c r l base xs o := by
  have hup := isPlainPath_uploadsPath
  have hblob := isPlainPath_blobPath l.digest
  have hnone {e : TransferError} (he : endpoint r (blobPath l.digest) = .error e) (base : Url) :
      endpoint r uploadsPath ≠ .ok base := by
    intro hb
    cases he.symm.trans (endpoint_of_endpoint hup hblob hb)
  -- the two addresses differ in their paths, and the request for header fields is made from either
  have hbase {u : Url} (hu : endpoint r (blobPath l.digest) = .ok u) :
      ∃ base, endpoint r uploadsPath = .ok base ∧ c.request .head u = c.asking r l base := by
    have hb := endpoint_of_endpoint hblob hup hu
    have hu' := Except.ok.inj (hu.symm.trans (endpoint_of_endpoint hup hblob hb))
    exact ⟨_, hb, congrArg (c.request .head) hu'⟩
  obtain ⟨e, hp, rfl⟩ | ⟨b, us, vs, rfl, hp, hrest⟩ := Task.yields_bind.1 h
  · obtain ⟨e, he, rfl, -⟩ | ⟨u, hu, ⟨e, -, hm⟩ | ⟨s, -, -, hs⟩⟩ := yields_present hp
    · exact .inl ⟨rfl, hnone he, by simp⟩
    · obtain ⟨base, hb, hq⟩ := hbase hu
      exact .inr ⟨base, hb, .unknown _ (hq ▸ hm)⟩
    · cases hs
  · obtain ⟨e, -, -, he⟩ | ⟨u, hu, ⟨e, he, -⟩ | ⟨s, rfl, hm, hs⟩⟩ := yields_present hp
    · cases he
    · cases he
    obtain ⟨base, hb, hq⟩ := hbase hu
    rw [hq] at hm ⊢
    refine .inr ⟨base, hb, ?_⟩
    cases b with
    | true =>
      obtain ⟨rfl, rfl⟩ := Task.yields_tell.1 hrest
      exact .there s hm.sendable (Except.ok.inj hs).symm
    | false =>
      have h404 : s.status = 404 := by simpa [← Except.ok.inj hs] using hm.status
      obtain ⟨e, ho, rfl⟩ | ⟨session, ys, zs, rfl, ho, hmatch⟩ := Task.yields_bind.1 hrest
      · exact .unopened s hm.sendable h404 (opened_of_yields_openUpload hb ho)
      have hopened := opened_of_yields_openUpload hb ho
      cases session with
      | none =>
        obtain ⟨rfl, rfl⟩ := Task.yields_pure.1 hmatch
        rw [List.append_nil]
        exact .mounted s hm.sendable h404 hopened
      | some start =>
        have hsent := Course.sent s hm.sendable h404 hopened (sending_of_yields_uploadBlob hmatch)
        exact hsent

end LayerTransfer.Http
