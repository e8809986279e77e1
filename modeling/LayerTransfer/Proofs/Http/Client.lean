import LayerTransfer.Http.Client
import LayerTransfer.Proofs.Image.Remote
import LayerTransfer.Proofs.Procedure.Yields

namespace LayerTransfer.Http

open Name Transport

abbrev Sent := Exchanged Request fun _ => Answer

/-- Whether an answer is a response with a wanted status. -/
def Accepted (wanted : Status → Bool) (x : Sent) : Prop :=
  ∃ s, x.2 = .response s ∧ wanted s.status = true

namespace Client

variable (c : Client) (method : Method) (u : Url)

@[simp] theorem request_method : (c.request method u).method = method := by
  unfold request
  simp only
  split <;> rfl

@[simp] theorem request_query : (c.request method u).url.query = u.query := by
  unfold request
  simp only
  split <;> rfl

@[simp] theorem request_body : (c.request method u).body = .held [] := by
  unfold request
  simp only
  split <;> rfl

end Client

/-- Whether HTTP can carry a request. One that it cannot is not sent. -/
def Request.isSendable (q : Request) : Bool :=
  q.fieldTexts.all Request.isFieldText && q.isWeb

/-- The exchanges of a request that comes to nothing: it was not sent, or not answered as wanted. -/
inductive Missed (q : Request) (wanted : Status → Bool) : List Sent → Prop
  | unsent (h : q.isSendable = false) : Missed q wanted []
  | refused (a : Answer) (h : q.isSendable = true) (ha : ¬Accepted wanted ⟨q, a⟩) :
      Missed q wanted [⟨q, a⟩]

/-- A request that was sent and answered by `s`, as wanted. -/
structure Met (q : Request) (wanted : Status → Bool) (s : Response) : Prop where
  sendable : q.isSendable = true
  status : wanted s.status = true

theorem Missed.request {q : Request} {wanted : Status → Bool} {xs : List Sent}
    (h : Missed q wanted xs) : ∀ x ∈ xs, x.1 = q := by
  cases h <;> simp

variable {α : Type} {xs : List Sent} {operation target : String} {q : Request}
  {wanted : Status → Bool} {f : Response → Exchange α} {o : Outcome α}

theorem yields_send {o : Outcome Response} (h : (send operation target q).Yields xs o) :
    (xs = [] ∧ q.isSendable = false ∧ ∃ e, o = .error e) ∨
      ∃ a, xs = [⟨q, a⟩] ∧ q.isSendable = true ∧
        ((∃ e, o = .error e ∧ ∀ s, a ≠ .response s) ∨ ∃ s, a = .response s ∧ o = .ok s) := by
  rw [send] at h
  simp only at h
  cases hf : q.fieldTexts.all Request.isFieldText with
  | false =>
    simp only [hf, Bool.not_false, if_true] at h
    obtain ⟨rfl, rfl⟩ := Task.yields_fail.1 h
    exact .inl ⟨rfl, by rw [Request.isSendable, hf, Bool.false_and], _, rfl⟩
  | true =>
  cases hw : q.isWeb with
  | false =>
    simp only [hf, hw, Bool.not_true, Bool.not_false, Bool.false_eq_true, if_false, if_true] at h
    obtain ⟨rfl, rfl⟩ := Task.yields_fail.1 h
    exact .inl ⟨rfl, by rw [Request.isSendable, hw, Bool.and_false], _, rfl⟩
  | true =>
  have hq : q.isSendable = true := by rw [Request.isSendable, hf, hw, Bool.and_true]
  simp only [hf, hw, Bool.not_true, Bool.false_eq_true, if_false] at h
  obtain ⟨a, ys, rfl, ha⟩ := Procedure.yields_ask.1 h
  cases a with
  | failed f text =>
    obtain ⟨rfl, rfl⟩ := Task.yields_fail.1 ha
    exact .inr ⟨_, rfl, hq, .inl ⟨_, rfl, by simp⟩⟩
  | response s =>
    obtain ⟨rfl, rfl⟩ := Procedure.yields_done.1 ha
    exact .inr ⟨_, rfl, hq, .inr ⟨s, rfl, rfl⟩⟩

theorem yields_expect {r : Response} {o : Outcome Response} :
    (expect wanted operation target r).Yields xs o ↔
      xs = [] ∧ (wanted r.status = true ∧ o = .ok r ∨
        wanted r.status = false ∧ o = .error (refusal operation target r)) := by
  rw [expect]
  cases wanted r.status with
  | true => simp
  | false => simp

theorem yields_exchange
    (h : (send operation target q >>= fun r => expect wanted operation target r >>= f).Yields xs o) :
    (∃ e, o = .error e ∧ Missed q wanted xs) ∨
      ∃ s ys, xs = ⟨q, .response s⟩ :: ys ∧ Met q wanted s ∧ (f s).Yields ys o := by
  obtain ⟨e, hs, rfl⟩ | ⟨r, ys, zs, rfl, hs, he⟩ := Task.yields_bind.1 h
  · obtain ⟨rfl, hq, -⟩ | ⟨a, rfl, hq, ⟨-, -, hr⟩ | ⟨s, -, hs⟩⟩ := yields_send hs
    · exact .inl ⟨e, rfl, .unsent hq⟩
    · exact .inl ⟨e, rfl, .refused a hq fun ⟨s, hs, _⟩ => hr s hs⟩
    · cases hs
  · obtain ⟨-, -, e, hs⟩ | ⟨a, rfl, hq, ⟨e, hs, -⟩ | ⟨s, rfl, heq⟩⟩ := yields_send hs
    · cases hs
    · cases hs
    obtain rfl : r = s := Except.ok.inj heq
    obtain ⟨e, hw, rfl⟩ | ⟨t, us, vs, rfl, hw, hf⟩ := Task.yields_bind.1 he
    · obtain ⟨rfl, ⟨-, hw⟩ | ⟨hw, -⟩⟩ := yields_expect.1 hw
      · cases hw
      · refine .inl ⟨e, rfl, .refused _ hq ?_⟩
        rintro ⟨t, ht, hwt⟩
        cases ht
        rw [hw] at hwt
        cases hwt
    · obtain ⟨rfl, ⟨hstatus, ht⟩ | ⟨-, ht⟩⟩ := yields_expect.1 hw
      · cases ht
        exact .inr ⟨_, vs, rfl, ⟨hq, hstatus⟩, hf⟩
      · cases ht

variable {c : Client} {r : Repository} {d : Digest}

theorem yields_head
    (h : (c.head operation r d >>= fun a => expect wanted operation d.text a >>= f).Yields xs o) :
    (∃ e, endpoint r (blobPath d) = .error e ∧ xs = [] ∧ o = .error e) ∨
      ∃ u, endpoint r (blobPath d) = .ok u ∧
        ((∃ e, o = .error e ∧ Missed (c.request .head u) wanted xs) ∨
          ∃ s ys, xs = ⟨c.request .head u, .response s⟩ :: ys ∧
            Met (c.request .head u) wanted s ∧ (f s).Yields ys o) := by
  rw [Client.head, bind_assoc] at h
  obtain ⟨e, hu, rfl, rfl⟩ | ⟨u, hu, h⟩ := Task.yields_ofOutcome_bind.1 h
  · exact .inl ⟨e, hu, rfl, rfl⟩
  rw [bind_assoc] at h
  exact .inr ⟨u, hu, yields_exchange (Task.yields_tell_bind.1 h)⟩

theorem head_of_yields_size {o : Outcome UInt64} (h : (c.size r d).Yields xs o) :
    ∀ x ∈ xs, x.1.method = .head := by
  obtain ⟨e, -, rfl, -⟩ | ⟨u, -, ⟨e, -, hm⟩ | ⟨s, ys, rfl, -, hf⟩⟩ := yields_head h
  · simp
  · exact fun x hx => by simp [hm.request x hx]
  · have hys : ys = [] := by
      split at hf
      · exact (Task.yields_pure.1 hf).1
      · exact (Task.yields_fail.1 hf).1
    simp [hys]

theorem yields_present {o : Outcome Bool} (h : (c.present r d).Yields xs o) :
    (∃ e, endpoint r (blobPath d) = .error e ∧ xs = [] ∧ o = .error e) ∨
      ∃ u, endpoint r (blobPath d) = .ok u ∧
        ((∃ e, o = .error e ∧
            Missed (c.request .head u) (fun s => Status.isSuccess s || s == 404) xs) ∨
          ∃ s, xs = [⟨c.request .head u, .response s⟩] ∧
            Met (c.request .head u) (fun s => Status.isSuccess s || s == 404) s ∧
            o = .ok (Status.isSuccess s.status)) := by
  obtain he | ⟨u, hu, hm | ⟨s, ys, rfl, hmet, hf⟩⟩ := yields_head h
  · exact .inl he
  · exact .inr ⟨u, hu, .inl hm⟩
  · obtain ⟨rfl, rfl⟩ := Task.yields_pure.1 hf
    exact .inr ⟨u, hu, .inr ⟨s, rfl, hmet, rfl⟩⟩

theorem head_of_yields_present {o : Outcome Bool} (h : (c.present r d).Yields xs o) :
    ∀ x ∈ xs, x.1.method = .head := by
  obtain ⟨e, -, rfl, -⟩ | ⟨u, -, ⟨e, -, hm⟩ | ⟨s, rfl, -⟩⟩ := yields_present h
  · simp
  · exact fun x hx => by simp [hm.request x hx]
  · simp

theorem get_of_yields_fetch {b : BlobRequest} {o : Outcome Blob.Stream}
    (h : (c.fetch r b).Yields xs o) : ∀ x ∈ xs, x.1.method = .get := by
  obtain ⟨e, -, rfl, rfl⟩ | ⟨u, -, h⟩ := Task.yields_ofOutcome_bind.1 h
  · simp
  obtain ⟨e, rfl, hm⟩ | ⟨s, ys, rfl, -, hf⟩ := yields_exchange (Task.yields_tell_bind.1 h)
  · exact fun x hx => by simp [hm.request x hx]
  · simp [(Task.yields_pure.1 hf).1]

theorem ne_of_reading {m : Method} (h : m = .head ∨ m = .get) : m ≠ .post ∧ m ≠ .put := by
  rcases h with rfl | rfl <;> decide

theorem method_of_yields_reading {t : Reading α} (h : (c.reading t).Yields xs o) :
    ∀ x ∈ xs, x.1.method = .head ∨ x.1.method = .get := by
  refine Task.forall_of_yields_through ?_ h
  intro q ys a hq y hy
  cases q with
  | connect r =>
    obtain ⟨rfl, -⟩ := Procedure.yields_done.1 hq
    simp at hy
  | size r d => exact .inl (head_of_yields_size hq y hy)
  | present r d => exact .inl (head_of_yields_present hq y hy)
  | fetch r b => exact .inr (get_of_yields_fetch hq y hy)

/-- Whether the answer to a request for the manifest of a reference has this body. -/
def Delivers (c : Client) (r : Reference) (raw : Bytes) (x : Sent) : Prop :=
  ∃ u s, endpoint r.repository (manifestPath r) = .ok u ∧
    x.1 = { c.request .get u with accept := some MediaType.manifestAccept } ∧
    x.2 = .response s ∧ Status.isSuccess s.status = true ∧ s.complete = true ∧
    s.chunks.flatten = raw

theorem delivers_of_yields_fetchManifest {r : Reference} {raw : Bytes}
    (h : (c.fetchManifest r).Yields xs (.ok raw)) : ∃ x ∈ xs, Delivers c r raw x := by
  obtain ⟨u, hu, hsend⟩ := Task.ok_of_yields_ofOutcome_bind h
  obtain ⟨e, he, -⟩ | ⟨s, ys, rfl, hmet, hf⟩ := yields_exchange (Task.yields_tell_bind.1 hsend)
  · cases he
  split at hf
  next => cases (Task.yields_fail.1 hf).2
  next hc =>
    have hbody := Task.yields_tell_bind.1 hf
    cases (Task.yields_pure.1 hbody).2
    refine ⟨_, List.mem_cons_self .., u, s, hu, rfl, rfl, hmet.status, ?_, rfl⟩
    simpa using hc

/-- An image is what the registry delivered as its manifest. -/
theorem delivers_of_yields_image {r : Reference} {i : RemoteImage}
    (h : (c.image r).Yields xs (.ok i)) :
    ∃ x ∈ xs, Delivers c r i.rawManifest x ∧ Manifest.parse i.rawManifest = .ok i.manifest := by
  obtain ⟨raw, ys, zs, rfl, hm, hrest⟩ := Task.ok_of_yields_bind h
  obtain ⟨x, hx, hd⟩ := delivers_of_yields_fetchManifest hm
  obtain ⟨us, hr, -⟩ := Task.expands_of_yields_through hrest
  obtain ⟨u, vs, ws, rfl, -, hread⟩ := Task.ok_of_yields_bind hr
  obtain ⟨-, rfl, hp, -, -⟩ := RemoteImage.fetched_of_yields_read hread
  exact ⟨x, List.mem_append_left _ hx, hd, hp⟩

end LayerTransfer.Http
