import LayerTransfer.Proofs.Http.Outline

namespace LayerTransfer

open Name Transport

theorem RemoteImage.alike_read {hidden : Repository → Digest → Bool} {r : Repository} {raw : Bytes}
    (h : ∀ m, Manifest.parse raw = .ok m → hidden r m.config.digest = false) :
    ReadAlike hidden Eq (RemoteImage.read r raw) (RemoteImage.read r raw) := by
  refine Task.alike_ofOutcome_bind fun m hm => ?_
  refine Task.alike_bind (alike_fetch r (configRequest m)) fun s s' hs => ?_
  cases hs.2 (h m hm)
  refine Task.alike_ofOutcome_bind fun config _ => ?_
  refine Task.alike_ofOutcome_bind fun parsed _ => ?_
  exact Task.alike_pure rfl

namespace Http

variable {c : Client} {hidden : Url → Bool} {Reads : Reference → Prop} {α β : Type}
  {V : α → β → Prop} {r : Repository} {d : Digest}

theorem isHidden_head (u : Url) : (c.request .head u).isHidden hidden = false :=
  Request.isHidden_of_ne (by simp)

theorem alike_of_open {Q : α → Prop} {E : TransferError → Prop} {t : Exchange α}
    (ht : t.Ensures (fun q => q.isHidden hidden = false) Q E) :
    ExchangeAlike c hidden Reads Eq t t := by
  refine Task.alike_self ht (fun _ _ => rfl) fun q hq a a' h => ?_
  obtain ⟨s, s', rfl, rfl⟩ | ⟨rfl, -⟩ := h.cases
  · rw [h.eq_of_open rfl hq]
  · rfl

theorem alike_size (r : Repository) (d : Digest) :
    ExchangeAlike c hidden Reads Eq (c.size r d) (c.size r d) :=
  alike_of_open (ensures_size fun u _ => isHidden_head u)

theorem alike_present (r : Repository) (d : Digest) :
    ExchangeAlike c hidden Reads Eq (c.present r d) (c.present r d) :=
  alike_of_open (ensures_present fun u _ => isHidden_head u)

theorem bodyChunks_blank (s : Response) :
    (bodyChunks s).map Blob.Chunk.blank = bodyChunks s.blank := by
  have hdata : s.chunks.map (Blob.Chunk.blank ∘ Blob.Chunk.data) =
      (s.chunks.map Bytes.blank).map Blob.Chunk.data := by
    rw [List.map_map]
    rfl
  unfold bodyChunks
  rw [List.map_append, List.map_map, hdata]
  cases hc : s.complete <;> simp [Response.blank, hc, Blob.Chunk.blank]

theorem alike_fetch (r : Repository) (b : BlobRequest) :
    ExchangeAlike c hidden Reads
      (fun s s' => s.blank = s'.blank ∧ (c.hides hidden r b.digest = false → s = s'))
      (c.fetch r b) (c.fetch r b) := by
  refine Task.alike_ofOutcome_bind fun u hu => ?_
  refine Task.alike_tell_bind (alike_exchange rfl (fun _ _ h => h) fun s s' h _ => ?_)
  refine Task.alike_pure ⟨?_, fun ho => ?_⟩
  · have hlength : s.length = s'.length := by
      have hs : s.blank.length = s'.blank.length := by rw [h.blank_eq]
      exact hs
    simp only [Blob.Stream.blank, bodyChunks_blank, h.blank_eq, hlength]
  · have hopen : (c.request .get u).isHidden hidden = false := by
      simp only [Client.hides, hu] at ho
      simp [Request.isHidden, ho]
    rw [h.eq_of_open rfl hopen]

theorem alike_serve (q q' : Call) (h : q = q') :
    Procedure.Alike Request.Alike (ResponsesAlike c hidden Reads)
      (AnswersAlike (c.hides hidden) q q') (c.serve q) (c.serve q') := by
  subst h
  cases q with
  | connect r => exact .done (.same rfl)
  | size r d =>
    refine Procedure.Alike.mono (alike_size r d) fun o o' ho => ?_
    rw [Outcome.eq_of_alike ho]
    exact .same rfl
  | present r d =>
    refine Procedure.Alike.mono (alike_present r d) fun o o' ho => ?_
    rw [Outcome.eq_of_alike ho]
    exact .same rfl
  | fetch r b => exact Procedure.Alike.mono (alike_fetch r b) fun o o' => AnswersAlike.of_fetch

theorem alike_reading {t : Reading α} {t' : Reading β} (h : ReadAlike (c.hides hidden) V t t') :
    ExchangeAlike c hidden Reads V (c.reading t) (c.reading t') :=
  Procedure.alike_through alike_serve h

theorem alike_fetchManifest {ref : Reference} (hr : Reads ref) :
    ExchangeAlike c hidden Reads
      (fun raw raw' => raw = raw' ∧ ∀ m, Manifest.parse raw = .ok m →
        c.hides hidden ref.repository m.config.digest = false)
      (c.fetchManifest ref) (c.fetchManifest ref) := by
  refine Task.alike_ofOutcome_bind fun u hu => ?_
  refine Task.alike_tell_bind (alike_exchange rfl (fun _ _ h => h) fun s s' h hs => ?_)
  cases h.eq_of_open rfl (by simp [Request.isHidden])
  cases hc : s.complete with
  | false => exact Task.alike_fail _
  | true =>
    refine Task.alike_tell_bind (Task.alike_pure ⟨rfl, fun m hm => ?_⟩)
    exact h.config ref hr _ m ⟨u, s, hu, rfl, rfl, hs, hc, rfl⟩ hm

theorem alike_image {ref : Reference} (hr : Reads ref) :
    ExchangeAlike c hidden Reads Eq (c.image ref) (c.image ref) := by
  refine Task.alike_bind (alike_fetchManifest hr) ?_
  rintro raw _ ⟨rfl, hopen⟩
  refine alike_reading (Task.alike_bind (alike_connect ref.repository) fun _ _ _ => ?_)
  exact RemoteImage.alike_read hopen

theorem alike_startUpload (r : Repository) :
    ExchangeAlike c hidden Reads Eq (c.startUpload r) (c.startUpload r) := by
  refine Task.alike_ofOutcome_bind fun base _ => ?_
  refine alike_exchange_open rfl (Request.isHidden_of_ne (by simp [Client.post])) fun s _ => ?_
  exact Task.alike_ofOutcome (Outcome.alike_of_eq rfl)

theorem alike_mount (r source : Repository) (d : Digest) :
    ExchangeAlike c hidden Reads Eq (c.mount r source d) (c.mount r source d) := by
  refine Task.alike_ofOutcome_bind fun base _ => ?_
  refine alike_exchange_open rfl (Request.isHidden_of_ne (by simp [Client.post])) fun s _ => ?_
  split
  · exact Task.alike_pure rfl
  · exact Task.alike_ofOutcome_bind fun u _ => Task.alike_pure rfl

theorem alike_openUpload (r : Repository) (l : Layer) :
    ExchangeAlike c hidden Reads Eq (c.openUpload r l) (c.openUpload r l) := by
  unfold Client.openUpload
  split
  · refine Task.alike_bind (alike_startUpload r) ?_
    rintro u _ rfl
    exact Task.alike_pure rfl
  next source _ =>
    refine Task.alike_bind (alike_mount r source l.digest) ?_
    rintro o _ rfl
    cases o with
    | mounted => exact Task.alike_tell_bind (Task.alike_pure rfl)
    | session u => exact Task.alike_tell_bind (Task.alike_pure rfl)

/-- The bodies of uploads are all that depends on hidden octets. -/
theorem alike_uploadBlob (start : Url) (l : Layer) :
    ExchangeAlike c hidden Reads Eq (c.uploadBlob start l) (c.uploadBlob start l) := by
  refine Task.alike_bind (alike_reading l.alike_size) ?_
  rintro size _ rfl
  refine Task.alike_bind (alike_reading l.alike_content) fun s s' hs => ?_
  refine Task.alike_tell_bind ?_
  have hbody : (Body.streamed s.chunks).blank = (Body.streamed s'.chunks).blank :=
    congrArg (fun t : Blob.Stream => Body.streamed t.chunks) hs
  refine alike_exchange_open ?_ (Request.isHidden_of_ne (by simp)) fun _ _ => Task.alike_pure rfl
  simp [Request.Alike, Request.outline, Request.sendsBlob, hbody]

theorem alike_writeLayer (r : Repository) (l : Layer) :
    ExchangeAlike c hidden Reads Eq (c.writeLayer r l) (c.writeLayer r l) := by
  refine Task.alike_bind (alike_present r l.digest) ?_
  rintro present _ rfl
  cases present with
  | true => exact Procedure.alike_tell (.done (.ok rfl))
  | false =>
    refine Task.alike_bind (alike_openUpload r l) ?_
    rintro o _ rfl
    cases o with
    | none => exact Task.alike_pure rfl
    | some u => exact alike_uploadBlob u l

theorem alike_writeLayers (r : Repository) (total : Nat) (ls : List Layer) (index : Nat) :
    ExchangeAlike c hidden Reads Eq (c.writeLayers r total index ls)
      (c.writeLayers r total index ls) := by
  induction ls generalizing index with
  | nil => exact Task.alike_pure rfl
  | cons l more ih =>
    refine Task.alike_tell_bind ?_
    exact Task.alike_bind (Task.alike_forLayer (alike_writeLayer r l)) fun _ _ _ => ih (index + 1)

theorem alike_putManifest (ref : Reference) (raw : Bytes) (t : MediaType) :
    ExchangeAlike c hidden Reads Eq (c.putManifest ref raw t) (c.putManifest ref raw t) := by
  refine Task.alike_ofOutcome_bind fun u _ => ?_
  refine alike_exchange_open rfl (Request.isHidden_of_ne (by simp)) fun s _ => ?_
  exact Procedure.alike_tell (.done (.ok rfl))

theorem alike_write (ref : Reference) (i : Image) :
    ExchangeAlike c hidden Reads Eq (c.write ref i) (c.write ref i) := by
  refine Task.alike_ofOutcome_bind fun ls _ => Task.alike_tell_bind ?_
  refine Task.alike_bind (alike_writeLayers ref.repository ls.length ls 0) fun _ _ _ => ?_
  refine Task.alike_ofOutcome_bind fun config _ => ?_
  refine Task.alike_bind (Task.alike_forLayer (alike_writeLayer ref.repository config))
    fun _ _ _ => ?_
  refine Task.alike_ofOutcome_bind fun raw _ => Task.alike_ofOutcome_bind fun t _ => ?_
  exact alike_putManifest ref raw t

end Http

end LayerTransfer
