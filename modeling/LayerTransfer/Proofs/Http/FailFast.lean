import LayerTransfer.Proofs.Http.Aim

namespace LayerTransfer.Http

open Name Transport Push

variable {c : Client} {ref : Reference} {r : Repository} {i : Image} {l : Layer} {a : Aim}
  {as : List Aim} {base start : Url} {d : Digest} {x : Sent} {xs us vs : List Sent}
  {e : TransferError}

/-! ### Errors -/

theorem isRegistry_of_location {s : Response} (h : location base r s = .error e) :
    e.IsRegistry := by
  simp only [location] at h
  split at h
  · cases h
    exact ⟨_, _, _, rfl⟩
  next text ht =>
    cases hj : base.join text with
    | error f =>
      rw [hj] at h
      cases h
      exact ⟨_, _, _, rfl⟩
    | ok u =>
      rw [hj] at h
      cases h

def FailsInRegistry {α : Type} (t : Exchange α) : Prop :=
  t.Ensures (fun _ => True) (fun _ => True) TransferError.IsRegistry

theorem FailsInRegistry.isRegistry {α : Type} {t : Exchange α} {o : Outcome α}
    (ht : FailsInRegistry t) (h : t.Yields xs o) : ∀ e, o = .error e → e.IsRegistry := by
  rintro e rfl
  exact (Task.Ensures.of_yields ht h).2

theorem fails_startUpload : FailsInRegistry (c.startUpload r) := by
  refine Task.ensures_ofOutcome_bind (fun e => isRegistry_of_endpoint) fun base _ => ?_
  refine ensures_exchange trivial fun s _ => Task.ensures_ofOutcome ?_
  cases hl : location base r s with
  | error e => exact isRegistry_of_location hl
  | ok start => trivial

theorem fails_mount {source : Repository} : FailsInRegistry (c.mount r source d) := by
  refine Task.ensures_ofOutcome_bind (fun e => isRegistry_of_endpoint) fun base _ => ?_
  refine ensures_exchange trivial fun s _ => ?_
  split
  · exact Task.ensures_pure trivial
  · exact Task.ensures_ofOutcome_bind (fun e => isRegistry_of_location) fun _ _ =>
      Task.ensures_pure trivial

theorem fails_openUpload : FailsInRegistry (c.openUpload r l) := by
  unfold Client.openUpload
  split
  · exact Task.ensures_bind fails_startUpload fun _ _ => Task.ensures_pure trivial
  · refine Task.ensures_bind fails_mount fun m _ => ?_
    cases m with
    | mounted => exact Task.ensures_tell_bind (Task.ensures_pure trivial)
    | session start => exact Task.ensures_tell_bind (Task.ensures_pure trivial)

theorem digest_of_remote {source : Repository} {listed : Option Descriptor}
    (h : l.blob = .remote source d listed) : l.digest = d := by
  rw [Layer.digest, h, Blob.digest]

theorem reading_size {source : Repository} {listed : Option Descriptor}
    (h : l.blob = .remote source d listed) : c.reading l.size = c.size source d := by
  have hserve := Procedure.through_ask c.serve (.size source d)
  rw [Client.serve] at hserve
  rw [Client.reading, Layer.size, h, Blob.size, Transport.size, Task.through]
  exact congrArg ExceptT.mk hserve

theorem reading_content {source : Repository} {listed : Option Descriptor}
    (h : l.blob = .remote source d listed) : c.reading l.content = c.fetch source (.layer d) := by
  have hserve := Procedure.through_ask c.serve (.fetch source (.layer d))
  rw [Client.serve] at hserve
  rw [Client.reading, Layer.content, h, Blob.content, Transport.fetch, Task.through]
  exact congrArg ExceptT.mk hserve

theorem fails_size : FailsInRegistry (c.reading l.size) := by
  cases h : l.blob with
  | held b d m =>
    rw [Layer.size, h]
    exact Task.ensures_pure trivial
  | remote source d listed =>
    rw [reading_size h]
    exact ensures_size fun _ _ => trivial

theorem fails_content : FailsInRegistry (c.reading l.content) := by
  cases h : l.blob with
  | held b d m =>
    rw [Layer.content, h]
    exact Task.ensures_pure trivial
  | remote source d listed =>
    rw [reading_content h]
    exact ensures_fetch fun _ _ => trivial

theorem fails_uploadBlob : FailsInRegistry (c.uploadBlob start l) := by
  refine Task.ensures_bind fails_size fun size _ => ?_
  refine Task.ensures_bind fails_content fun stream _ => Task.ensures_tell_bind ?_
  exact ensures_exchange trivial fun s _ => Task.ensures_pure trivial

theorem fails_writeLayer : FailsInRegistry (c.writeLayer r l) := by
  refine Task.ensures_bind (ensures_present fun _ _ => trivial) fun there _ => ?_
  cases there with
  | true => exact Procedure.ensures_tell (.done trivial)
  | false =>
    refine Task.ensures_bind fails_openUpload fun session _ => ?_
    cases session with
    | none => exact Task.ensures_pure trivial
    | some start => exact fails_uploadBlob

theorem fails_putManifest {raw : Bytes} {mediaType : MediaType} :
    FailsInRegistry (c.putManifest ref raw mediaType) := by
  refine Task.ensures_ofOutcome_bind (fun e => isRegistry_of_endpoint) fun u _ => ?_
  exact ensures_exchange trivial fun s _ => Procedure.ensures_tell (.done trivial)

/-! ### Attempts -/

inductive Attempt (c : Client) (ref : Reference) (a : Aim) {α : Type} :
    List Sent → Outcome α → Prop
  | unsent (e : TransferError) : Attempt c ref a [] (.error e)
  | refused (x : Sent) (e : TransferError) (hx : a.Serves c ref x) (ha : ¬a.Accepts ref x) :
      Attempt c ref a [x] (.error e)
  | accepted (x : Sent) (v : α) (hx : a.Serves c ref x) (ha : a.Accepts ref x) :
      Attempt c ref a [x] (.ok v)

theorem Attempt.follows {α : Type} {cause : TransferError}
    (h : Attempt c ref a xs (.error cause : Outcome α)) (he : a.Blames e) :
    Follows c ref i (a :: as) xs (.error e) := by
  cases h with
  | unsent => exact .unsent he
  | refused x _ hx ha => exact .refused hx ha he

theorem attempt_of_missed {α : Type} {q : Request} {wanted : Status → Bool}
    (hm : Missed q wanted xs) (cause : TransferError) (hx : ∀ answer, a.Serves c ref ⟨q, answer⟩)
    (ha : ∀ answer, a.Accepts ref ⟨q, answer⟩ → Accepted wanted ⟨q, answer⟩) :
    Attempt c ref a xs (.error cause : Outcome α) := by
  cases hm with
  | unsent => exact .unsent cause
  | refused answer _ hn =>
    exact .refused _ cause (hx answer) fun h => hn (ha answer h)

theorem attempt_size {source : Repository} {listed : Option Descriptor} {o : Outcome UInt64}
    (hl : l.blob = .remote source l.digest listed) (h : (c.reading l.size).Yields xs o) :
    Attempt c ref (.layer l .weigh) xs o := by
  rw [reading_size hl] at h
  obtain ⟨e, -, rfl, rfl⟩ | ⟨u, hu, ⟨e, rfl, hm⟩ | ⟨s, ys, rfl, hmet, hf⟩⟩ := yields_head h
  · exact .unsent e
  · refine attempt_of_missed hm e (fun answer => ⟨source, listed, u, hl, hu, rfl⟩) ?_
    rintro answer ⟨s, n, ha, hs, -⟩
    exact ⟨s, ha, hs⟩
  · have hserves : (Aim.layer l .weigh).Serves c ref ⟨c.request .head u, .response s⟩ :=
      ⟨source, listed, u, hl, hu, rfl⟩
    cases hn : (s.text? "content-length").bind Decimal.parseU64 with
    | none =>
      simp only [hn] at hf
      obtain ⟨rfl, rfl⟩ := Task.yields_fail.1 hf
      refine .refused _ _ hserves ?_
      rintro ⟨t, n, ht, -, hlength⟩
      cases ht
      rw [hn] at hlength
      cases hlength
    | some n =>
      simp only [hn] at hf
      obtain ⟨rfl, rfl⟩ := Task.yields_pure.1 hf
      exact .accepted _ n hserves ⟨s, n, rfl, hmet.status, hn⟩

theorem attempt_content {source : Repository} {listed : Option Descriptor}
    {o : Outcome Blob.Stream} (hl : l.blob = .remote source l.digest listed)
    (h : (c.reading l.content).Yields xs o) : Attempt c ref (.layer l .read) xs o := by
  rw [reading_content hl] at h
  obtain ⟨e, -, rfl, rfl⟩ | ⟨u, hu, h⟩ := Task.yields_ofOutcome_bind.1 h
  · exact .unsent e
  obtain ⟨e, rfl, hm⟩ | ⟨s, ys, rfl, hmet, hf⟩ := yields_exchange (Task.yields_tell_bind.1 h)
  · refine attempt_of_missed hm e (fun answer => ⟨source, listed, u, hl, hu, rfl⟩) ?_
    exact fun answer ha => ha
  · obtain ⟨rfl, rfl⟩ := Task.yields_pure.1 hf
    exact .accepted _ _ ⟨source, listed, u, hl, hu, rfl⟩ ⟨s, rfl, hmet.status⟩

/-- An upload is asked for once. An answer leaves nothing to send exactly if it settles the layer.
-/
theorem attempt_opening {o : Outcome (Option Url)}
    (hb : endpoint ref.repository uploadsPath = .ok base)
    (h : Opened c ref.repository l base xs o) : Attempt c ref (.layer l .claim) xs o := by
  have hserves (answer : Answer) :
      (Aim.layer l .claim).Serves c ref ⟨c.opening ref.repository l base, answer⟩ :=
    ⟨base, hb, rfl⟩
  cases h with
  | missed e hm =>
    refine attempt_of_missed hm e hserves ?_
    rintro answer (⟨hsome, s, rfl, hs⟩ | ⟨base', start, -, s, text, rfl, hs, -⟩)
    · obtain ⟨source, hr⟩ := Option.isSome_iff_exists.1 hsome
      have h201 : s.status = 201 := by simpa using hs
      exact ⟨s, rfl, by simp [opensWith, hr, h201]⟩
    · refine ⟨s, rfl, ?_⟩
      cases hr : mountSource l ref.repository <;> simp [opensWith, hr, hs]
  | mounted s source hq hr hs =>
    exact .accepted _ none (hserves _) (.inl ⟨by simp [hr], s, rfl, by simpa using hs⟩)
  | lost s e hq hs hl =>
    refine .refused _ e (hserves _) ?_
    rintro (⟨-, t, ht, h201⟩ | ⟨base', start, hb', t, text, ht, -, htext, hjoin⟩)
    · cases ht
      simp [hs] at h201
    · cases ht
      cases hb.symm.trans hb'
      simp [location, htext, hjoin, Except.mapError] at hl
  | session s start hq hs hl =>
    exact .accepted _ (some start) (hserves _) (.inr ⟨base, start, hb, startsAt_of_location hs hl⟩)

/-! ### Layers -/

variable {o : Outcome Unit}

theorem aims_eq (l : Layer) : l.aims = .layer l .find :: .layer l .claim ::
    (l.blob.readings.map (.layer l) ++ [.layer l .send]) := by
  simp [Layer.aims]

theorem rest_of_settles {answer : Answer} (h : a.settles answer = true)
    (hc : ∀ b ∈ as, b.continues = true) : a.rest answer as = [] := by
  rw [Aim.rest, if_pos h]
  exact List.dropWhile_eq_nil_iff.2 hc

theorem rest_of_not_settles {answer : Answer} (h : a.settles answer = false) :
    a.rest answer as = as := by
  rw [Aim.rest, h]
  rfl

theorem not_settles {errand : Errand} (hf : errand ≠ .find) (hc : errand ≠ .claim)
    (answer : Answer) : (Aim.layer l errand).settles answer = false := by
  cases errand with
  | find => exact absurd rfl hf
  | claim => exact absurd rfl hc
  | weigh | read | send => rfl

theorem Attempt.follows_rest {α : Type} {v : α} {errand : Errand} {zs : List Sent}
    (h : Attempt c ref (.layer l errand) us (.ok v)) (hf : errand ≠ .find) (hc : errand ≠ .claim)
    (hrest : Follows c ref i as zs o) : Follows c ref i (.layer l errand :: as) (us ++ zs) o := by
  cases h with
  | accepted x _ hx ha =>
    refine .accepted hx ha ?_
    rwa [rest_of_not_settles (not_settles hf hc x.2)]

theorem follows_of_reads {size : UInt64} {stream : Blob.Stream} {zs : List Sent}
    (hs : (c.reading l.size).Yields us (.ok size))
    (hc : (c.reading l.content).Yields vs (.ok stream))
    (h : Follows c ref i [.layer l .send] zs o) :
    Follows c ref i (l.blob.readings.map (.layer l) ++ [.layer l .send]) (us ++ vs ++ zs) o := by
  cases hl : l.blob with
  | held b d m =>
    rw [Layer.size, hl] at hs
    rw [Layer.content, hl] at hc
    obtain ⟨rfl, -⟩ := Task.yields_pure.1 hs
    obtain ⟨rfl, -⟩ := Task.yields_pure.1 hc
    exact h
  | remote source d listed =>
    obtain rfl := digest_of_remote hl
    rw [List.append_assoc]
    refine (attempt_size hl hs).follows_rest (by simp) (by simp) ?_
    exact (attempt_content hl hc).follows_rest (by simp) (by simp) h

theorem follows_of_unread {e : TransferError} (he : e.IsRegistry)
    (h : (c.reading l.size).Yields xs (.error e) ∨ ∃ us vs size, xs = us ++ vs ∧
      (c.reading l.size).Yields us (.ok size) ∧ (c.reading l.content).Yields vs (.error e)) :
    Follows c ref i (l.blob.readings.map (.layer l) ++ [.layer l .send]) xs
      (.error (.layer l.digest.text e)) := by
  cases hl : l.blob with
  | held b d m =>
    rw [Layer.size, hl, Layer.content, hl] at h
    obtain h | ⟨us, vs, size, rfl, -, h⟩ := h
    · cases (Task.yields_pure.1 h).2
    · cases (Task.yields_pure.1 h).2
  | remote source d listed =>
    obtain rfl := digest_of_remote hl
    obtain hs | ⟨us, vs, size, rfl, hs, hc⟩ := h
    · exact (attempt_size hl hs).follows ⟨e, rfl, he⟩
    · refine (attempt_size hl hs).follows_rest (by simp) (by simp) ?_
      exact (attempt_content hl hc).follows ⟨e, rfl, he⟩

theorem Sending.follows (h : Sending c l start xs o)
    (he : ∀ cause, o = .error cause → cause.IsRegistry) :
    Follows c ref i (l.blob.readings.map (.layer l) ++ [.layer l .send]) xs
      (o.forLayer l.digest.text) := by
  cases h with
  | @unsized us e hs => exact follows_of_unread (he e rfl) (.inl hs)
  | @unread us vs size e hs hc =>
    exact follows_of_unread (he e rfl) (.inr ⟨us, vs, size, rfl, hs, hc⟩)
  | @missed us vs ws size stream e hs hc hm =>
    have hserves (answer : Answer) :
        (Aim.layer l .send).Serves c ref ⟨c.sending l start size stream, answer⟩ :=
      ⟨start, size, stream, rfl⟩
    have hattempt : Attempt c ref (.layer l .send) ws (.error e : Outcome Unit) :=
      attempt_of_missed hm e hserves fun _ ha => ha
    exact follows_of_reads hs hc (hattempt.follows ⟨e, rfl, he e rfl⟩)
  | @accepted us vs size stream s hs hc hm =>
    refine follows_of_reads hs hc (.accepted ⟨start, size, stream, rfl⟩ ?_ .done)
    exact ⟨s, rfl, hm.status⟩

theorem Course.follows (hb : endpoint ref.repository uploadsPath = .ok base)
    (h : Course c ref.repository l base xs o) (he : ∀ cause, o = .error cause → cause.IsRegistry) :
    Follows c ref i l.aims xs (o.forLayer l.digest.text) := by
  have hserves (answer : Answer) :
      (Aim.layer l .find).Serves c ref ⟨c.asking ref.repository l base, answer⟩ := by
    have hblob := endpoint_of_endpoint isPlainPath_uploadsPath (isPlainPath_blobPath l.digest) hb
    exact ⟨_, hblob, rfl⟩
  have hmissing {s : Response} (hs : s.status = 404) {ys : List Sent} {p : Outcome Unit}
      (h : Follows c ref i
        (.layer l .claim :: (l.blob.readings.map (.layer l) ++ [.layer l .send])) ys p) :
      Follows c ref i l.aims (⟨c.asking ref.repository l base, .response s⟩ :: ys) p := by
    rw [aims_eq]
    refine .accepted (hserves _) ⟨s, rfl, by simp [hs]⟩ ?_
    rwa [rest_of_not_settles (by simp [Aim.settles, hs, Status.isSuccess])]
  -- an answer that settles the layer skips all of this
  have hcontinues : ∀ b ∈ l.blob.readings.map (Aim.layer l) ++ [Aim.layer l .send],
      b.continues = true := by
    cases l.blob <;> simp [Blob.readings, Aim.continues]
  cases h with
  | unknown e hm =>
    rw [aims_eq]
    have hattempt : Attempt c ref (.layer l .find) xs (.error e : Outcome Unit) :=
      attempt_of_missed hm e hserves fun answer ha => ha
    exact hattempt.follows ⟨e, rfl, he e rfl⟩
  | there s hq hs =>
    rw [aims_eq]
    refine .accepted (hserves _) ⟨s, rfl, by simp [hs]⟩ ?_
    have hsettles : (Aim.layer l .find).settles (.response s) = true := hs
    have hlater : ∀ b ∈ Aim.layer l .claim :: (l.blob.readings.map (Aim.layer l) ++
        [Aim.layer l .send]), b.continues = true := List.forall_mem_cons.2 ⟨rfl, hcontinues⟩
    rw [rest_of_settles hsettles hlater]
    exact .done
  | @unopened ys e s hq hs ho =>
    exact hmissing hs ((attempt_opening hb ho).follows ⟨e, rfl, he e rfl⟩)
  | mounted s hq hs ho =>
    refine hmissing hs ?_
    cases ho with
    | mounted t source hq' hr h201 =>
      refine .accepted ⟨base, hb, rfl⟩ (.inl ⟨by simp [hr], t, rfl, by simpa using h201⟩) ?_
      rw [rest_of_settles (by simpa [Aim.settles] using h201) hcontinues]
      exact .done
  | @sent us ys next _ s hq hs ho hy =>
    refine hmissing hs ?_
    cases ho with
    | session t _ hq' h202 hl =>
      have hstart := startsAt_of_location h202 hl
      refine .accepted ⟨base, hb, rfl⟩ (.inr ⟨base, next, hb, hstart⟩) ?_
      rw [rest_of_not_settles (by simp [Aim.settles, h202])]
      exact hy.follows he

theorem follows_of_yields_writeLayer (h : (c.writeLayer ref.repository l).Yields xs o) :
    Follows c ref i l.aims xs (o.forLayer l.digest.text) := by
  have he := fails_writeLayer.isRegistry h
  obtain ⟨rfl, -, ho⟩ | ⟨base, hb, hcourse⟩ := course_of_yields_writeLayer h
  · cases o with
    | ok u => exact absurd rfl ho
    | error e =>
      rw [aims_eq]
      exact .unsent ⟨e, rfl, he e rfl⟩
  · exact hcourse.follows hb he

theorem follows_of_yields_forLayer
    (h : (Task.forLayer l.digest.text (c.writeLayer ref.repository l)).Yields xs o) :
    Follows c ref i l.aims xs o := by
  obtain ⟨o', hl, rfl⟩ := Task.yields_forLayer.1 h
  exact follows_of_yields_writeLayer hl

/-! ### Images -/

theorem dropWhile_aims (l : Layer) (more : List Aim) :
    (l.aims ++ more).dropWhile Aim.continues = l.aims ++ more := by
  rw [aims_eq]
  rfl

theorem dropWhile_flatMap (ls : List Layer) :
    (ls.flatMap Layer.aims ++ [Aim.publish]).dropWhile Aim.continues =
      ls.flatMap Layer.aims ++ [Aim.publish] := by
  cases ls with
  | nil => rfl
  | cons l ls =>
    rw [List.flatMap_cons, List.append_assoc]
    exact dropWhile_aims l _

theorem follows_of_yields_writeLayers {total index : Nat} {ls : List Layer}
    (h : (c.writeLayers ref.repository total index ls).Yields xs o) :
    Follows c ref i (ls.flatMap Layer.aims) xs o := by
  induction ls generalizing index xs with
  | nil =>
    obtain ⟨rfl, rfl⟩ := Task.yields_pure.1 h
    exact .done
  | cons l ls ih =>
    have hstep := Task.yields_tell_bind.1 h
    have hrest : (ls.flatMap Layer.aims).dropWhile Aim.continues = ls.flatMap Layer.aims := by
      cases ls with
      | nil => rfl
      | cons l' ls => exact dropWhile_aims l' _
    obtain ⟨e, hl, rfl⟩ | ⟨u, ys, zs, rfl, hl, hmore⟩ := Task.yields_bind.1 hstep
    · exact (follows_of_yields_forLayer hl).append_error hrest
    · exact (follows_of_yields_forLayer hl).append hrest (ih hmore)

theorem follows_of_yields_putManifest {raw : Bytes} {mediaType : MediaType}
    (h : (c.putManifest ref raw mediaType).Yields xs o) : Follows c ref i [.publish] xs o := by
  have he := fails_putManifest.isRegistry h
  obtain ⟨rfl, ho⟩ | ⟨x, rfl, hx, -, ho⟩ := yields_putManifest h
  · cases o with
    | ok u => exact absurd rfl ho
    | error e => exact .unsent (he e rfl)
  · cases o with
    | ok u => exact .accepted hx (ho.1 rfl) .done
    | error e => exact .refused hx (fun ha => by cases ho.2 ha) (he e rfl)

theorem follows_of_yields_write (h : (c.write ref i).Yields xs o) :
    Follows c ref i i.aims xs o := by
  obtain ⟨e, hls, rfl, rfl⟩ | ⟨ls, hls, htell⟩ := Task.yields_ofOutcome_bind.1 h
  · exact .withheld (.inl hls)
  have hplan : i.aims =
      ls.flatMap Layer.aims ++ (i.configLayer.toOption.toList.flatMap Layer.aims ++ [.publish]) := by
    simp [Image.aims, Image.blobs, hls, Except.toOption]
  rw [hplan]
  -- no answer to the last layer skips what comes after it, as it starts with another blob
  have hend := dropWhile_flatMap i.configLayer.toOption.toList
  obtain ⟨e, hl, rfl⟩ | ⟨u, ys, zs, rfl, hl, hrest⟩ :=
    Task.yields_bind.1 (Task.yields_tell_bind.1 htell)
  · exact (follows_of_yields_writeLayers hl).append_error hend
  refine (follows_of_yields_writeLayers hl).append hend ?_
  obtain ⟨e, hc, rfl, rfl⟩ | ⟨config, hc, hwrite⟩ := Task.yields_ofOutcome_bind.1 hrest
  · exact .withheld (.inr (.inl hc))
  have hconfig : i.configLayer.toOption.toList.flatMap Layer.aims = config.aims := by
    simp [hc, Except.toOption]
  rw [hconfig]
  obtain ⟨e, hw, rfl⟩ | ⟨u, us, vs, rfl, hw, hraw⟩ := Task.yields_bind.1 hwrite
  · exact (follows_of_yields_forLayer hw).append_error rfl
  refine (follows_of_yields_forLayer hw).append rfl ?_
  obtain ⟨e, hm, rfl, rfl⟩ | ⟨raw, hm, htype⟩ := Task.yields_ofOutcome_bind.1 hraw
  · exact .withheld (.inr (.inr (.inl hm)))
  obtain ⟨e, ht, rfl, rfl⟩ | ⟨mediaType, -, hput⟩ := Task.yields_ofOutcome_bind.1 htype
  · exact .withheld (.inr (.inr (.inr ht)))
  exact follows_of_yields_putManifest hput

/-! ### Stopped pushes -/

/-- A push that ends at an aim: its error blames the aim, and names the layer if there is one, whose
manifest then has not been put. -/
structure StopsAt (c : Client) (ref : Reference) (xs : List Sent) (o : Outcome Unit) (a : Aim) :
    Prop where
  error : ∃ e, o = .error e ∧ a.Blames e
  unpublished : a ≠ .publish → ∀ x ∈ xs, ¬IsManifestPut c ref x

theorem isQuiet_of_serves {errand : Errand} (h : (Aim.layer l errand).Serves c ref x) :
    x.1.IsQuiet := by
  cases errand with
  | find =>
    obtain ⟨u, -, hx⟩ := h
    exact isQuiet_of_ne (by simp [hx])
  | claim =>
    obtain ⟨base, -, hx⟩ := h
    exact isQuiet_of_ne (by simp [hx])
  | weigh =>
    obtain ⟨source, listed, u, -, -, hx⟩ := h
    exact isQuiet_of_ne (by simp [hx])
  | read =>
    obtain ⟨source, listed, u, -, -, hx⟩ := h
    exact isQuiet_of_ne (by simp [hx])
  | send =>
    obtain ⟨q, answer⟩ := x
    obtain ⟨start, size, stream, rfl⟩ := h
    exact isQuiet_sending

theorem publish_not_mem_front {front back : List Aim}
    (h : (front ++ a :: back).Sublist i.aims) : Aim.publish ∉ front := by
  intro hm
  have hblobs : Aim.publish ∉ i.blobs.flatMap Layer.aims := by simp [Layer.aims]
  -- behind the blobs there is room for one aim only, so the first of these two would be of a blob
  have hpair : [Aim.publish, a].Sublist i.aims :=
    ((List.singleton_sublist.2 hm).append (List.singleton_sublist.2 (List.mem_cons_self ..))).trans h
  obtain ⟨us, vs, huv, hus, hvs⟩ := List.sublist_append_iff.1 hpair
  cases us with
  | nil =>
    have hlength := hvs.length_le
    rw [← List.nil_append vs, ← huv] at hlength
    simp at hlength
  | cons b us =>
    obtain ⟨rfl, -⟩ := List.cons.inj huv
    exact hblobs (hus.subset (List.mem_cons_self ..))

theorem length_aims_le (i : Image) {ls : List Layer} (h : i.layers = .ok ls) :
    i.aims.length ≤ 5 * (ls.length + 1) + 1 := by
  have hlayer (l : Layer) : l.aims.length ≤ 5 := by
    rw [aims_eq]
    cases l.blob <;> simp [Blob.readings]
  have hlayers (ls : List Layer) : (ls.flatMap Layer.aims).length ≤ 5 * ls.length := by
    induction ls with
    | nil => simp
    | cons l ls ih =>
      have hl := hlayer l
      rw [List.flatMap_cons, List.length_append, List.length_cons]
      omega
  have hblobs : i.blobs.length ≤ ls.length + 1 := by
    cases hc : i.configLayer <;> simp [Image.blobs, h, hc, Except.toOption]
  have hplan := hlayers i.blobs
  rw [Image.aims, List.length_append, List.length_singleton]
  omega

variable {σ : Type}

theorem response_of_accepts (h : a.Accepts ref x) :
    ∃ s, x.2 = .response s ∧ (Status.isSuccess s.status = true ∨ s.status = 404) := by
  match a, h with
  | .layer l .find, ⟨s, hs, hw⟩ => exact ⟨s, hs, by simpa using hw⟩
  | .layer l .claim, .inl ⟨_, s, hs, h201⟩ =>
    have hstatus : s.status = 201 := by simpa using h201
    exact ⟨s, hs, .inl (by simp [hstatus, Status.isSuccess])⟩
  | .layer l .claim, .inr ⟨base, start, _, s, text, hs, h202, _⟩ =>
    exact ⟨s, hs, .inl (by simp [h202, Status.isSuccess])⟩
  | .layer l .weigh, ⟨s, n, hs, hw, _⟩ => exact ⟨s, hs, .inl hw⟩
  | .layer l .read, ⟨s, hs, hw⟩ => exact ⟨s, hs, .inl hw⟩
  | .layer l .send, ⟨s, hs, hw⟩ => exact ⟨s, hs, .inl hw⟩
  | .publish, ⟨s, hs, hw⟩ => exact ⟨s, hs, .inl hw⟩

def failing : List Answer :=
  [.response { status := 404 },
    .response { status := 202, headers := [("location", Bytes.ofText "session")] },
    .response { status := 200, headers := [("content-length", Bytes.ofText "3")] },
    .response { status := 500 }]

def stopped :=
  Library.usual.run Network.scripted failing (Client.write {} copyReference siteImage.toImage).run

/-- The first blob is asked for elsewhere, is found there, and the push goes on. -/
def detouring :=
  Library.usual.run Network.scripted
    [.response { status := 307, headers := [("location", Bytes.ofText "elsewhere")] },
      .response { status := 200 }, .response { status := 200 }, .response { status := 201 }]
    (Client.write {} copyReference siteImage.toImage).run

end LayerTransfer.Http
