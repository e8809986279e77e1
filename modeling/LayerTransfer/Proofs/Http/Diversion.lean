import LayerTransfer.CommandLine.Runner
import LayerTransfer.Proofs.Http.Private
import LayerTransfer.Proofs.Http.Transfer
import LayerTransfer.Proofs.Name.RoundTrip
import LayerTransfer.Proofs.Outcome

namespace LayerTransfer.Http

open Name Transport

/-- Whether an answer leads from `base` to `start` by a location that asks for plain http. -/
def LeadsAway (base start : Url) (a : Answer) : Prop :=
  ∃ s text, a = .response s ∧ s.status = 202 ∧ s.text? "location" = some text ∧
    base.join text = .ok start ∧ Url.asksPlain base text = true

/-- Whether a request is an upload that an answer before it has led away from a private endpoint. -/
def Diverted (before : List Sent) (x : Sent) : Prop :=
  x.1.method = .put ∧ ∃ y ∈ before, y.1.method = .post ∧ ∃ r base start,
    endpoint r uploadsPath = .ok base ∧ base.isPrivate = true ∧ y.1.url.place = base.place ∧
    LeadsAway base start y.2 ∧ x.1.url.place = start.place

/-- Whether all requests are private but those that an answer has diverted. -/
def Confined (xs : List Sent) : Prop :=
  ∀ before x after, xs = before ++ x :: after → x.1.IsPrivate ∨ Diverted before x

variable {c : Client} {r : Repository} {l : Layer} {base start u : Url} {xs ys : List Sent}
  {x : Sent}

/-! ### Traces -/

theorem Diverted.mono (h : Diverted xs x) (hs : xs ⊆ ys) : Diverted ys x := by
  obtain ⟨hm, y, hy, hdiverted⟩ := h
  exact ⟨hm, y, hs hy, hdiverted⟩

theorem split_append {α : Type} {xs ys before after : List α} {x : α}
    (h : xs ++ ys = before ++ x :: after) :
    (∃ more, xs = before ++ x :: more) ∨ ∃ more, before = xs ++ more ∧ ys = more ++ x :: after := by
  obtain ⟨more, hb, hy⟩ | ⟨more, hx, hr⟩ := List.append_eq_append_iff.1 h
  · exact .inr ⟨more, hb, hy⟩
  · cases more with
    | nil => exact .inr ⟨[], by simpa using hx.symm, hr.symm⟩
    | cons y more =>
      obtain ⟨rfl, -⟩ := List.cons.inj hr
      exact .inl ⟨more, hx⟩

theorem confined_of_private (h : ∀ x ∈ xs, x.1.IsPrivate) : Confined xs := by
  rintro before x after rfl
  exact .inl (h x (List.mem_append_right _ (List.mem_cons_self ..)))

theorem Confined.append (hx : Confined xs) (hy : Confined ys) : Confined (xs ++ ys) := by
  intro before x after h
  obtain ⟨more, hb⟩ | ⟨more, rfl, hb⟩ := split_append h
  · exact hx before x more hb
  · exact (hy more x after hb).imp id fun h => h.mono (List.subset_append_right xs more)

theorem Confined.append_of_diverted (hx : Confined xs)
    (hy : ∀ y ∈ ys, y.1.IsPrivate ∨ Diverted xs y) : Confined (xs ++ ys) := by
  intro before x after h
  obtain ⟨more, hb⟩ | ⟨more, rfl, rfl⟩ := split_append h
  · exact hx before x more hb
  · have hmem := hy x (List.mem_append_right _ (List.mem_cons_self ..))
    exact hmem.imp id fun h => h.mono (List.subset_append_left xs more)

/-! ### One layer -/

theorem scheme_of_isSendable {q : Request} (h : q.isSendable = true) :
    q.url.scheme = "http" ∨ q.url.scheme = "https" := by
  simp only [Request.isSendable, Request.isWeb, Bool.and_eq_true, Bool.or_eq_true, beq_iff_eq] at h
  exact h.2.1.1

theorem private_of_reading {α : Type} {t : Reading α} {Q : α → Prop} {o : Outcome α}
    (ht : ReadsSecure Q t) (h : (c.reading t).Yields xs o) : ∀ x ∈ xs, x.1.IsPrivate :=
  ((ensures_reading ht).of_yields h).1

theorem Sending.private_or_put {o : Outcome Unit} (hl : l.IsSecure) (h : Sending c l start xs o) :
    ∀ x ∈ xs, x.1.IsPrivate ∨
      x.1.method = .put ∧ x.1.url.place = start.place ∧ x.1.isSendable = true := by
  have hsize := readsSecure_size hl
  have hcontent := readsSecure_content hl
  have hput (size : UInt64) (stream : Blob.Stream) (a : Answer)
      (hq : (c.sending l start size stream).isSendable = true) (us vs : List Sent)
      (hus : (c.reading l.size).Yields us (.ok size))
      (hvs : (c.reading l.content).Yields vs (.ok stream)) :
      ∀ x ∈ us ++ vs ++ [⟨c.sending l start size stream, a⟩], x.1.IsPrivate ∨
        x.1.method = .put ∧ x.1.url.place = start.place ∧ x.1.isSendable = true := by
    intro x hx
    simp only [List.mem_append, List.mem_singleton] at hx
    obtain (hx | hx) | rfl := hx
    · exact .inl (private_of_reading hsize hus x hx)
    · exact .inl (private_of_reading hcontent hvs x hx)
    · exact .inr ⟨Client.sending_method, (sending_address c l start size stream).1, hq⟩
  cases h with
  | unsized hs => exact fun x hx => .inl (private_of_reading hsize hs x hx)
  | unread hs hc =>
    intro x hx
    refine .inl ((List.mem_append.1 hx).elim ?_ ?_)
    · exact private_of_reading hsize hs x
    · exact private_of_reading hcontent hc x
  | @missed us vs ws size stream e hs hc hm =>
    cases hm with
    | unsent hq =>
      intro x hx
      rw [List.append_nil] at hx
      refine .inl ((List.mem_append.1 hx).elim ?_ ?_)
      · exact private_of_reading hsize hs x
      · exact private_of_reading hcontent hc x
    | refused a hq ha => exact hput size stream a hq us vs hs hc
  | @accepted us vs size stream s hs hc hm => exact hput size stream _ hm.sendable us vs hs hc

theorem isPrivate_opening (hb : base.isPrivate = true) : (c.opening r l base).IsPrivate := by
  refine (Url.isPrivate_of_server (server_request c .post _)).trans ?_
  have hserver : (openingUrl r l base).server = base.server := by
    unfold openingUrl
    split <;> rfl
  exact (Url.isPrivate_of_server hserver).trans hb

theorem Course.confined {o : Outcome Unit} (hr : r.IsSecure) (hl : l.IsSecure)
    (hb : endpoint r uploadsPath = .ok base) (h : Course c r l base xs o) : Confined xs := by
  have hbase := isPrivate_of_endpoint hr isPlainPath_uploadsPath hb
  have hask (a : Answer) : (⟨c.asking r l base, a⟩ : Sent).1.IsPrivate := isPrivate_request hbase
  have hopened {us : List Sent} {p : Outcome (Option Url)} (ho : Opened c r l base us p) :
      ∀ x ∈ us, x.1.IsPrivate := by
    obtain ⟨rfl, -⟩ | ⟨a, rfl⟩ := ho.request
    · simp
    · simpa using isPrivate_opening hbase
  cases h with
  | unknown e hm => exact confined_of_private fun x hx => hm.request x hx ▸ isPrivate_request hbase
  | there s hq hs => exact confined_of_private (by simpa using hask (.response s))
  | unopened s hq hs ho => exact confined_of_private (List.forall_mem_cons.2 ⟨hask _, hopened ho⟩)
  | mounted s hq hs ho => exact confined_of_private (List.forall_mem_cons.2 ⟨hask _, hopened ho⟩)
  | @sent us ys next _ s hq hs ho hy =>
    have hfirst := confined_of_private (List.forall_mem_cons.2 ⟨hask (.response s), hopened ho⟩)
    refine hfirst.append_of_diverted fun y hmem => ?_
    obtain hy | ⟨hput, hplace, hq⟩ := hy.private_or_put hl y hmem
    · exact .inl hy
    -- the upload goes to the location, which either keeps it private or asks for plain http
    obtain ⟨t, hstart⟩ : ∃ t, us = [⟨c.opening r l base, t⟩] ∧ StartsAt base next t := by
      cases ho with
      | session t start hq' h202 hl => exact ⟨_, rfl, startsAt_of_location h202 hl⟩
    obtain ⟨rfl, s', text, rfl, h202, htext, hjoin⟩ := hstart
    have hserver : y.1.url.server = next.server := by
      simp only [Url.place, Prod.mk.injEq] at hplace
      simp only [Url.server, Prod.mk.injEq]
      exact ⟨hplace.1, hplace.2.1, hplace.2.2.1⟩
    have hscheme := scheme_of_isSendable hq
    rw [(Prod.mk.inj hserver).1] at hscheme
    cases ha : Url.asksPlain base text with
    | false =>
      have hnext := Url.isPrivate_of_join hbase hjoin hscheme ha
      exact .inl ((Url.isPrivate_of_server hserver).trans hnext)
    | true =>
      have hopening := (opening_address c r l (parts_of_endpoint isPlainPath_uploadsPath hb).2).1
      refine .inr ⟨hput, _, List.mem_cons_of_mem _ (List.mem_singleton_self _), by simp, ?_⟩
      exact ⟨r, base, next, hb, hbase, hopening, ⟨s', text, rfl, h202, htext, hjoin, ha⟩, hplace⟩

/-! ### Runs -/

def Confines {α : Type} (t : Exchange α) : Prop :=
  ∀ xs o, t.Yields xs o → Confined xs

variable {α β : Type} {t : Exchange α} {f : α → Exchange β} {Q : α → Prop}
  {E : TransferError → Prop}

theorem confines_of_ensures (h : t.Ensures Request.IsPrivate Q E) : Confines t :=
  fun _ _ hy => confined_of_private (h.of_yields hy).1

theorem confines_ofOutcome (o : Outcome α) : Confines (Task.ofOutcome o) := by
  intro xs o' h
  obtain ⟨rfl, -⟩ := Task.yields_ofOutcome.1 h
  exact confined_of_private (by simp)

theorem confines_bind (ht : Confines t) (hf : ∀ a xs, t.Yields xs (.ok a) → Confines (f a)) :
    Confines (t >>= f) := by
  intro xs o h
  obtain ⟨e, hx, rfl⟩ | ⟨a, ys, zs, rfl, hx, hy⟩ := Task.yields_bind.1 h
  · exact ht xs _ hx
  · exact (ht ys _ hx).append (hf a ys hx zs o hy)

theorem confines_ensures_bind (ht : t.Ensures Request.IsPrivate Q E)
    (hf : ∀ a, Q a → Confines (f a)) : Confines (t >>= f) :=
  confines_bind (confines_of_ensures ht) fun a _ h => hf a (ht.of_yields h).2

theorem confines_ofOutcome_bind {o : Outcome α} (hf : ∀ a, o = .ok a → Confines (f a)) :
    Confines (Task.ofOutcome o >>= f) := by
  intro xs o' h
  obtain ⟨e, -, rfl, -⟩ | ⟨a, ha, hy⟩ := Task.yields_ofOutcome_bind.1 h
  · exact confined_of_private (by simp)
  · exact hf a ha xs o' hy

theorem confines_tell_bind {v : Log.Verbosity} {m : Log.Message} {f : Unit → Exchange β}
    (hf : Confines (f ())) : Confines (Task.tell v m >>= f) :=
  fun xs o h => hf xs o (Task.yields_tell_bind.1 h)

theorem confines_forLayer {name : String} (ht : Confines t) : Confines (Task.forLayer name t) := by
  intro xs o h
  obtain ⟨o', hy, -⟩ := Task.yields_forLayer.1 h
  exact ht xs o' hy

/-! ### Pushes -/

theorem confines_writeLayer (hr : r.IsSecure) (hl : l.IsSecure) : Confines (c.writeLayer r l) := by
  intro xs o h
  obtain ⟨rfl, -⟩ | ⟨base, hb, hcourse⟩ := course_of_yields_writeLayer h
  · exact confined_of_private (by simp)
  · exact hcourse.confined hr hl hb

theorem confines_writeLayers {ls : List Layer} (hr : r.IsSecure) (hl : ∀ l ∈ ls, l.IsSecure)
    (total index : Nat) : Confines (c.writeLayers r total index ls) := by
  induction ls generalizing index with
  | nil => exact confines_ofOutcome (.ok ())
  | cons l ls ih =>
    obtain ⟨hl, hls⟩ := List.forall_mem_cons.1 hl
    refine confines_tell_bind (confines_bind ?_ fun _ _ _ => ih hls (index + 1))
    exact confines_forLayer (confines_writeLayer hr hl)

theorem confines_putManifest {ref : Reference} (hr : ref.repository.IsSecure) (raw : Bytes)
    (mediaType : MediaType) : Confines (c.putManifest ref raw mediaType) := by
  refine confines_ofOutcome_bind fun u hu => ?_
  have hput := isPrivate_of_endpoint hr (isPlainPath_manifestPath ref) hu
  refine confines_of_ensures (Q := fun _ => True) (ensures_exchange ?_ fun s _ => ?_)
  · exact isPrivate_request (c := c) (m := .put) hput
  · exact Procedure.ensures_tell (.done trivial)

theorem confines_write {ref : Reference} {i : Image} (hr : ref.repository.IsSecure)
    (hi : i.IsSecure) : Confines (c.write ref i) := by
  refine confines_ofOutcome_bind fun ls hls => confines_tell_bind ?_
  refine confines_bind (confines_writeLayers hr (hi.layers ls hls) _ _) fun _ _ _ => ?_
  refine confines_ofOutcome_bind fun config hconfig => ?_
  have hlayer := confines_writeLayer (c := c) hr (hi.config config hconfig)
  refine confines_bind (confines_forLayer hlayer) fun _ _ _ => ?_
  refine confines_ofOutcome_bind fun raw _ => ?_
  exact confines_ofOutcome_bind fun mediaType _ => confines_putManifest hr raw mediaType

/-! ### Names -/

variable {o : Options} {text : String}

theorem isSecure_reference {ref : Reference} (ho : o.insecure = false)
    (h : Reference.parse text o = .ok ref) : ref.repository.IsSecure :=
  (Reference.insecure_of_read (Reference.parse_eq_ok.1 h)).trans ho

theorem isSecure_repository (ho : o.insecure = false) (h : Repository.parse text o = .ok r) :
    r.IsSecure :=
  (Repository.insecure_of_read (Repository.parse_eq_ok.1 h)).trans ho

theorem isSecure_pinned {p : Pinned} (ho : o.insecure = false) (h : Pinned.parse text o = .ok p) :
    p.repository.IsSecure := by
  obtain ⟨_, _, -, hr⟩ := Pinned.read_ok (Pinned.parse_eq_ok.1 h)
  exact (Repository.insecure_of_read hr).trans ho

theorem confines_push {i : Image} (ho : o.insecure = false) (hi : i.IsSecure) :
    Confines (Push.push c.writer i text o) := by
  unfold Push.push
  cases hr : readName (Reference.parse text o) with
  | error e => exact confines_ofOutcome (.error e)
  | ok ref => exact confines_write (isSecure_reference ho (Outcome.ok_of_mapError hr)) hi

theorem confines_upload (ho : o.insecure = false) (hl : l.IsSecure) :
    Confines (Push.upload c.writer l text o) := by
  unfold Push.upload
  cases hr : readName (Repository.parse text o) with
  | error e => exact confines_ofOutcome (.error e)
  | ok r => exact confines_writeLayer (isSecure_repository ho (Outcome.ok_of_mapError hr)) hl

/-! ### Commands -/

open CommandLine

theorem isSecure_of_resolveLayer {ref : Reference} {layer : String} {p : Pinned}
    (ho : o.insecure = false) (hr : ref.repository.IsSecure)
    (h : resolveLayer o ref layer = .ok p) : p.repository.IsSecure := by
  unfold resolveLayer at h
  split at h
  · exact isSecure_pinned ho (Outcome.ok_of_mapError h)
  · obtain ⟨d, -, rfl⟩ := Outcome.ok_of_map h
    exact hr

theorem isSecure_of_resolveLayers {ref : Reference} {layers : List String} {ps : List Pinned}
    (ho : o.insecure = false) (hr : ref.repository.IsSecure)
    (h : resolveLayers o ref layers = .ok ps) : ∀ p ∈ ps, p.repository.IsSecure := by
  have hall := Outcome.mapM_eq_ok.1 h
  clear h
  induction hall with
  | nil => simp
  | cons hp _ ih => exact List.forall_mem_cons.2 ⟨isSecure_of_resolveLayer ho hr hp, ih⟩

theorem ensures_runExport (ho : o.insecure = false) (m : Machine) (image : String)
    (layers : List String) (path : String) :
    (runExport c m o image layers path).Ensures Request.IsPrivate fun _ => True := by
  have hsource : (readSource c o image layers).Ensures Request.IsPrivate
      (fun source => ∀ p ∈ source.2, p.repository.IsSecure) fun _ => True := by
    refine Task.ensures_ofOutcome_bind (fun _ _ => trivial) fun ref href => ?_
    have hr := isSecure_reference ho (Outcome.ok_of_mapError href)
    refine Task.ensures_ofOutcome_bind (fun _ _ => trivial) fun ps hps => ?_
    refine Task.ensures_tell_bind (Task.ensures_bind (ensures_image hr) fun source _ => ?_)
    exact Task.ensures_tell_bind (Task.ensures_pure (isSecure_of_resolveLayers ho hr hps))
  refine Procedure.ensures_bind hsource fun a ha => ?_
  cases a with
  | error e => exact .done trivial
  | ok source =>
    have hbundle := ensures_bundle ha c.logger m path source.1.toImage
    have hserved := Procedure.ensures_through (fun _ => ensures_serve (c := c)) hbundle
    refine Procedure.ensures_bind hserved fun exported _ => ?_
    simp only
    split
    · exact .done trivial
    · exact Procedure.ensures_tell (.done trivial)

theorem confines_runCopy (ho : o.insecure = false) (source destination : String) :
    Confines (runCopy c o source destination) := by
  refine confines_ofOutcome_bind fun ref href => confines_tell_bind ?_
  have hr := isSecure_reference ho (Outcome.ok_of_mapError href)
  refine confines_ensures_bind (ensures_image hr) fun image himage => confines_tell_bind ?_
  have hsecure : image.repository.IsSecure := himage ▸ hr
  exact confines_push ho (isSecure_mountable (isSecure_toImage hsecure) ref)

theorem confines_runUpload (ho : o.insecure = false) (source destination : String) :
    Confines (runUpload c o source destination) := by
  refine confines_ofOutcome_bind fun p hp => ?_
  have hlayer := readsSecure_ofPinned (isSecure_pinned ho (Outcome.ok_of_mapError hp))
  refine confines_ensures_bind (ensures_reading hlayer) fun l hl => confines_tell_bind ?_
  exact confines_upload ho hl

theorem confined_of_noFile {t : Exchange Unit} (ht : Confines t) {a : Option Written × Outcome Unit}
    (h : Procedure.Yields (noFile t) xs a) : Confined xs := by
  obtain ⟨o, ys, zs, rfl, hy, hdone⟩ := Procedure.yields_bind.1 h
  obtain ⟨rfl, -⟩ := Procedure.yields_done.1 hdone
  rw [List.append_nil]
  exact ht ys o hy

theorem confined_of_runCommand (ho : o.insecure = false) {m : Machine} {command : Command}
    {a : Option Written × Outcome Unit} (h : Procedure.Yields (runCommand c m o command) xs a) :
    Confined xs := by
  cases command with
  | «export» image layers output =>
    exact confined_of_private ((ensures_runExport ho m image layers output).of_yields h).1
  | copy source destination => exact confined_of_noFile (confines_runCopy ho source destination) h
  | upload source destination => exact confined_of_noFile (confines_runUpload ho source destination) h

/-! ### Redirects -/

/-- Whether a request follows the answer before it, to a location that asks for plain http unless
the request before was not private already. -/
def LedOff (before : List Sent) (x : Sent) : Prop :=
  ∃ front z s, before = front ++ [z] ∧ z.2 = .response s ∧ Redirects z.1 s x.1 ∧
    (z.1.IsPrivate → ∃ text, s.location? = some text ∧ Url.asksPlain z.1.url text = true)

/-- Whether all requests that a library sends are private but those that a redirect has led off. -/
def PrivateUnlessLed (ws : List Sent) : Prop :=
  ∀ before y after, ws = before ++ y :: after → y.1.IsPrivate ∨ LedOff before y

/-- Whether all requests that a library sends are private but the uploads that an answer has
diverted, and those that a redirect has led off. -/
def Guarded (ws : List Sent) : Prop :=
  ∃ xs, Carried xs ws ∧ ∀ before y after, ws = before ++ y :: after →
    y.1.IsPrivate ∨ (∃ earlier x later, xs = earlier ++ x :: later ∧ Carried earlier before ∧
      y.1 = x.1 ∧ Diverted earlier x) ∨ LedOff before y

variable {ws before after : List Sent} {y : Sent}

theorem private_or_ledOff {front : List Sent} {z : Sent} {s : Response} (hz : z.2 = .response s)
    (hr : Redirects z.1 s y.1) : y.1.IsPrivate ∨ LedOff (front ++ [z]) y := by
  obtain ⟨text, u, htext, hjoin, hscheme, hhost, hport, -⟩ := hr.target
  cases ha : Url.asksPlain z.1.url text with
  | true => exact .inr ⟨front, z, s, rfl, hz, hr, fun _ => ⟨text, htext, ha⟩⟩
  | false =>
    by_cases hp : z.1.IsPrivate
    · have hserver : y.1.url.server = u.server := by
        simp only [Url.server, hscheme, hhost, hport]
      have hu := Url.isPrivate_of_join hp hjoin (hscheme ▸ hr.scheme) ha
      exact .inl ((Url.isPrivate_of_server hserver).trans hu)
    · exact .inr ⟨front, z, s, rfl, hz, hr, fun h => absurd h hp⟩

theorem guarded_of_confined (hc : Carried xs ws) (hx : Confined xs) : Guarded ws := by
  refine ⟨xs, hc, fun before y after h => ?_⟩
  obtain ⟨earlier, x, later, hxs, hearlier, hy⟩ | ⟨front, z, s, rfl, hz, hr⟩ := hc.led h
  · obtain hp | hd := hx earlier x later hxs
    · exact .inl (by rwa [hy])
    · exact .inr (.inl ⟨earlier, x, later, hxs, hearlier, hy, hd⟩)
  · exact (private_or_ledOff hz hr).imp id .inr

theorem privateUnlessLed_of_private (hc : Carried xs ws) (hx : ∀ x ∈ xs, x.1.IsPrivate) :
    PrivateUnlessLed ws := by
  intro before y after h
  obtain ⟨earlier, x, later, rfl, -, hy⟩ | ⟨front, z, s, rfl, hz, hr⟩ := hc.led h
  · exact .inl (hy ▸ hx x (List.mem_append_right _ (List.mem_cons_self ..)))
  · exact private_or_ledOff hz hr

/-! ### Runs of a library -/

variable {σ : Type} (lib : Library) (net : Network σ) (s : σ)

theorem guarded_run {α : Type} {p : Procedure Request (fun _ => Answer) α}
    (hp : ∀ xs a, p.Yields xs a → Confined xs) : Guarded (Event.exchanges (lib.run net s p).2.1) := by
  obtain ⟨xs, hy, hc⟩ := lib.carried_run net s p
  exact guarded_of_confined hc (hp xs _ hy)

theorem privateUnlessLed_run {α : Type} {Q : α → Prop} {p : Procedure Request (fun _ => Answer) α}
    (hp : p.Ensures Request.IsPrivate Q) :
    PrivateUnlessLed (Event.exchanges (lib.run net s p).2.1) := by
  obtain ⟨xs, hy, hc⟩ := lib.carried_run net s p
  exact privateUnlessLed_of_private hc (hp.of_yields hy).1

/-- Whatever the network answers, a run that is not insecure speaks https, or stays on this machine,
but for uploads to locations that ask for plain http, and for redirects that lead there. What is
fetched or exported is private as long as no redirect leads away, and so are commands and pushes as
long as no such location is answered either. -/
theorem plain_http_only_by_location (c : Client) (ho : o.insecure = false) :
    (∀ m command, Guarded (Event.exchanges (lib.run net s (runCommand c m o command)).2.1)) ∧
    (∀ i text, i.IsSecure → Guarded (Event.exchanges
      (lib.run net s (Push.push c.writer i text o).run).2.1)) ∧
    (∀ l text, l.IsSecure → Guarded (Event.exchanges
      (lib.run net s (Push.upload c.writer l text o).run).2.1)) ∧
    (∀ text ref, Reference.parse text o = .ok ref →
      PrivateUnlessLed (Event.exchanges (lib.run net s (c.image ref).run).2.1)) ∧
    (∀ text r, Repository.parse text o = .ok r → ∀ q : Call, q.repository = r →
      PrivateUnlessLed (Event.exchanges (lib.run net s (c.serve q)).2.1)) ∧
    (∀ m image layers path,
      PrivateUnlessLed (Event.exchanges (lib.run net s (runExport c m o image layers path)).2.1)) ∧
    ∀ v m path i ps, (∀ p ∈ ps, ∃ text, Pinned.parse text o = .ok p) →
      PrivateUnlessLed (Event.exchanges
        (lib.run net s ((Bundle.write v m ps path i).through c.serve)).2.1) := by
  refine ⟨fun m command => ?_, fun i text hi => ?_, fun l text hl => ?_, fun text ref href => ?_,
    fun text r hr q hq => ?_, fun m image layers path => ?_, fun v m path i ps hps => ?_⟩
  · exact guarded_run lib net s fun xs a h => confined_of_runCommand ho h
  · exact guarded_run lib net s (confines_push ho hi)
  · exact guarded_run lib net s (confines_upload ho hl)
  · exact privateUnlessLed_run lib net s (ensures_image (isSecure_reference ho href))
  · exact privateUnlessLed_run lib net s (ensures_serve (hq ▸ isSecure_repository ho hr))
  · exact privateUnlessLed_run lib net s (ensures_runExport ho m image layers path)
  · have hsecure : ∀ p ∈ ps, p.repository.IsSecure := by
      intro p hp
      obtain ⟨text, h⟩ := hps p hp
      exact isSecure_pinned ho h
    exact privateUnlessLed_run lib net s (Procedure.ensures_through (fun _ => ensures_serve)
      (ensures_bundle hsecure v m path i))

def diverting : List Answer :=
  [.response { status := 404 },
    .response
      { status := 202, headers := [("location", Bytes.ofText "http://uploads.example.com/s1")] },
    .response { status := 201 }]

def diverted :=
  Library.usual.run Network.scripted diverting
    (Push.upload (Client.writer { token := some "secret" }) heldLayer "ghcr.io/team/app" {}).run

theorem diverted_by_location :
    ({} : Options).insecure = false ∧ heldLayer.IsSecure ∧ diverted.1 = .ok () ∧
      ∃ before x, Event.exchanges diverted.2.1 = before ++ [x] ∧ ¬x.1.IsPrivate ∧
        Diverted before x := by
  have hrun : diverted.1 = .ok () ∧
      (∀ y ∈ Event.exchanges diverted.2.1, y.2.isRedirect = false) ∧
      (Event.exchanges diverted.2.1).getLast?.any (fun x => !x.1.url.isPrivate) = true := by
    decide +kernel
  obtain ⟨ho, hdirect, hlast⟩ := hrun
  obtain ⟨x, hx, hplain⟩ := (Option.any_eq_true ..).1 hlast
  have hl : heldLayer.IsSecure := trivial
  unfold diverted at ho hdirect hx ⊢
  obtain ⟨-, -, hupload, -⟩ := plain_http_only_by_location Library.usual Network.scripted diverting
    { token := some "secret" } (o := {}) rfl
  obtain ⟨xs, hc, hguarded⟩ := hupload heldLayer "ghcr.io/team/app" hl
  obtain ⟨before, hws⟩ := List.getLast?_eq_some_iff.1 hx
  have hn : ¬x.1.IsPrivate := by simpa [Request.IsPrivate] using hplain
  refine ⟨rfl, hl, ho, before, x, hws, hn, ?_⟩
  obtain hp | ⟨earlier, x', later, hxs, hearlier, hreq, hd⟩ | ⟨front, z, t, rfl, hz, hr, -⟩ :=
    hguarded before x [] hws
  · exact absurd hp hn
  · -- nothing was redirected, so what the client asked for is what was sent
    have hsame := hearlier.eq_of_direct fun y hy =>
      hdirect y (hws ▸ List.mem_append_left _ hy)
    obtain ⟨hmethod, y, hy, hpost, r, base, start, hb, hbase, hplace, haway, hstart⟩ := hd
    refine ⟨hreq ▸ hmethod, y, hsame ▸ hy, hpost, r, base, start, hb, hbase, hplace, haway, ?_⟩
    rw [hreq]
    exact hstart
  · have hdirectz := hdirect z (by rw [hws]; simp)
    simp [hz, Answer.isRedirect, hr.redirect] at hdirectz

/-- The token goes to another host in clear. -/
theorem token_in_clear :
    ({} : Options).insecure = false ∧ diverted.1 = .ok () ∧
      (Event.exchanges diverted.2.1).map
          (fun x => (x.1.method, x.1.url.scheme, x.1.url.host, x.1.authorization)) =
        [(.head, "https", some "ghcr.io", ["Bearer secret"]),
          (.post, "https", some "ghcr.io", ["Bearer secret"]),
          (.put, "http", some "uploads.example.com", ["Bearer secret"])] := by
  decide +kernel

end LayerTransfer.Http
