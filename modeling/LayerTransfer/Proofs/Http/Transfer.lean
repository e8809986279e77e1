import LayerTransfer.Proofs.Http.Push

namespace LayerTransfer

namespace Url

def place (u : Url) : String × Option String × Option Nat × String :=
  (u.scheme, u.host, u.port, u.path)

end Url

namespace Http

open Name Transport Push

variable {c : Client} {r : Repository} {l : Layer} {base start : Url} {xs : List Sent}

/-! ### Addresses -/

theorem place_request (c : Client) (m : Method) (u : Url) :
    (c.request m u).url.place = u.place := by
  unfold Client.request
  simp only
  split <;> rfl

theorem pairs_request (c : Client) (m : Method) (u : Url) :
    (c.request m u).url.pairs = u.pairs := by
  rw [Url.pairs, Url.pairs, c.request_query]

def mountPairs (r : Repository) (l : Layer) : List (Bytes × Bytes) :=
  match mountSource l r with
  | none => []
  | some source =>
    [(Bytes.ofText "mount", Bytes.ofText l.digest.text),
      (Bytes.ofText "from", Bytes.ofText source.name)]

theorem opening_address (c : Client) (r : Repository) (l : Layer) (hq : base.query = none) :
    (c.opening r l base).url.place = base.place ∧
      (c.opening r l base).url.pairs = mountPairs r l ∧
      (mountSource l r = none → (c.opening r l base).url.query = none) := by
  have hp : base.pairs = [] := by rw [Url.pairs, hq]; rfl
  have hplace : (c.opening r l base).url.place = (openingUrl r l base).place := place_request ..
  have hpairs : (c.opening r l base).url.pairs = (openingUrl r l base).pairs := pairs_request ..
  have hquery : (c.opening r l base).url.query = (openingUrl r l base).query := c.request_query ..
  rw [hplace, hpairs, hquery]
  unfold openingUrl mountPairs
  cases mountSource l r with
  | none => exact ⟨rfl, hp, fun _ => hq⟩
  | some source =>
    refine ⟨rfl, ?_, by simp⟩
    simp only [Url.pairs_addPair, hp, List.nil_append, List.cons_append]

theorem sending_address (c : Client) (l : Layer) (start : Url) (size : UInt64)
    (stream : Blob.Stream) :
    (c.sending l start size stream).url.place = start.place ∧
      (c.sending l start size stream).url.pairs =
        start.pairs ++ [(Bytes.ofText "digest", Bytes.ofText l.digest.text)] := by
  refine ⟨place_request .., ?_⟩
  rw [← Url.pairs_addPair]
  exact pairs_request ..

/-! ### Outcomes -/

theorem not_accepted_of_missed {q : Request} {wanted : Status → Bool} {ys : List Sent}
    (hm : Missed q wanted ys) {narrow : Status → Bool}
    (hw : ∀ s, narrow s = true → wanted s = true) : ∀ x ∈ ys, ¬Accepted narrow x := by
  cases hm with
  | unsent => simp
  | refused a hq ha =>
    intro x hx
    rw [List.mem_singleton] at hx
    subst hx
    rintro ⟨s, hs, hn⟩
    exact ha ⟨s, hs, hw _ hn⟩

theorem Opened.mounted_iff {o : Outcome (Option Url)} (h : Opened c r l base xs o) :
    o = .ok none ↔ ∃ x ∈ xs, (mountSource l r).isSome = true ∧ Accepted (· == 201) x := by
  have h202 {s : Response} (hs : s.status = 202) (q : Request) :
      ¬Accepted (· == 201) ⟨q, .response s⟩ := by
    rintro ⟨t, ht, h201⟩
    cases ht
    simp [hs] at h201
  cases h with
  | missed e hm =>
    refine ⟨fun he => (by cases he), ?_⟩
    rintro ⟨x, hx, hsome, ha⟩
    have hw : ∀ s, (s == 201) = true → opensWith r l s = true := by
      obtain ⟨source, hr⟩ := Option.isSome_iff_exists.1 hsome
      simp [opensWith, hr]
    exact absurd ha (not_accepted_of_missed hm hw x hx)
  | mounted s source hq hr hs =>
    refine ⟨fun _ => ⟨_, List.mem_singleton_self _, by simp [hr], s, rfl, by simpa using hs⟩, ?_⟩
    exact fun _ => rfl
  | lost s e hq hs hl => simp [h202 hs]
  | session s start hq hs hl => simp [h202 hs]

theorem Sending.ok_iff {o : Outcome Unit} (h : Sending c l start xs o) :
    o = .ok () ↔ ∃ x ∈ xs, x.1.method = .put ∧ Accepted Status.isSuccess x := by
  obtain ⟨reads, hreads, ⟨rfl, ho⟩ | ⟨size, stream, a, rfl, ho, -⟩⟩ := h.split
  · refine ⟨fun h => absurd h ho, ?_⟩
    rintro ⟨x, hx, hput, -⟩
    exact absurd hput (ne_of_reading (hreads x hx)).2
  · rw [ho]
    constructor
    · intro ha
      exact ⟨_, List.mem_append_right _ (List.mem_singleton_self _), by simp, ha⟩
    · rintro ⟨x, hx, hput, ha⟩
      rcases List.mem_append.1 hx with hx | hx
      · exact absurd hput (ne_of_reading (hreads x hx)).2
      · rw [List.mem_singleton] at hx
        rwa [hx] at ha

theorem Opened.method {o : Outcome (Option Url)} (h : Opened c r l base xs o) :
    ∀ x ∈ xs, x.1.method = .post := by
  obtain ⟨rfl, -⟩ | ⟨a, rfl⟩ := h.request
  · simp
  · simp

theorem Sending.method {o : Outcome Unit} (h : Sending c l start xs o) :
    ∀ x ∈ xs, x.1.method ≠ .post := by
  obtain ⟨reads, hreads, ⟨rfl, -⟩ | ⟨size, stream, a, rfl, -⟩⟩ := h.split
  · exact fun x hx => (ne_of_reading (hreads x hx)).1
  · intro x hx
    rcases List.mem_append.1 hx with hx | hx
    · exact (ne_of_reading (hreads x hx)).1
    · simp [List.mem_singleton.1 hx]

/-- How a layer got to where it should be: it was there, was mounted, or was sent. -/
inductive Landed (r : Repository) (l : Layer) (xs : List Sent) : Prop
  | there (x : Sent) (hx : xs.head? = some x) (ha : Accepted Status.isSuccess x)
  | mounted (x : Sent) (hx : x ∈ xs) (hm : x.1.method = .post)
      (hr : (mountSource l r).isSome = true) (ha : Accepted (· == 201) x)
  | sent (x : Sent) (hx : x ∈ xs) (hm : x.1.method = .put) (ha : Accepted Status.isSuccess x)

theorem landed_of_missing {s : Response} {us vs : List Sent} {p : Outcome (Option Url)}
    (hs : s.status = 404) (ho : Opened c r l base us p) (hv : ∀ x ∈ vs, x.1.method ≠ .post) :
    Landed r l (⟨c.asking r l base, .response s⟩ :: (us ++ vs)) ↔
      p = .ok none ∨ ∃ x ∈ vs, x.1.method = .put ∧ Accepted Status.isSuccess x := by
  constructor
  · intro h
    -- the first exchange was answered 404, so it is none of the three ways
    cases h with
    | there x hx ha =>
      cases hx
      obtain ⟨t, ht, h200⟩ := ha
      cases ht
      simp [hs, Status.isSuccess] at h200
    | mounted x hx hm hr ha =>
      rcases List.mem_cons.1 hx with rfl | hx
      · simp at hm
      rcases List.mem_append.1 hx with hx | hx
      · exact .inl (ho.mounted_iff.2 ⟨x, hx, hr, ha⟩)
      · exact absurd hm (hv x hx)
    | sent x hx hm ha =>
      rcases List.mem_cons.1 hx with rfl | hx
      · simp at hm
      rcases List.mem_append.1 hx with hx | hx
      · simp [ho.method x hx] at hm
      · exact .inr ⟨x, hx, hm, ha⟩
  · rintro (hp | ⟨x, hx, hm, ha⟩)
    · obtain ⟨x, hx, hr, ha⟩ := ho.mounted_iff.1 hp
      have hmem := List.mem_cons_of_mem (⟨c.asking r l base, .response s⟩ : Sent)
        (List.mem_append_left vs hx)
      exact .mounted x hmem (ho.method x hx) hr ha
    · have hmem := List.mem_cons_of_mem (⟨c.asking r l base, .response s⟩ : Sent)
        (List.mem_append_right us hx)
      exact .sent x hmem hm ha

theorem landed_of_nothing_sent {s : Response} {us : List Sent} {p : Outcome (Option Url)}
    (hs : s.status = 404) (ho : Opened c r l base us p) :
    Landed r l (⟨c.asking r l base, .response s⟩ :: us) ↔ p = .ok none := by
  have hv : ∀ x ∈ ([] : List Sent), x.1.method ≠ .post := by simp
  simpa using landed_of_missing hs ho hv

theorem Course.ok_iff {o : Outcome Unit} (h : Course c r l base xs o) :
    o = .ok () ↔ Landed r l xs := by
  cases h with
  | unknown e hm =>
    refine ⟨fun he => (by cases he), fun h => ?_⟩
    cases h with
    | there x hx ha =>
      have hw : ∀ s, Status.isSuccess s = true → (Status.isSuccess s || s == 404) = true := by
        simp +contextual
      exact absurd ha (not_accepted_of_missed hm hw x (List.mem_of_mem_head? hx))
    | mounted x hx hpost => simp [hm.request x hx] at hpost
    | sent x hx hput => simp [hm.request x hx] at hput
  | there s hq hs => exact ⟨fun _ => .there _ rfl ⟨s, rfl, hs⟩, fun _ => rfl⟩
  | unopened s hq hs ho => simp [landed_of_nothing_sent hs ho]
  | mounted s hq hs ho => simp [landed_of_nothing_sent hs ho]
  | sent s hq hs ho hy =>
    rw [landed_of_missing hs ho hy.method, hy.ok_iff]
    simp

/-! ### Phases -/

/-- Whether an answer opens an upload that goes on at `start`. -/
def StartsAt (base start : Url) (a : Answer) : Prop :=
  ∃ s text, a = .response s ∧ s.status = 202 ∧ s.text? "location" = some text ∧
    base.join text = .ok start

/-- The exchanges of a layer in their order, by what they are for. -/
structure Phases (c : Client) (r : Repository) (l : Layer) (base : Url)
    (heads posts reads puts : List Sent) : Prop where
  /-- The layer is asked for once, unless HTTP cannot carry the request. -/
  asked : heads = [] ∧ (c.asking r l base).isSendable = false ∨
    ∃ a, heads = [⟨c.asking r l base, a⟩]
  /-- An upload is asked for once where the layer is missing, and else not at all. -/
  opened : posts = [] ∧
      ((c.opening r l base).isSendable = true → ∀ x ∈ heads, ¬Accepted (· == 404) x) ∨
    (∃ x, heads = [x] ∧ Accepted (· == 404) x) ∧ ∃ a, posts = [⟨c.opening r l base, a⟩]
  read : ∀ x ∈ reads, x.1.method = .head ∨ x.1.method = .get
  /-- Nothing is read or sent unless an upload has been opened. -/
  sent : reads ++ puts = [] ∨ ∃ a start, posts = [⟨c.opening r l base, a⟩] ∧
    StartsAt base start a ∧
    (puts = [] ∨ ∃ size stream b, puts = [⟨c.sending l start size stream, b⟩])

theorem startsAt_of_location {s : Response} (hs : s.status = 202)
    (hl : location base r s = .ok start) : StartsAt base start (.response s) := by
  simp only [location] at hl
  split at hl
  · cases hl
  · next text ht => exact ⟨s, text, rfl, hs, ht, Outcome.ok_of_mapError hl⟩

theorem phases_of_missing {s : Response} {us reads puts : List Sent} {p : Outcome (Option Url)}
    (hs : s.status = 404) (ho : Opened c r l base us p)
    (hr : ∀ x ∈ reads, x.1.method = .head ∨ x.1.method = .get)
    (hp : reads ++ puts = [] ∨ ∃ a start, us = [⟨c.opening r l base, a⟩] ∧ StartsAt base start a ∧
      (puts = [] ∨ ∃ size stream b, puts = [⟨c.sending l start size stream, b⟩])) :
    Phases c r l base [⟨c.asking r l base, .response s⟩] us reads puts where
  asked := .inr ⟨_, rfl⟩
  opened := by
    obtain ⟨rfl, hq⟩ | ⟨a, rfl⟩ := ho.request
    · exact .inl ⟨rfl, fun h => by simp [hq] at h⟩
    · exact .inr ⟨⟨_, rfl, s, rfl, by simpa using hs⟩, a, rfl⟩
  read := hr
  sent := hp

theorem Course.phases {o : Outcome Unit} (h : Course c r l base xs o) :
    ∃ heads posts reads puts, xs = heads ++ posts ++ reads ++ puts ∧
      Phases c r l base heads posts reads puts := by
  cases h with
  | unknown e hm =>
    refine ⟨xs, [], [], [], by simp, ?_, .inl ⟨rfl, fun _ => ?_⟩, by simp, .inl rfl⟩
    · cases hm with
      | unsent hq => exact .inl ⟨rfl, hq⟩
      | refused a => exact .inr ⟨a, rfl⟩
    · -- an answer of 404 would have been one of the wanted ones
      have hw : ∀ s, (s == 404) = true → (Status.isSuccess s || s == 404) = true := by
        simp +contextual
      exact not_accepted_of_missed hm hw
  | there s hq hs =>
    refine ⟨[⟨c.asking r l base, .response s⟩], [], [], [], by simp, .inr ⟨_, rfl⟩,
      .inl ⟨rfl, fun _ => ?_⟩, by simp, .inl rfl⟩
    intro x hx
    rw [List.mem_singleton] at hx
    subst hx
    rintro ⟨t, ht, h404⟩
    cases ht
    have h404 : s.status = 404 := by simpa using h404
    simp [h404, Status.isSuccess] at hs
  | unopened s hq hs ho =>
    exact ⟨_, _, [], [], by simp, phases_of_missing hs ho (by simp) (.inl rfl)⟩
  | mounted s hq hs ho =>
    exact ⟨_, _, [], [], by simp, phases_of_missing hs ho (by simp) (.inl rfl)⟩
  | @sent us vs start _ s hq hs ho hy =>
    -- of all ways to ask for an upload only a session yields where it starts
    obtain ⟨a, rfl, hstart⟩ : ∃ a, us = [⟨c.opening r l base, a⟩] ∧ StartsAt base start a := by
      cases ho with
      | session t start hq' h202 hl => exact ⟨_, rfl, startsAt_of_location h202 hl⟩
    obtain ⟨reads, hreads, ⟨rfl, -⟩ | ⟨size, stream, b, rfl, -⟩⟩ := hy.split
    · exact ⟨_, _, vs, [], by simp, phases_of_missing hs ho hreads
        (.inr ⟨a, start, rfl, hstart, .inl rfl⟩)⟩
    · exact ⟨_, _, reads, _, by simp, phases_of_missing hs ho hreads
        (.inr ⟨a, start, rfl, hstart, .inr ⟨size, stream, b, rfl⟩⟩)⟩

/-! ### One layer -/

variable {σ : Type}

/-- Whatever the registry answers, a layer takes one of the courses into a repository that has an
address. It is asked for first. Only where it is missing is an upload asked for, with a mount where
there is a source, and only where an upload has been opened is the layer read and sent, to the
location that the registry named. It succeeds exactly if the layer was there, was mounted, or was
sent and accepted. The library sends nothing else, unless it is redirected. -/
theorem missing_layer_moves (lib : Library) (c : Client) (net : Network σ) (s : σ) (l : Layer)
    {ws : List Sent} {o : Outcome Unit} (hb : endpoint r uploadsPath = .ok base)
    (hws : Event.exchanges (lib.run net s (c.writeLayer r l).run).2.1 = ws)
    (ho : (lib.run net s (c.writeLayer r l).run).1 = o) :
    ∃ xs, Carried xs ws ∧ ((∀ y ∈ ws, y.2.isRedirect = false) → ws = xs) ∧ Course c r l base xs o ∧
      (∃ heads posts reads puts, xs = heads ++ posts ++ reads ++ puts ∧
        Phases c r l base heads posts reads puts) ∧
      (o = .ok () ↔ Landed r l xs) ∧
      ((c.opening r l base).url.place = base.place ∧
        (c.opening r l base).url.pairs = mountPairs r l ∧
        (mountSource l r = none → (c.opening r l base).url.query = none)) ∧
      ∀ start size stream, (c.sending l start size stream).url.place = start.place ∧
        (c.sending l start size stream).url.pairs =
          start.pairs ++ [(Bytes.ofText "digest", Bytes.ofText l.digest.text)] := by
  obtain ⟨xs, hy, hc⟩ := lib.carried_run net s (c.writeLayer r l).run
  rw [hws] at hc
  rw [ho] at hy
  obtain ⟨-, hn, -⟩ | ⟨base', hb', hcourse⟩ := course_of_yields_writeLayer hy
  · exact absurd hb (hn base)
  cases hb.symm.trans hb'
  have hq := (parts_of_endpoint isPlainPath_uploadsPath hb).2
  exact ⟨xs, hc, hc.eq_of_direct, hcourse, hcourse.phases, hcourse.ok_iff, opening_address c r l hq,
    sending_address c l⟩

def heldLayer : Layer where
  blob := .held [1, 2, 3] listedLayer.digest listedLayer.mediaType
  origin := some siteReference

def copyBase : Url :=
  { scheme := "http", host := some "[::1]", port := some 5000, path := "/v2/web/copy/blobs/uploads/" }

theorem endpoint_copy : endpoint copyReference.repository uploadsPath = .ok copyBase := by rfl

/-- The layer is missing, its mount is declined, and it is sent to a location with a query. -/
def declining : List Answer :=
  [.response { status := 404 },
    .response
      { status := 202, headers := [("location", Bytes.ofText "session?_state=a%20b")] },
    .response { status := 201 }]

def declined :=
  Library.usual.run Network.scripted declining
    (Client.writeLayer {} copyReference.repository heldLayer).run

theorem declined_layer_moves :
    endpoint copyReference.repository uploadsPath = .ok copyBase ∧
      declined.1 = .ok () ∧
      (Event.exchanges declined.2.1).map (fun x => (x.1.method, x.1.url.path, x.1.url.query)) =
        [(.head, "/v2/web/copy/blobs/" ++ heldLayer.digest.text, none),
          (.post, "/v2/web/copy/blobs/uploads/",
            some ("mount=sha256%3A" ++ heldLayer.digest.hex ++ "&from=web%2Fsite")),
          (.put, "/v2/web/copy/blobs/uploads/session",
            some ("_state=a%20b&digest=sha256%3A" ++ heldLayer.digest.hex))] ∧
      ∃ xs, Carried xs (Event.exchanges declined.2.1) ∧
        Course {} copyReference.repository heldLayer copyBase xs (.ok ()) ∧
        Landed copyReference.repository heldLayer xs := by
  have hb := endpoint_copy
  have hrun : declined.1 = .ok () ∧
      (Event.exchanges declined.2.1).map (fun x => (x.1.method, x.1.url.path, x.1.url.query)) =
        [(.head, "/v2/web/copy/blobs/" ++ heldLayer.digest.text, none),
          (.post, "/v2/web/copy/blobs/uploads/",
            some ("mount=sha256%3A" ++ heldLayer.digest.hex ++ "&from=web%2Fsite")),
          (.put, "/v2/web/copy/blobs/uploads/session",
            some ("_state=a%20b&digest=sha256%3A" ++ heldLayer.digest.hex))] := by
    decide +kernel
  obtain ⟨ho, hxs⟩ := hrun
  unfold declined at ho hxs ⊢
  obtain ⟨xs, hc, -, hcourse, -, hiff, -⟩ :=
    missing_layer_moves Library.usual {} Network.scripted declining heldLayer hb rfl ho
  exact ⟨hb, ho, hxs, xs, hc, hcourse, hiff.1 rfl⟩

def unsendable :=
  Library.usual.run Network.scripted [.response { status := 200 }]
    (Client.writeLayer { token := some "bad\ntoken" } copyReference.repository heldLayer).run

def redirected :=
  Library.usual.run Network.scripted
    [.response { status := 307, headers := [("location", Bytes.ofText "elsewhere")] },
      .response { status := 200 }]
    (Client.writeLayer {} copyReference.repository heldLayer).run

/-- A token that no header field can hold keeps even the first request from being sent, and a
redirect has it sent twice. -/
theorem layer_is_not_asked_for_once :
    endpoint copyReference.repository uploadsPath = .ok copyBase ∧
      (Event.exchanges unsendable.2.1).length = 0 ∧ unsendable.1 ≠ .ok () ∧
      (Event.exchanges redirected.2.1).map (fun x => (x.1.method, x.1.url.path)) =
        [(.head, "/v2/web/copy/blobs/" ++ heldLayer.digest.text),
          (.head, "/v2/web/copy/blobs/elsewhere")] ∧ redirected.1 = .ok () := by
  have hrun : (Event.exchanges unsendable.2.1).length = 0 ∧ unsendable.1 ≠ .ok () ∧
      (Event.exchanges redirected.2.1).map (fun x => (x.1.method, x.1.url.path)) =
        [(.head, "/v2/web/copy/blobs/" ++ heldLayer.digest.text),
          (.head, "/v2/web/copy/blobs/elsewhere")] ∧ redirected.1 = .ok () := by
    decide +kernel
  exact ⟨endpoint_copy, hrun⟩

end Http

end LayerTransfer
