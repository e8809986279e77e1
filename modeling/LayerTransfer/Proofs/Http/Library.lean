import LayerTransfer.Http.Library
import LayerTransfer.Proofs.Http.Client

namespace LayerTransfer.Http

/-! ### Trails -/

/-- The exchanges in which a library carries one exchange of a client. It follows `n` redirects at
most, and the client gets the last answer or none. -/
inductive Trail : Nat → Sent → List Sent → Prop
  | failed (n : Nat) (q : Request) (f : Failure) (text : String) :
      Trail n ⟨q, .failed f text⟩ [⟨q, .failed f text⟩]
  | handedOver (n : Nat) (q : Request) (s : Response) : Trail n ⟨q, .response s⟩ [⟨q, .response s⟩]
  | givenUp (n : Nat) (q : Request) {s : Response} (text : String)
      (h : s.status.isRedirect = true) : Trail n ⟨q, .failed .broken text⟩ [⟨q, .response s⟩]
  | followed {n : Nat} {q next : Request} {s : Response} {a : Answer} {us : List Sent}
      (h : Redirects q s next) (hu : Trail n ⟨next, a⟩ us) :
      Trail (n + 1) ⟨q, a⟩ (⟨q, .response s⟩ :: us)

variable {lib : Library} {n : Nat} {q : Request} {a : Answer} {x y : Sent} {xs ys us ws : List Sent}

theorem Library.isRedirect_of_giveUp {s : Response} {text : String}
    (h : lib.react q s = .giveUp text) : s.status.isRedirect = true := by
  cases hs : s.status.isRedirect with
  | true => rfl
  | false =>
    rw [lib.handsOver hs] at h
    cases h

theorem yields_follow (h : Procedure.Yields (lib.follow n q) us a) :
    (∃ answer, us = [⟨q, answer⟩] ∧ Trail n ⟨q, a⟩ us) ∨
      ∃ m next s ys, n = m + 1 ∧ us = ⟨q, .response s⟩ :: ys ∧ Redirects q s next ∧
        Procedure.Yields (lib.follow m next) ys a := by
  rw [Library.follow.eq_def] at h
  obtain ⟨answer, ys, rfl, hr⟩ := Procedure.yields_ask.1 h
  cases answer with
  | failed f text =>
    obtain ⟨rfl, rfl⟩ := Procedure.yields_done.1 hr
    exact .inl ⟨_, rfl, .failed n q f text⟩
  | response s =>
    simp only at hr
    split at hr
    next =>
      obtain ⟨rfl, rfl⟩ := Procedure.yields_done.1 hr
      exact .inl ⟨_, rfl, .handedOver n q s⟩
    next text hg =>
      obtain ⟨rfl, rfl⟩ := Procedure.yields_done.1 hr
      exact .inl ⟨_, rfl, .givenUp n q text (lib.isRedirect_of_giveUp hg)⟩
    next next hf =>
      have hs := lib.follows hf
      cases n with
      | zero =>
        obtain ⟨rfl, rfl⟩ := Procedure.yields_done.1 hr
        exact .inl ⟨_, rfl, .givenUp 0 q _ hs.redirect⟩
      | succ m => exact .inr ⟨m, next, s, ys, rfl, rfl, hs, hr⟩

theorem trail_of_yields (h : Procedure.Yields (lib.follow n q) us a) : Trail n ⟨q, a⟩ us := by
  induction n generalizing q us with
  | zero =>
    obtain ⟨-, -, ht⟩ | ⟨m, -, -, -, hm, -⟩ := yields_follow h
    · exact ht
    · cases hm
  | succ n ih =>
    obtain ⟨-, -, ht⟩ | ⟨m, next, s, ys, hm, rfl, hs, hy⟩ := yields_follow h
    · exact ht
    · cases hm
      exact .followed hs (ih hy)

namespace Trail

theorem eq_cons (h : Trail n x us) : ∃ answer rest, us = ⟨x.1, answer⟩ :: rest := by
  cases h with
  | failed | handedOver | givenUp | followed => exact ⟨_, _, rfl⟩

theorem length_le (h : Trail n x us) : us.length ≤ n + 1 := by
  induction h with
  | failed | handedOver | givenUp => simp
  | followed _ _ ih => exact Nat.succ_le_succ ih

theorem eq_of_direct (h : Trail n x us) (hd : ∀ y ∈ us, y.2.isRedirect = false) :
    us = [x] := by
  cases h with
  | failed | handedOver => rfl
  | givenUp _ _ _ hs =>
    have hn := hd _ (List.mem_singleton_self _)
    simp [Answer.isRedirect, hs] at hn
  | followed hs =>
    have hn := hd _ (List.mem_cons_self ..)
    simp [Answer.isRedirect, hs.redirect] at hn

theorem forall_request {P : Request → Prop}
    (hP : ∀ q s next, P q → Redirects q s next → P next) (h : Trail n x us) (hx : P x.1) :
    ∀ y ∈ us, P y.1 := by
  induction h with
  | failed | handedOver | givenUp => simpa using hx
  | followed hs _ ih => exact List.forall_mem_cons.2 ⟨hx, ih (hP _ _ _ hx hs)⟩

theorem answered {s : Response} (h : Trail n x us) (hx : x.2 = .response s) :
    (∀ y ∈ us, ∃ t, y.2 = .response t) ∧ us.getLast?.map (·.2) = some (.response s) := by
  induction h with
  | failed => cases hx
  | givenUp => cases hx
  | handedOver n q t =>
    cases hx
    exact ⟨by simp, rfl⟩
  | @followed n q next t a us hs hu ih =>
    obtain ⟨hall, hlast⟩ := ih hx
    refine ⟨List.forall_mem_cons.2 ⟨⟨t, rfl⟩, hall⟩, ?_⟩
    obtain ⟨answer, rest, rfl⟩ := hu.eq_cons
    rwa [List.getLast?_cons_cons]

/-- Every request but the first follows the answer before it. -/
theorem led {before after : List Sent} (h : Trail n x us) (hs : us = before ++ y :: after) :
    before = [] ∧ y.1 = x.1 ∨ ∃ front z s, before = front ++ [z] ∧ z.2 = .response s ∧
      Redirects z.1 s y.1 := by
  induction h generalizing before with
  | failed | handedOver | givenUp =>
    cases before with
    | nil =>
      obtain ⟨rfl, -⟩ := List.cons.inj hs
      exact .inl ⟨rfl, rfl⟩
    | cons => simp at hs
  | @followed n q next s a us hr hu ih =>
    cases before with
    | nil =>
      obtain ⟨rfl, -⟩ := List.cons.inj hs
      exact .inl ⟨rfl, rfl⟩
    | cons b before =>
      obtain ⟨rfl, htail⟩ := List.cons.inj hs
      obtain ⟨rfl, hy⟩ | ⟨front, z, t, rfl, hz, hy⟩ := ih htail
      · exact .inr ⟨[], _, s, rfl, rfl, hy ▸ hr⟩
      · exact .inr ⟨_ :: front, z, t, rfl, hz, hy⟩

end Trail

/-! ### Whole runs -/

/-- Exchanges of a client, and the exchanges of the library that carries them. -/
inductive Carried : List Sent → List Sent → Prop
  | nil : Carried [] []
  | cons {x : Sent} {xs us ws : List Sent} (hx : Trail Library.maxRedirects x us)
      (hxs : Carried xs ws) : Carried (x :: xs) (us ++ ws)

theorem carried_of_expands (h : Procedure.Expands lib.carry xs ws) : Carried xs ws := by
  induction h with
  | nil => exact .nil
  | cons hx _ ih => exact .cons (trail_of_yields hx) ih

/-- What a library does in a run of a client is to carry what the client does. -/
theorem Library.carried_run {α σ : Type} (lib : Library) (net : Network σ) (s : σ)
    (p : Procedure Request (fun _ => Answer) α) :
    ∃ xs, Procedure.Yields p xs (lib.run net s p).1 ∧
      Carried xs (Event.exchanges (lib.run net s p).2.1) := by
  obtain ⟨xs, hp, hxs⟩ := Procedure.expands_of_yields_through
    (Procedure.yields_run net s (p.through lib.carry))
  exact ⟨xs, hp, carried_of_expands hxs⟩

namespace Carried

theorem single (h : Carried [x] ws) : Trail Library.maxRedirects x ws := by
  cases h with
  | cons hx hxs =>
    cases hxs
    rwa [List.append_nil]

theorem split (h : Carried (xs ++ ys) ws) :
    ∃ us vs, ws = us ++ vs ∧ Carried xs us ∧ Carried ys vs := by
  induction xs generalizing ws with
  | nil => exact ⟨[], ws, rfl, .nil, h⟩
  | cons x xs ih =>
    cases h with
    | cons hx hxs =>
      obtain ⟨us, vs, rfl, hus, hvs⟩ := ih hxs
      exact ⟨_ ++ us, vs, (List.append_assoc ..).symm, .cons hx hus, hvs⟩

/-- Where no server redirects, what is sent is what the client asks for. -/
theorem eq_of_direct (h : Carried xs ws) (hd : ∀ y ∈ ws, y.2.isRedirect = false) :
    ws = xs := by
  induction h with
  | nil => rfl
  | cons hx _ ih =>
    obtain ⟨hus, hws⟩ := List.forall_mem_append.1 hd
    rw [hx.eq_of_direct hus, ih hws, List.singleton_append]

theorem length_le (h : Carried xs ws) :
    ws.length ≤ (Library.maxRedirects + 1) * xs.length := by
  induction h with
  | nil => simp
  | cons hx _ ih =>
    have hlength := hx.length_le
    rw [List.length_append, List.length_cons, Nat.mul_succ]
    omega

theorem forall_request {P : Request → Prop}
    (hP : ∀ q s next, P q → Redirects q s next → P next) (h : Carried xs ws)
    (hxs : ∀ x ∈ xs, P x.1) : ∀ y ∈ ws, P y.1 := by
  induction h with
  | nil => simp
  | cons hx _ ih =>
    obtain ⟨hfirst, hrest⟩ := List.forall_mem_cons.1 hxs
    exact List.forall_mem_append.2 ⟨hx.forall_request hP hfirst, ih hrest⟩

/-- A request that the client did not ask for follows the answer before it. -/
theorem led {before after : List Sent} (h : Carried xs ws) (hs : ws = before ++ y :: after) :
    (∃ earlier x later, xs = earlier ++ x :: later ∧ Carried earlier before ∧ y.1 = x.1) ∨
      ∃ front z s, before = front ++ [z] ∧ z.2 = .response s ∧ Redirects z.1 s y.1 := by
  induction h generalizing before with
  | nil => simp at hs
  | @cons x xs us ws hx hxs ih =>
    obtain ⟨more, rfl, hws⟩ | ⟨more, hus, hy⟩ := List.append_eq_append_iff.1 hs
    · -- the request stands behind the first trail
      obtain ⟨earlier, z, later, rfl, hearlier, hz⟩ | ⟨front, z, t, rfl, hz, hred⟩ := ih hws
      · exact .inl ⟨x :: earlier, z, later, rfl, .cons hx hearlier, hz⟩
      · exact .inr ⟨us ++ front, z, t, by rw [List.append_assoc], hz, hred⟩
    · cases more with
      | nil =>
        rw [List.append_nil] at hus
        subst hus
        obtain ⟨earlier, z, later, rfl, hearlier, hz⟩ | ⟨front, z, t, hnil, -⟩ :=
          @ih [] hy.symm
        · refine .inl ⟨x :: earlier, z, later, rfl, ?_, hz⟩
          have hc := Carried.cons hx hearlier
          rwa [List.append_nil] at hc
        · simp at hnil
      | cons z more =>
        obtain ⟨rfl, -⟩ := List.cons.inj hy
        obtain ⟨rfl, hz⟩ | hred := hx.led hus
        · exact .inl ⟨[], x, xs, rfl, .nil, hz⟩
        · exact .inr hred

end Carried

end LayerTransfer.Http
