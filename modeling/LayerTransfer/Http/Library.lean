import LayerTransfer.Http.Message

namespace LayerTransfer.Http

def Status.isRedirect (s : Status) : Bool :=
  s == 301 || s == 302 || s == 303 || s == 307 || s == 308

def Answer.isRedirect : Answer → Bool
  | response s => s.status.isRedirect
  | failed .. => false

def Response.location? (r : Response) : Option String :=
  (r.header? "location").bind Bytes.text?

/-! ### Redirects -/

/-- What a library makes of a response. -/
inductive Reaction
  | handOver
  | follow (next : Request)
  | giveUp (text : String)
deriving DecidableEq, Repr

/-- A request that follows a redirect goes where the redirect leads, over the web, with none but the
authorizations that there were. It repeats a body at hand, or asks anew without one. -/
structure Redirects (q : Request) (s : Response) (next : Request) : Prop where
  redirect : s.status.isRedirect = true
  target : ∃ text u, s.location? = some text ∧ q.url.join text = .ok u ∧
    next.url.scheme = u.scheme ∧ next.url.host = u.host ∧ next.url.port = u.port ∧
    next.url.path = u.path ∧ next.url.query = u.query
  scheme : next.url.scheme = "http" ∨ next.url.scheme = "https"
  authorization : next.authorization ⊆ q.authorization
  body : next.method = q.method ∧ q.body.isHeld = true ∧ next.body = q.body ∨
    (next.method = .get ∨ next.method = .head ∧ q.method = .head) ∧ next.body = .held []

/-! ### Bodies -/

/-- What reaches a server of a body, and whether that is as much as was announced. -/
structure Delivery where
  octets : Bytes := []
  complete : Bool := true
deriving DecidableEq, Repr

def Delivery.cut : Nat → List Blob.Chunk → Delivery
  | 0, _ => {}
  | _ + 1, [] => { complete := false }
  | _ + 1, .failure _ :: _ | _ + 1, .interrupted _ :: _ => { complete := false }
  | n + 1, .data b :: r =>
    if n + 1 ≤ b.length then { octets := b.take (n + 1) }
    else
      let rest := cut (n + 1 - b.length) r
      { rest with octets := b ++ rest.octets }

theorem Delivery.octets_cut (n : Nat) (cs : List Blob.Chunk) :
    (cut n cs).octets = (Blob.Stream.delivered cs).take n := by
  induction cs generalizing n with
  | nil => cases n <;> simp [cut, Blob.Stream.delivered]
  | cons x r ih =>
    cases n with
    | zero => simp [cut]
    | succ n =>
      cases x with
      | failure text | interrupted text => simp [cut, Blob.Stream.delivered]
      | data b =>
        rw [cut, Blob.Stream.delivered, List.take_append]
        split
        · next hn =>
          have h0 : n + 1 - b.length = 0 := by omega
          simp [h0]
        · next hn =>
          rw [List.take_of_length_le (by omega)]
          simp only [ih]

/-! ### Libraries -/

/-- A library, as far as it is documented. It follows nothing but redirects, and of a body it sends
a front. -/
structure Library where
  react : Request → Response → Reaction
  deliver : Request → Delivery
  handsOver : ∀ {q s}, s.status.isRedirect = false → react q s = .handOver
  follows : ∀ {q s next}, react q s = .follow next → Redirects q s next
  fronts : ∀ q, (deliver q).octets <+: Blob.Stream.delivered q.body.chunks

namespace Library

def maxRedirects : Nat := 10

/-- Sends a request, and follows up to `left` redirects. -/
def follow (lib : Library) (left : Nat) (q : Request) :
    Procedure Request (fun _ => Answer) Answer :=
  .ask q fun
    | .failed f text => .done (.failed f text)
    | .response s =>
      match lib.react q s with
      | .handOver => .done (.response s)
      | .giveUp text => .done (.failed .broken text)
      | .follow next =>
        match left with
        | 0 => .done (.failed .broken ("error following redirect for url (" ++ q.url.text ++ ")"))
        | left + 1 => lib.follow left next

def carry (lib : Library) : Request → Procedure Request (fun _ => Answer) Answer :=
  lib.follow maxRedirects

def run {α σ : Type} (lib : Library) (net : Network σ) (s : σ)
    (p : Procedure Request (fun _ => Answer) α) : α × List (Event Request fun _ => Answer) × σ :=
  Procedure.run net s (p.through lib.carry)

end Library

def Library.CutsAtLength (lib : Library) : Prop :=
  ∀ q n, q.contentLength = some n → lib.deliver q = .cut n.toNat q.body.chunks

/-- Whether a server responds only behind the whole body that was announced. -/
def Network.AwaitsBodies {σ : Type} (net : Network σ) (lib : Library) : Prop :=
  ∀ s q r, (net s q).1 = .response r → (lib.deliver q).complete = true

/-- The network with its servers waiting for bodies. The connection breaks where they wait in vain.
-/
def Network.awaiting {σ : Type} (net : Network σ) (lib : Library) : Network σ := fun s q =>
  if (lib.deliver q).complete then net s q else (.failed .broken q.sendingFault, (net s q).2)

theorem Network.awaitsBodies_awaiting {σ : Type} (net : Network σ) (lib : Library) :
    (net.awaiting lib).AwaitsBodies lib := by
  intro s q r h
  unfold awaiting at h
  split at h
  · assumption
  · cases h

/-! ### The usual library -/

def knownPort (u : Url) : Option Nat :=
  u.port.or (Url.defaultPort? u.scheme)

/-- Authorizations go no further than the host and the port that they were meant for. -/
def Request.keptFor (q : Request) (u : Url) : List String :=
  if u.host = q.url.host ∧ knownPort u = knownPort q.url then q.authorization else []

def Request.target? (q : Request) (s : Response) : Option Url :=
  if s.status.isRedirect then s.location?.bind fun text => (q.url.join text).toOption else none

/-- A redirect of the older kind is followed by a request that only reads, and one of the newer kind
by the same request, if its body is at hand. -/
def Request.react (q : Request) (s : Response) : Reaction :=
  match q.target? s with
  | none => .handOver
  | some u =>
    if u.scheme ≠ "http" ∧ u.scheme ≠ "https" then
      .giveUp ("builder error for url (" ++ u.text ++ ")")
    else if s.status = 307 ∨ s.status = 308 then
      if q.body.isHeld then .follow { q with url := u, authorization := q.keptFor u } else .handOver
    else
      .follow
        { method := if q.method = .head then .head else .get
          url := u
          authorization := q.keptFor u
          accept := q.accept }

theorem Request.keptFor_subset (q : Request) (u : Url) : q.keptFor u ⊆ q.authorization := by
  unfold keptFor
  split
  · exact List.Subset.refl _
  · exact List.nil_subset _

theorem Request.target?_eq_some {q : Request} {s : Response} {u : Url} (h : q.target? s = some u) :
    s.status.isRedirect = true ∧ ∃ text, s.location? = some text ∧ q.url.join text = .ok u := by
  unfold target? at h
  split at h
  next hs =>
    obtain ⟨text, ht, hu⟩ := Option.bind_eq_some_iff.1 h
    refine ⟨hs, text, ht, ?_⟩
    cases hj : q.url.join text with
    | error f =>
      rw [hj] at hu
      cases hu
    | ok v =>
      rw [hj] at hu
      exact congrArg Except.ok (Option.some.inj hu)
  next => cases h

theorem Request.redirects_of_react {q next : Request} {s : Response}
    (h : q.react s = .follow next) : Redirects q s next := by
  unfold react at h
  split at h
  next => cases h
  next u hu =>
    obtain ⟨hs, text, ht, hj⟩ := target?_eq_some hu
    split at h
    next => cases h
    next hweb =>
    have hscheme : u.scheme = "http" ∨ u.scheme = "https" := by
      by_cases hh : u.scheme = "http"
      · exact .inl hh
      · exact .inr (Decidable.byContradiction fun hn => hweb ⟨hh, hn⟩)
    have htarget : ∃ text v, s.location? = some text ∧ q.url.join text = .ok v ∧
        u.scheme = v.scheme ∧ u.host = v.host ∧ u.port = v.port ∧ u.path = v.path ∧
        u.query = v.query := ⟨text, u, ht, hj, rfl, rfl, rfl, rfl, rfl⟩
    have hkept := q.keptFor_subset u
    split at h
    next =>
      split at h
      next hheld =>
        cases h
        exact ⟨hs, htarget, hscheme, hkept, .inl ⟨rfl, hheld, rfl⟩⟩
      next => cases h
    next =>
      cases h
      refine ⟨hs, htarget, hscheme, hkept, .inr ⟨?_, rfl⟩⟩
      by_cases hm : q.method = .head
      · exact .inr ⟨if_pos hm, hm⟩
      · exact .inl (if_neg hm)

/-- The library as it carries requests over connections on which a body ends at its announced
length. -/
def Library.usual : Library where
  react := Request.react
  deliver q :=
    match q.contentLength with
    | none => {}
    | some n => .cut n.toNat q.body.chunks
  handsOver := by
    intro q s hs
    simp [Request.react, Request.target?, hs]
  follows := Request.redirects_of_react
  fronts := by
    intro q
    cases q.contentLength with
    | none => exact List.nil_prefix
    | some n =>
      simp only [Delivery.octets_cut]
      exact List.take_prefix ..

theorem Library.cutsAtLength_usual : Library.usual.CutsAtLength := by
  intro q n h
  simp only [usual, h]

end LayerTransfer.Http
