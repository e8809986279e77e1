import LayerTransfer.Proofs.Http.Ensures
import LayerTransfer.Proofs.Http.Transfer

namespace LayerTransfer

namespace Http

open Name Transport Push

inductive Errand
  | find
  | claim
  | weigh
  | read
  | send

inductive Aim
  | layer (l : Layer) (e : Errand)
  | publish

end Http

open Http in
def Blob.readings : Blob → List Errand
  | held .. => []
  | remote .. => [.weigh, .read]

open Http in
def Layer.aims (l : Layer) : List Aim :=
  (.find :: .claim :: (l.blob.readings ++ [.send])).map (.layer l)

def Image.blobs (i : Image) : List Layer :=
  i.layers.toOption.getD [] ++ i.configLayer.toOption.toList

def Image.aims (i : Image) : List Http.Aim :=
  i.blobs.flatMap Layer.aims ++ [.publish]

/-- Whether an error is the answer of an image that it was asked for in a push. -/
def Image.Withholds (i : Image) (e : TransferError) : Prop :=
  i.layers = .error e ∨ i.configLayer = .error e ∨ i.rawManifest = .error e ∨ i.mediaType = .error e

namespace Http

open Name Transport Push

variable {c : Client} {ref : Reference} {i : Image} {a : Aim} {as plan more : List Aim} {x : Sent}
  {xs ys : List Sent} {o : Outcome Unit} {e : TransferError}

namespace Aim

/-- The request that an aim makes. -/
def Serves (c : Client) (ref : Reference) (x : Sent) : Aim → Prop
  | layer l .find => ∃ u, endpoint ref.repository (blobPath l.digest) = .ok u ∧
      x.1 = c.request .head u
  | layer l .claim => ∃ base, endpoint ref.repository uploadsPath = .ok base ∧
      x.1 = c.opening ref.repository l base
  | layer l .weigh => ∃ source listed u, l.blob = .remote source l.digest listed ∧
      endpoint source (blobPath l.digest) = .ok u ∧ x.1 = c.request .head u
  | layer l .read => ∃ source listed u, l.blob = .remote source l.digest listed ∧
      endpoint source (blobPath l.digest) = .ok u ∧ x.1 = c.request .get u
  | layer l .send => ∃ start size stream, x.1 = c.sending l start size stream
  | publish => IsManifestPut c ref x

/-- The answers on which a push goes on. -/
def Accepts (ref : Reference) (x : Sent) : Aim → Prop
  | layer _ .find => Accepted (fun s => Status.isSuccess s || s == 404) x
  | layer l .claim =>
      (mountSource l ref.repository).isSome = true ∧ Accepted (· == 201) x ∨
        ∃ base start, endpoint ref.repository uploadsPath = .ok base ∧ StartsAt base start x.2
  | layer _ .weigh => ∃ s n, x.2 = .response s ∧ Status.isSuccess s.status = true ∧
      (s.text? "content-length").bind Decimal.parseU64 = some n
  | layer _ .read => Accepted Status.isSuccess x
  | layer _ .send => Accepted Status.isSuccess x
  | publish => Accepted Status.isSuccess x

/-- Whether an answer leaves nothing more to do for the layer: it is there, or is mounted. -/
def settles : Aim → Answer → Bool
  | layer _ .find, .response s => Status.isSuccess s.status
  | layer _ .claim, .response s => s.status == 201
  | _, _ => false

def continues : Aim → Bool
  | layer _ .find | publish => false
  | layer .. => true

/-- What is left of a plan behind an aim. -/
def rest (a : Aim) (answer : Answer) (as : List Aim) : List Aim :=
  if a.settles answer then as.dropWhile continues else as

/-- How an aim fails: with an error of the registry, reported for the layer if there is one. -/
def Blames (e : TransferError) : Aim → Prop
  | layer l _ => ∃ cause, e = .layer l.digest.text cause ∧ cause.IsRegistry
  | publish => e.IsRegistry

theorem rest_sublist (a : Aim) (answer : Answer) (as : List Aim) :
    (a.rest answer as).Sublist as := by
  unfold rest
  split
  · exact List.dropWhile_sublist _
  · exact List.Sublist.refl _

theorem rest_append {answer : Answer} (h : more.dropWhile continues = more) :
    a.rest answer (as ++ more) = a.rest answer as ++ more := by
  unfold rest
  split
  · rw [List.dropWhile_append, h]
    split
    next hd => rw [List.isEmpty_iff.1 hd, List.nil_append]
    next => rfl
  · rfl

end Aim

/-! ### Turns -/

/-- An exchange with what it is for. -/
structure Turn where
  aim : Aim
  sent : Sent

/-- Exchanges in the order of a plan. -/
def turns : List Aim → List Sent → List Turn
  | a :: as, x :: xs => ⟨a, x⟩ :: turns (a.rest x.2 as) xs
  | _, _ => []

/-- What exchanges leave of a plan. -/
def ahead : List Aim → List Sent → List Aim
  | a :: as, x :: xs => ahead (a.rest x.2 as) xs
  | as, _ => as

@[simp] theorem turns_nil : turns plan [] = [] := by cases plan <;> rfl

@[simp] theorem turns_cons :
    turns (a :: as) (x :: xs) = ⟨a, x⟩ :: turns (a.rest x.2 as) xs := rfl

@[simp] theorem ahead_nil : ahead plan [] = plan := by cases plan <;> rfl

theorem turns_sublist (plan : List Aim) (xs : List Sent) :
    ((turns plan xs).map (·.aim) ++ ahead plan xs).Sublist plan := by
  induction xs generalizing plan with
  | nil => simp
  | cons x xs ih =>
    cases plan with
    | nil => exact List.Sublist.refl _
    | cons a as => exact ((ih _).trans (a.rest_sublist x.2 as)).cons_cons a

/-! ### Runs -/

/-- The runs of a push: each aim is answered acceptably, or else ends the run with an error. An
image that withholds something ends it, too. -/
inductive Follows (c : Client) (ref : Reference) (i : Image) :
    List Aim → List Sent → Outcome Unit → Prop
  | done : Follows c ref i [] [] (.ok ())
  | withheld {plan : List Aim} {e : TransferError} (h : i.Withholds e) :
      Follows c ref i plan [] (.error e)
  | unsent {a : Aim} {as : List Aim} {e : TransferError} (he : a.Blames e) :
      Follows c ref i (a :: as) [] (.error e)
  | refused {a : Aim} {as : List Aim} {x : Sent} {e : TransferError} (hx : a.Serves c ref x)
      (ha : ¬a.Accepts ref x) (he : a.Blames e) : Follows c ref i (a :: as) [x] (.error e)
  | accepted {a : Aim} {as : List Aim} {x : Sent} {xs : List Sent} {o : Outcome Unit}
      (hx : a.Serves c ref x) (ha : a.Accepts ref x) (h : Follows c ref i (a.rest x.2 as) xs o) :
      Follows c ref i (a :: as) (x :: xs) o

theorem Follows.append_error (h : Follows c ref i plan xs (.error e))
    (hm : more.dropWhile Aim.continues = more) : Follows c ref i (plan ++ more) xs (.error e) := by
  generalize ho : (.error e : Outcome Unit) = o at h
  induction h with
  | done => cases ho
  | withheld h => exact .withheld h
  | unsent he => exact .unsent he
  | refused hx ha he => exact .refused hx ha he
  | accepted hx ha _ ih => exact .accepted hx ha (Aim.rest_append hm ▸ ih ho)

theorem Follows.append (h : Follows c ref i plan xs (.ok ()))
    (hm : more.dropWhile Aim.continues = more) (h' : Follows c ref i more ys o) :
    Follows c ref i (plan ++ more) (xs ++ ys) o := by
  generalize ho : (.ok () : Outcome Unit) = p at h
  induction h with
  | done => exact h'
  | withheld | unsent | refused => cases ho
  | accepted hx ha _ ih => exact .accepted hx ha (Aim.rest_append hm ▸ ih ho)

theorem Follows.turns (h : Follows c ref i plan xs o) :
    (turns plan xs).map (·.sent) = xs ∧ ∀ t ∈ turns plan xs, t.aim.Serves c ref t.sent := by
  induction h with
  | done => simp
  | withheld => simp
  | unsent => simp
  | refused hx => simpa using hx
  | accepted hx _ _ ih =>
    obtain ⟨hsent, hserves⟩ := ih
    exact ⟨congrArg (_ :: ·) hsent, List.forall_mem_cons.2 ⟨hx, hserves⟩⟩

/-- Whoever is refused is the last one to send something. -/
theorem Follows.ends (h : Follows c ref i plan xs o) {before after : List Turn} {t : Turn}
    (ht : Http.turns plan xs = before ++ t :: after) (hn : ¬t.aim.Accepts ref t.sent) :
    after = [] ∧ ∃ e, o = .error e ∧ t.aim.Blames e := by
  induction h generalizing before with
  | done => simp at ht
  | withheld => simp at ht
  | unsent => simp at ht
  | refused hx ha he =>
    simp only [turns_cons, turns_nil] at ht
    cases before with
    | nil =>
      obtain ⟨rfl, rfl⟩ := List.cons.inj ht
      exact ⟨rfl, _, rfl, he⟩
    | cons b before => simp at ht
  | accepted hx ha _ ih =>
    rw [turns_cons] at ht
    cases before with
    | nil =>
      obtain ⟨rfl, -⟩ := List.cons.inj ht
      exact absurd ha hn
    | cons b before => exact ih (List.cons.inj ht).2

/-- How a run ends in an error. -/
theorem Follows.error (h : Follows c ref i plan xs (.error e)) :
    i.Withholds e ∨ (∃ a as, ahead plan xs = a :: as ∧ a.Blames e) ∨
      ∃ before t, Http.turns plan xs = before ++ [t] ∧ ¬t.aim.Accepts ref t.sent := by
  generalize ho : (.error e : Outcome Unit) = o at h
  induction h with
  | done => cases ho
  | withheld h =>
    cases ho
    exact .inl h
  | unsent he =>
    cases ho
    exact .inr (.inl ⟨_, _, ahead_nil, he⟩)
  | @refused a as x e hx ha he => exact .inr (.inr ⟨[], ⟨a, x⟩, by simp, ha⟩)
  | accepted hx ha _ ih =>
    obtain h | h | ⟨before, t, ht, hn⟩ := ih ho
    · exact .inl h
    · exact .inr (.inl h)
    · exact .inr (.inr ⟨_ :: before, t, congrArg (_ :: ·) ht, hn⟩)

end Http

end LayerTransfer
