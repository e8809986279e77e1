import LayerTransfer.TransferError
import Mathlib.Data.List.Forall2

namespace LayerTransfer.Outcome

/-- The same error, or two values in relation. -/
inductive Alike {α β : Type} (R : α → β → Prop) : Outcome α → Outcome β → Prop
  | error (e : TransferError) : Alike R (.error e) (.error e)
  | ok {a : α} {b : β} (h : R a b) : Alike R (.ok a) (.ok b)

variable {α β : Type}

theorem alike_map {R : α → β → Prop} {f : α → β} (h : ∀ a, R a (f a)) (o : Outcome α) :
    Alike R o (o.map f) := by
  cases o with
  | error e => exact .error e
  | ok a => exact .ok (h a)

theorem alike_of_eq {o o' : Outcome α} (h : o = o') : Alike Eq o o' := by
  cases h
  cases o with
  | error e => exact .error e
  | ok a => exact .ok rfl

theorem eq_of_alike {o o' : Outcome α} (h : Alike Eq o o') : o = o' := by
  cases h with
  | error e => rfl
  | ok h => rw [h]

variable {ε : Type} {f : α → Except ε β} {xs : List α}

theorem map_eq_ok {o : Except ε α} {f : α → β} {b : β} :
    o.map f = .ok b ↔ ∃ a, o = .ok a ∧ f a = b := by
  refine ⟨ok_of_map, ?_⟩
  rintro ⟨a, rfl, rfl⟩
  rfl

theorem bind_eq_ok {o : Except ε α} {b : β} :
    o.bind f = .ok b ↔ ∃ a, o = .ok a ∧ f a = .ok b := by
  refine ⟨ok_of_bind, ?_⟩
  rintro ⟨a, rfl, h⟩
  exact h

theorem foldlM_cons_eq_ok {g : β → α → Except ε β} {x : α} {s r : β} :
    (x :: xs).foldlM g s = .ok r ↔ ∃ t, g s x = .ok t ∧ xs.foldlM g t = .ok r := by
  rw [List.foldlM_cons]
  exact bind_eq_ok

theorem mapM_eq_ok {ys : List β} :
    xs.mapM f = .ok ys ↔ List.Forall₂ (fun x y => f x = .ok y) xs ys := by
  induction xs generalizing ys with
  | nil =>
    constructor
    · intro h
      cases h
      exact .nil
    · intro h
      cases h
      rfl
  | cons x xs ih =>
    rw [List.mapM_cons]
    constructor
    · intro h
      obtain ⟨y, hy, h⟩ := ok_of_bind h
      obtain ⟨ys, hys, h⟩ := ok_of_bind h
      cases h
      exact .cons hy (ih.1 hys)
    · intro h
      cases h with
      | cons hy hys =>
        rw [hy, ih.2 hys]
        rfl

theorem mapM_eq_error {e : ε} :
    xs.mapM f = .error e ↔ ∃ front x back, xs = front ++ x :: back ∧
      (∀ y ∈ front, ∃ b, f y = .ok b) ∧ f x = .error e := by
  constructor
  · intro h
    induction xs with
    | nil => cases h
    | cons x xs ih =>
      rw [List.mapM_cons] at h
      cases hx : f x with
      | error e' =>
        rw [hx] at h
        cases h
        exact ⟨[], x, xs, rfl, by simp, hx⟩
      | ok b =>
        rw [hx] at h
        cases hxs : xs.mapM f with
        | error e' =>
          simp only [hxs] at h
          cases h
          obtain ⟨front, y, back, rfl, hfront, hy⟩ := ih hxs
          exact ⟨x :: front, y, back, rfl, List.forall_mem_cons.2 ⟨⟨b, hx⟩, hfront⟩, hy⟩
        | ok bs =>
          simp only [hxs] at h
          cases h
  · rintro ⟨front, x, back, rfl, hfront, hx⟩
    induction front with
    | nil =>
      rw [List.nil_append, List.mapM_cons, hx]
      rfl
    | cons y front ih =>
      obtain ⟨⟨b, hb⟩, hrest⟩ := List.forall_mem_cons.1 hfront
      rw [List.cons_append, List.mapM_cons, hb, ih hrest]
      rfl

end LayerTransfer.Outcome
