namespace LayerTransfer.Text.Cut

variable {α : Type} [DecidableEq α]

def atFirst (x : α) : List α → Option (List α × List α)
  | [] => none
  | y :: r => if y = x then some ([], r) else (atFirst x r).map (fun p => (y :: p.1, p.2))

def atLast (x : α) : List α → Option (List α × List α)
  | [] => none
  | y :: r =>
    match atLast x r with
    | some p => some (y :: p.1, p.2)
    | none => if y = x then some ([], r) else none

def pieces (x : α) : List α → List (List α)
  | [] => [[]]
  | y :: r =>
    if y = x then [] :: pieces x r
    else
      match pieces x r with
      | [] => [[y]]
      | p :: ps => (y :: p) :: ps

theorem eq_of_atFirst {x : α} {l a b : List α} (h : atFirst x l = some (a, b)) :
    l = a ++ x :: b ∧ x ∉ a := by
  induction l generalizing a with
  | nil => simp [atFirst] at h
  | cons y r ih =>
    by_cases hy : y = x
    · simp only [atFirst, hy, if_true, Option.some.injEq, Prod.mk.injEq] at h
      simp [← h.1, ← h.2, hy]
    · simp only [atFirst, hy, if_false, Option.map_eq_some_iff, Prod.mk.injEq] at h
      obtain ⟨p, hp, rfl, rfl⟩ := h
      obtain ⟨rfl, hx⟩ := ih hp
      exact ⟨by simp, by simp [hx, Ne.symm hy]⟩

theorem atFirst_append {x : α} {a : List α} (b : List α) (h : x ∉ a) :
    atFirst x (a ++ x :: b) = some (a, b) := by
  induction a with
  | nil => simp [atFirst]
  | cons y r ih =>
    simp only [List.mem_cons, not_or] at h
    simp [atFirst, ih h.2, Ne.symm h.1]

theorem atFirst_eq_none_iff {x : α} {l : List α} : atFirst x l = none ↔ x ∉ l := by
  induction l with
  | nil => simp [atFirst]
  | cons y r ih =>
    by_cases hy : y = x
    · simp [atFirst, hy]
    · simp [atFirst, hy, ih, Ne.symm hy]

theorem atLast_eq_none_iff {x : α} {l : List α} : atLast x l = none ↔ x ∉ l := by
  induction l with
  | nil => simp [atLast]
  | cons y r ih =>
    unfold atLast
    cases hr : atLast x r with
    | some p =>
      have hx : x ∈ r := Classical.byContradiction fun hn => by simp [ih.2 hn] at hr
      simp [hx]
    | none =>
      by_cases hy : y = x
      · simp [hy]
      · simp [hy, ih.1 hr, Ne.symm hy]

theorem eq_of_atLast {x : α} {l a b : List α} (h : atLast x l = some (a, b)) :
    l = a ++ x :: b ∧ x ∉ b := by
  induction l generalizing a with
  | nil => simp [atLast] at h
  | cons y r ih =>
    unfold atLast at h
    cases hr : atLast x r with
    | some p =>
      simp only [hr, Option.some.injEq, Prod.mk.injEq] at h
      obtain ⟨rfl, rfl⟩ := h
      obtain ⟨h1, h2⟩ := ih hr
      exact ⟨by rw [h1]; simp, h2⟩
    | none =>
      simp only [hr] at h
      split at h
      · next hy =>
        simp only [Option.some.injEq, Prod.mk.injEq] at h
        obtain ⟨rfl, rfl⟩ := h
        exact ⟨by simp [hy], atLast_eq_none_iff.1 hr⟩
      · simp at h

theorem atLast_append {x : α} (a : List α) {b : List α} (h : x ∉ b) :
    atLast x (a ++ x :: b) = some (a, b) := by
  induction a with
  | nil => simp [atLast, atLast_eq_none_iff.2 h]
  | cons y r ih => simp [atLast, ih]

theorem pieces_ne_nil (x : α) (l : List α) : pieces x l ≠ [] := by
  cases l with
  | nil => simp [pieces]
  | cons y r =>
    unfold pieces
    split
    · simp
    · split <;> simp

theorem pieces_of_not_mem {x : α} {l : List α} (h : x ∉ l) : pieces x l = [l] := by
  induction l with
  | nil => simp [pieces]
  | cons y r ih =>
    simp only [List.mem_cons, not_or] at h
    simp [pieces, ih h.2, Ne.symm h.1]

theorem pieces_append {x : α} {a : List α} (b : List α) (h : x ∉ a) :
    pieces x (a ++ x :: b) = a :: pieces x b := by
  induction a with
  | nil => simp [pieces]
  | cons y r ih =>
    simp only [List.mem_cons, not_or] at h
    simp [pieces, ih h.2, Ne.symm h.1]

theorem pieces_append_cons (x : α) (a b : List α) :
    pieces x (a ++ x :: b) = pieces x a ++ pieces x b := by
  induction a with
  | nil => simp [pieces]
  | cons y r ih =>
    by_cases hy : y = x
    · simp [pieces, hy, ih]
    · cases hr : pieces x r with
      | nil => exact absurd hr (pieces_ne_nil x r)
      | cons p ps => simp [pieces, hy, ih, hr]

theorem pieces_of_prefix {x : α} {a l : List α} (h : a <+: l) :
    ∃ init last, pieces x a = init ++ [last] ∧ init <+: pieces x l := by
  induction a generalizing l with
  | nil => exact ⟨[], [], rfl, List.nil_prefix⟩
  | cons y r ih =>
    obtain ⟨t, rfl⟩ := h
    obtain ⟨init, last, hr, hp⟩ := ih ⟨t, rfl⟩
    by_cases hy : y = x
    · refine ⟨[] :: init, last, by simp [pieces, hy, hr], ?_⟩
      simpa [pieces, hy] using hp
    · cases init with
      | nil => exact ⟨[], y :: last, by simp [pieces, hy, hr], List.nil_prefix⟩
      | cons p ps =>
        obtain ⟨rest, hs⟩ := hp
        refine ⟨(y :: p) :: ps, last, by simp [pieces, hy, hr], rest, ?_⟩
        simp [pieces, hy, ← hs]

theorem intercalate_pieces (x : α) (l : List α) : List.intercalate [x] (pieces x l) = l := by
  induction l with
  | nil => simp [pieces, List.intercalate]
  | cons y r ih =>
    unfold pieces
    split
    · next hy =>
      subst hy
      cases hp : pieces y r with
      | nil => exact absurd hp (pieces_ne_nil y r)
      | cons p ps => rw [hp] at ih; simp [List.intercalate, ← ih]
    · cases hp : pieces x r with
      | nil => exact absurd hp (pieces_ne_nil x r)
      | cons p ps => rw [hp] at ih; cases ps <;> simp [List.intercalate, ← ih]

theorem pieces_intercalate {x : α} {ps : List (List α)} (hne : ps ≠ []) (h : ∀ p ∈ ps, x ∉ p) :
    pieces x (List.intercalate [x] ps) = ps := by
  induction ps with
  | nil => exact absurd rfl hne
  | cons p ps ih =>
    obtain ⟨hp, hps⟩ := List.forall_mem_cons.1 h
    cases ps with
    | nil => rw [List.intercalate_singleton, pieces_of_not_mem hp]
    | cons q qs =>
      rw [List.intercalate_cons_cons, List.append_assoc, List.singleton_append,
        pieces_append _ hp, ih (by simp) hps]

theorem mem_of_mem_pieces {x y : α} {l p : List α} (hp : p ∈ pieces x l) (hy : y ∈ p) : y ∈ l := by
  induction l generalizing p with
  | nil => simp only [pieces, List.mem_singleton] at hp; simp [hp] at hy
  | cons z r ih =>
    unfold pieces at hp
    split at hp
    · rcases List.mem_cons.1 hp with rfl | h
      · simp at hy
      · exact List.mem_cons_of_mem _ (ih h hy)
    · cases hr : pieces x r with
      | nil => exact absurd hr (pieces_ne_nil x r)
      | cons q qs =>
        rw [hr] at hp ih
        rcases List.mem_cons.1 hp with rfl | h
        · rcases List.mem_cons.1 hy with rfl | h
          · exact List.mem_cons_self ..
          · exact List.mem_cons_of_mem _ (ih (List.mem_cons_self ..) h)
        · exact List.mem_cons_of_mem _ (ih (List.mem_cons_of_mem _ h) hy)

theorem eq_or_mem_pieces {x y : α} {l : List α} (hy : y ∈ l) :
    y = x ∨ ∃ p ∈ pieces x l, y ∈ p := by
  induction l with
  | nil => simp at hy
  | cons z r ih =>
    unfold pieces
    rcases List.mem_cons.1 hy with rfl | hr
    · by_cases hx : y = x
      · exact .inl hx
      · right
        rw [if_neg hx]
        split
        · exact ⟨_, List.mem_cons_self .., List.mem_cons_self ..⟩
        · exact ⟨_, List.mem_cons_self .., List.mem_cons_self ..⟩
    · obtain rfl | ⟨p, hp, hyp⟩ := ih hr
      · exact .inl rfl
      · right
        split
        · exact ⟨p, List.mem_cons_of_mem _ hp, hyp⟩
        · split
          next hnil => exact absurd hnil (pieces_ne_nil x r)
          next q qs hq =>
            rw [hq] at hp
            rcases List.mem_cons.1 hp with rfl | hp
            · exact ⟨_, List.mem_cons_self .., List.mem_cons_of_mem _ hyp⟩
            · exact ⟨p, List.mem_cons_of_mem _ hp, hyp⟩

end LayerTransfer.Text.Cut
