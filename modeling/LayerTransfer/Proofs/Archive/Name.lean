import LayerTransfer.Proofs.Archive.Path

namespace LayerTransfer.Archive

open Text.Cut (pieces)

/-- A relative path in its shortest spelling. -/
structure IsPlain (name : Bytes) : Prop where
  components : ∀ p ∈ pieces 0x2f name, p ≠ [] ∧ p ≠ [0x2e] ∧ p ≠ [0x2e, 0x2e]
  no_nul : 0 ∉ name

instance (name : Bytes) : Decidable (IsPlain name) :=
  decidable_of_iff
    ((∀ p ∈ pieces 0x2f name, p ≠ [] ∧ p ≠ [0x2e] ∧ p ≠ [0x2e, 0x2e]) ∧ 0 ∉ name)
    ⟨fun h => ⟨h.1, h.2⟩, fun h => ⟨h.components, h.no_nul⟩⟩

def joined : Bool → List Bytes → Bytes
  | _, [] => []
  | slash, b :: r => (if slash then [0x2f] else []) ++ b ++ joined true r

theorem joined_pieces (name : Bytes) : joined false (pieces 0x2f name) = name := by
  have h (b : Bytes) (r : List Bytes) : joined false (b :: r) = List.intercalate [0x2f] (b :: r) := by
    induction r generalizing b with
    | nil => simp [joined, List.intercalate]
    | cons c r ih =>
      have hc := ih c
      simp only [joined, Bool.false_eq_true, if_false, List.nil_append] at hc
      simp [joined, hc, List.intercalate]
  cases hp : pieces 0x2f name with
  | nil => exact absurd hp (Text.Cut.pieces_ne_nil _ _)
  | cons b r => rw [h, ← hp, Text.Cut.intercalate_pieces]

/-! ### Components -/

theorem ofPart_of_plain {p : Bytes} (h : p ≠ [] ∧ p ≠ [0x2e] ∧ p ≠ [0x2e, 0x2e]) :
    Component.ofPart p = some (.normal p) := by
  simp [Component.ofPart, h.1, h.2.1, h.2.2]

theorem filterMap_ofPart {ps : List Bytes}
    (h : ∀ p ∈ ps, p ≠ [] ∧ p ≠ [0x2e] ∧ p ≠ [0x2e, 0x2e]) :
    ps.filterMap Component.ofPart = ps.map .normal := by
  induction ps with
  | nil => rfl
  | cons p r ih =>
    rw [List.filterMap_cons, ofPart_of_plain (h p (List.mem_cons_self ..)),
      ih fun q hq => h q (List.mem_cons_of_mem _ hq)]
    rfl

theorem ofPath_of_plain {name : Bytes} (h : IsPlain name) :
    Component.ofPath name = (pieces 0x2f name).map .normal := by
  have hroot : name.head? ≠ some 0x2f := by
    intro hh
    obtain ⟨r, rfl⟩ := List.head?_eq_some_iff.1 hh
    exact (h.components [] (by simp [pieces])).1 rfl
  have hdot : (pieces 0x2f name).head? ≠ some [0x2e] := fun hh =>
    (h.components _ (List.mem_of_head? hh)).2.1 rfl
  rw [ofPath_eq, lead, if_neg hroot, if_neg hdot, List.nil_append, filterMap_ofPart h.components]

/-! ### Writing components -/

namespace NameField

theorem takeWhile_of_holds {f : NameField} {w : Bytes} (h : f.Holds w) (hw : 0 ∉ w) :
    f.octets.takeWhile (· ≠ 0) = w := by
  rw [h.2, List.takeWhile_append_of_pos]
  · cases nameWidth - w.length <;> simp [Bytes.zeros, List.replicate_succ]
  · intro b hb
    simpa using fun h0 : b = 0 => hw (h0 ▸ hb)

theorem write_normals (alone : Bool) {bs : List Bytes} {p : Progress}
    (h : p.field.used + (joined p.slash bs).length ≤ nameWidth) (hb : ∀ b ∈ bs, 0 ∉ b) :
    ∃ f, write alone (bs.map .normal) p =
        ({ p with field := f, slash := p.slash || !bs.isEmpty }, none) ∧
      ∀ w, p.field.Holds w → f.Holds (w ++ joined p.slash bs) := by
  induction bs generalizing p with
  | nil => exact ⟨p.field, by simp [write], by simp [joined]⟩
  | cons b bs ih =>
    have hj : joined p.slash (b :: bs) = separator p.slash ++ b ++ joined true bs := rfl
    rw [hj, List.length_append] at h
    have hpiece : piece? p alone (bs.map Component.normal).isEmpty (.normal b) = .ok (some b) := rfl
    obtain ⟨f, hf, hu, hw⟩ := write_piece alone hpiece (by omega) (hb b (List.mem_cons_self ..))
    obtain ⟨g, hg, hgw⟩ := ih (p := { p with field := f, slash := true })
      (by simp only [hu]; omega) (fun c hc => hb c (List.mem_cons_of_mem _ hc))
    refine ⟨g, ?_, ?_⟩
    · rw [List.map_cons, hf, hg]
      simp
    · intro w hp
      rw [hj, ← List.append_assoc]
      exact hgw _ (hw w hp)

theorem used_of_write {alone : Bool} {bs : List Bytes} {p q : Progress}
    (h : write alone (bs.map .normal) p = (q, none)) :
    q.field.used = p.field.used + (joined p.slash bs).length := by
  induction bs generalizing p with
  | nil =>
    simp only [List.map_nil, write, Prod.mk.injEq, and_true] at h
    simp [← h, joined]
  | cons b bs ih =>
    simp only [List.map_cons, write, piece?] at h
    cases hs : (if p.slash then p.field.place [0x2f] else .ok p.field) with
    | error e => simp [hs] at h
    | ok f =>
      have hf : f.used = p.field.used + (separator p.slash).length := by
        rw [separator]
        split at hs
        next hp => simpa [hp] using (of_place hs).1
        next hp =>
          cases hs
          simp [hp]
      simp only [hs] at h
      cases hg : f.place b with
      | error e => simp [hg] at h
      | ok g =>
        simp only [hg] at h
        have hj : joined p.slash (b :: bs) = separator p.slash ++ b ++ joined true bs := rfl
        rw [ih h, hj, (of_place hg).1, hf]
        simp only [List.length_append]
        omega

end NameField

/-! ### Names in headers -/

theorem setPath_of_plain {name : Bytes} (h : IsPlain name) (hl : name.length ≤ nameWidth) :
    ∃ g, NameField.setPath {} false name = (g, none) ∧ g.Holds name := by
  have hj := joined_pieces name
  have hb : ∀ b ∈ pieces 0x2f name, 0 ∉ b := fun b hb h0 =>
    h.no_nul (Text.Cut.mem_of_mem_pieces hb h0)
  obtain ⟨f, hw, hh⟩ := NameField.write_normals
    (((pieces 0x2f name).map Component.normal).length = 1) (p := NameField.start {} false)
    (by simpa [NameField.start, NameField.restart, hj] using hl) hb
  have hlast : name.getLast? ≠ some 0x2f := by
    intro ht
    obtain ⟨init, hi⟩ := pieces_of_getLast ht
    exact (h.components [] (by rw [hi]; simp)).1 rfl
  rw [← ofPath_of_plain h] at hw
  obtain ⟨g, hg, he⟩ := NameField.setPath_of_write hw
    (by simp [NameField.start, Text.Cut.pieces_ne_nil]) (fun ht => absurd ht hlast)
  refine ⟨g, hg, ?_⟩
  rw [he hlast]
  have hn := hh [] NameField.holds_empty
  rwa [List.nil_append, show (NameField.start {} false).slash = false from rfl, hj] at hn

theorem setPath_of_long {name : Bytes} (h : IsPlain name) (hl : nameWidth < name.length) :
    ∃ g e, NameField.setPath {} false name = (g, some e) := by
  cases hw : NameField.write ((Component.ofPath name).length = 1) (Component.ofPath name)
      (NameField.start {} false) with
  | mk p fault =>
    have hs := hw
    rw [NameField.start] at hs
    cases fault with
    | some e => exact ⟨p.field, e, by simp [NameField.setPath, hs]⟩
    | none =>
      rw [ofPath_of_plain h] at hw
      have hu := NameField.used_of_write hw
      rw [show (NameField.start {} false).slash = false from rfl, joined_pieces] at hu
      have hp := p.field.used_le
      omega

theorem le_boundary (name : Bytes) {j k : Nat} (hj : 0 < j) (hk : j ≤ k)
    (h : ∀ b, name[j]? = some b → ¬(0x80 ≤ b ∧ b < 0xc0)) : j ≤ boundary name k := by
  induction k with
  | zero => omega
  | succ k ih =>
    rw [boundary]
    split
    next => exact hk
    next b hb =>
      split
      next hc =>
        have hne : j ≠ k + 1 := fun he => h b (he ▸ hb) hc
        exact ih (by omega)
      next => exact hk

theorem boundary_le (name : Bytes) (k : Nat) : boundary name k ≤ k := by
  induction k with
  | zero => exact Nat.le_refl 0
  | succ k ih =>
    rw [boundary]
    split
    · exact Nat.le_refl _
    · split <;> omega

/-- At most three octets are cut off to end a front behind a whole character. -/
theorem length_front {s : String} (h : nameWidth < (Bytes.ofText s).length) :
    nameWidth - 3 ≤ (front (Bytes.ofText s)).length ∧ (front (Bytes.ofText s)).length ≤ nameWidth := by
  obtain ⟨j, b, hj, hij, hb, hs⟩ := Bytes.exists_start_ofText s h
  have hw : nameWidth = 100 := rfl
  have hle := le_boundary (Bytes.ofText s) (k := nameWidth) (by omega) hj
    (fun c hc => by rw [hb] at hc; cases hc; exact hs)
  have hge := boundary_le (Bytes.ofText s) nameWidth
  rw [front, List.length_take]
  omega

/-! ### Fronts -/

/-- A step up that is not the last component of a front is one in the whole name too. -/
theorem parent_of_front {name path : Bytes} (hp : path <+: name)
    (h : .parent ∈ guarded true (Component.ofPath path)) : .parent ∈ Component.ofPath name := by
  obtain ⟨init, last, hpieces, hinit⟩ := Text.Cut.pieces_of_prefix (x := 0x2f) hp
  have hparts : Component.ofPath path =
      lead path ++ init.filterMap Component.ofPart ++ (Component.ofPart last).toList := by
    rw [ofPath_eq, hpieces, List.filterMap_append, List.append_assoc]
    cases hl : Component.ofPart last <;> simp [hl]
  have hmem : .parent ∈ lead path ++ init.filterMap Component.ofPart := by
    rw [guarded, if_pos rfl, hparts] at h
    cases hl : Component.ofPart last with
    | none =>
      rw [hl, Option.toList_none, List.append_nil] at h
      exact (List.dropLast_sublist _).subset h
    | some c =>
      rw [hl, Option.toList_some, List.dropLast_concat] at h
      exact h
  obtain hm | hm := List.mem_append.1 hmem
  · obtain ⟨hm, -⟩ | hm := mem_lead hm <;> cases hm
  · obtain ⟨p, hpm, hc⟩ := List.mem_filterMap.1 hm
    exact mem_ofPath.2 (.inr ⟨p, hinit.subset hpm, hc⟩)

theorem refuses_of_front {name path : Bytes} (hp : path <+: name) (hne : path ≠ [])
    (h : Refuses true path) : Refuses false name := by
  obtain ⟨rest, rfl⟩ := hp
  cases h with
  | empty h => exact absurd h hne
  | absolute h =>
    refine .absolute ?_
    rw [List.head?_append, h]
    rfl
  | nul h => exact .nul (List.mem_append_left _ h)
  | parent h => exact .parent (parent_of_front (List.prefix_append _ _) h)

theorem not_refuses_of_plain {name : Bytes} (h : IsPlain name) : ¬ Refuses false name := by
  rintro (he | he | he | he)
  · subst he
    exact (h.components [] (by simp [pieces])).1 rfl
  · obtain ⟨r, rfl⟩ := List.head?_eq_some_iff.1 he
    exact (h.components [] (by simp [pieces])).1 rfl
  · exact h.no_nul he
  · exact (h.components _ (parent_mem_ofPath.1 he)).2.2 rfl

theorem isPrefix_front (name : Bytes) : front name <+: name := List.take_prefix _ _

theorem length_front_le (name : Bytes) : (front name).length ≤ nameWidth := by
  have hle := boundary_le name nameWidth
  rw [front, List.length_take]
  omega

theorem front_ne_nil {s : String} (h : nameWidth ≤ (Bytes.ofText s).length) :
    front (Bytes.ofText s) ≠ [] := by
  have hw : nameWidth = 100 := rfl
  apply List.ne_nil_of_length_pos
  obtain he | hlt := Nat.eq_or_lt_of_le h
  · have hnone : (Bytes.ofText s)[nameWidth]? = none := List.getElem?_eq_none (by omega)
    have hb : boundary (Bytes.ofText s) nameWidth = nameWidth := by
      rw [hw] at hnone ⊢
      rw [boundary, hnone]
    rw [front, hb, List.length_take]
    omega
  · have hl := (length_front hlt).1
    omega

/-- The names that a header refuses. Of a long name only the front is looked at. -/
inductive IsRefused (name : Bytes) : Prop
  | short (hl : name.length < nameWidth) (h : Refuses false name)
  | long (hl : nameWidth ≤ name.length) (h : Refuses true (front name))

theorem isRefused_iff_of_short {name : Bytes} (hl : name.length < nameWidth) :
    IsRefused name ↔ Refuses false name := by
  constructor
  · rintro (⟨-, h⟩ | ⟨hlong, -⟩)
    · exact h
    · omega
  · exact .short hl

theorem isRefused_iff_of_long {name : Bytes} (hl : nameWidth ≤ name.length) :
    IsRefused name ↔ Refuses true (front name) := by
  constructor
  · rintro (⟨hshort, -⟩ | ⟨-, h⟩)
    · omega
    · exact h
  · exact .long hl

instance (name : Bytes) : Decidable (IsRefused name) :=
  if hl : name.length < nameWidth then decidable_of_iff' _ (isRefused_iff_of_short hl)
  else decidable_of_iff' _ (isRefused_iff_of_long (Nat.not_lt.1 hl))

/-- The part that decides fits the field, so nothing but its components makes a header refuse it. -/
theorem headerName_refuses_iff (s : String) :
    (∃ text, headerName (Bytes.ofText s) = .error text) ↔ IsRefused (Bytes.ofText s) := by
  cases hf : NameField.setPath {} false (Bytes.ofText s) with
  | mk f fault =>
    by_cases hl : (Bytes.ofText s).length < nameWidth
    · rw [isRefused_iff_of_short hl]
      cases fault with
      | none =>
        have hn := not_refuses_of_setPath hf
        simp [headerName, hf, hn]
      | some e =>
        have hr := refuses_of_fault hf (Nat.le_of_lt hl)
        simp [headerName, hf, hl, hr]
    · have hlong := Nat.not_lt.1 hl
      rw [isRefused_iff_of_long hlong]
      cases fault with
      | none =>
        -- a name that just fits is its own front
        have hn : ¬ Refuses true (front (Bytes.ofText s)) := fun hr =>
          not_refuses_of_setPath hf (refuses_of_front (isPrefix_front _) (front_ne_nil hlong) hr)
        simp [headerName, hf, hn]
      | some e =>
        cases hg : f.setPath true (front (Bytes.ofText s)) with
        | mk g fault =>
          cases fault with
          | none =>
            have hn := not_refuses_of_setPath hg
            simp [headerName, hf, hl, hg, hn]
          | some e =>
            have hr := refuses_of_fault hg (length_front_le _)
            simp [headerName, hf, hl, hg, hr]

theorem headerName_of_plain {s : String} (h : IsPlain (Bytes.ofText s)) :
    ∃ k, headerName (Bytes.ofText s) = .ok k ∧
      (k.isFront = false → k.field.octets.takeWhile (· ≠ 0) = Bytes.ofText s) := by
  by_cases hl : (Bytes.ofText s).length ≤ nameWidth
  · obtain ⟨g, hg, hh⟩ := setPath_of_plain h hl
    exact ⟨⟨g, false⟩, by simp [headerName, hg], fun _ => NameField.takeWhile_of_holds hh h.no_nul⟩
  · have hlong : nameWidth < (Bytes.ofText s).length := by omega
    have hw : nameWidth = 100 := rfl
    obtain ⟨f, e, hf⟩ := setPath_of_long h hlong
    have hn : ¬ Refuses true (front (Bytes.ofText s)) := fun hr =>
      not_refuses_of_plain h (refuses_of_front (isPrefix_front _) (front_ne_nil (Nat.le_of_lt hlong)) hr)
    obtain ⟨g, hg⟩ := setPath_of_not_refuses f hn (length_front_le _)
    refine ⟨⟨g, true⟩, ?_, by simp⟩
    have hnot : ¬(Bytes.ofText s).length < nameWidth := by omega
    simp [headerName, hf, hnot, hg]

end LayerTransfer.Archive
