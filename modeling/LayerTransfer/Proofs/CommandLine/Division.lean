import LayerTransfer.Proofs.CommandLine.Line

namespace LayerTransfer.CommandLine

def switchLetters : List Char := ['v', 'q', 'k']

theorem mem_switchLetters {level : Level} {c : Char} {x : Switch}
    (h : shortOption? level c = some (.switch x)) : c ∈ switchLetters := by
  unfold shortOption? at h
  split at h <;> simp_all [switchLetters, onlyAt]

def IsBundle (w : String) : Prop :=
  ∃ c ∈ switchLetters, ['-', c] <+: w.toList ∧ w.toList ≠ ['-', c]

instance : DecidablePred IsBundle := fun w =>
  List.decidableBEx (fun c => ['-', c] <+: w.toList ∧ w.toList ≠ ['-', c]) switchLetters

/-- What a word is at a level, by whether a value is missing before it and behind it. -/
inductive Part (level : Level) : Bool → String → Bool → Prop
  | whole {w : String} {e : Entry} (h : Spelled level [w] e) : Part level false w false
  | name {w : String} {slot : Slot}
      (h : ∀ v, IsPlainWord v → Spelled level [w, v] (.value slot v)) : Part level false w true
  | value {w : String} (h : IsPlainWord w) : Part level true w false

namespace Scan

variable {level : Level} {s u : Scan}

theorem awaits_of_settle {t : Scan} (h : s.settle = .ok t) : s.awaits = false := by
  unfold settle at h
  unfold awaits
  split at h
  next hp => rw [hp]
  next => cases h
  next hp => rw [hp]

theorem enter_awaits {e : Entry} (h : s.enter level e = .ok u) :
    s.awaits = false ∧ u.awaits = false ∧ u.trailing = s.trailing := by
  obtain ⟨t, ht, -⟩ := enter_ok_iff.1 h
  obtain ⟨hpending, htrailing⟩ := enter_ok h
  exact ⟨awaits_of_settle ht, by rw [awaits, hpending], htrailing⟩

theorem give_awaits {slot : Slot} (h : s.give slot none = .ok u) :
    s.awaits = false ∧ u.awaits = true ∧ u.trailing = s.trailing := by
  obtain ⟨t, hs, rfl⟩ := Outcome.ok_of_map h
  exact ⟨awaits_of_settle hs, rfl, (settle_ok hs).2.1⟩

structure Takes (level : Level) (s : Scan) (w : String) (u : Scan) : Prop where
  part : Part level s.awaits w u.awaits
  trailing : u.trailing = s.trailing

theorem takes_of_enter {w : String} {e : Entry} (hw : Spelled level [w] e)
    (h : s.enter level e = .ok u) : Takes level s w u := by
  obtain ⟨hs, hu, htrailing⟩ := enter_awaits h
  refine ⟨?_, htrailing⟩
  rw [hs, hu]
  exact .whole hw

theorem takes_of_give {w : String} {slot : Slot}
    (hw : ∀ v, IsPlainWord v → Spelled level [w, v] (.value slot v))
    (h : s.give slot none = .ok u) : Takes level s w u := by
  obtain ⟨hs, hu, htrailing⟩ := give_awaits h
  refine ⟨?_, htrailing⟩
  rw [hs, hu]
  exact .name hw

theorem settle_error_ne_ok {f : Usage} : (s.settle.bind fun _ => .error f) ≠ .ok u := by
  intro h
  obtain ⟨t, -, ht⟩ := Outcome.ok_of_bind h
  cases ht

theorem long_takes {r : List Char} (h : s.long level r = .ok u) :
    Takes level s ("--" ++ String.ofList r) u := by
  unfold long at h
  cases hcut : Text.Cut.atFirst '=' r with
  | none =>
    simp only [hcut] at h
    split at h
    next o ho =>
      cases o with
      | switch x => exact takes_of_enter (.longSwitch ho) h
      | slot x => exact takes_of_give (fun v hv => .longApart ho hv) h
      | help => exact absurd h settle_error_ne_ok
      | version => exact absurd h settle_error_ne_ok
    next => cases h
  | some nv =>
    obtain ⟨n, v⟩ := nv
    simp only [hcut] at h
    have hr : r = n ++ '=' :: v := (Text.Cut.eq_of_atFirst hcut).1
    have hw : "--" ++ String.ofList r =
        "--" ++ String.ofList n ++ "=" ++ String.ofList v := by
      apply String.toList_injective
      simp [hr]
    split at h
    next o ho =>
      cases o with
      | slot x =>
        rw [hw]
        exact takes_of_enter (.longJoined _ ho) h
      | switch x => cases h
      | help => cases h
      | version => cases h
    next => cases h

theorem short_takes {c : Char} {r : List Char}
    (hb : ∀ x, shortOption? level c = some (.switch x) → r = [])
    (h : s.short level (c :: r) = .ok u) :
    Takes level s ("-" ++ String.singleton c ++ String.ofList r) u := by
  unfold short at h
  cases ho : shortOption? level c with
  | none => simp [ho] at h
  | some o =>
    simp only [ho] at h
    cases o with
    | slot slot =>
      cases r with
      | nil => exact takes_of_give (fun v hv => by simpa using .shortApart ho hv) h
      | cons d v =>
        by_cases hd : d = '='
        · subst hd
          have hw : "-" ++ String.singleton c ++ String.ofList ('=' :: v) =
              "-" ++ String.singleton c ++ "=" ++ String.ofList v := by
            apply String.toList_injective
            simp
          rw [hw]
          exact takes_of_enter (.shortJoined _ ho) h
        · have hattached : Spelled level
              ["-" ++ String.singleton c ++ String.ofList (d :: v)]
              (.value slot (String.ofList (d :: v))) :=
            .shortAttached ho (by simp) (by simpa using hd)
          have hgive : s.give slot (some (String.ofList (d :: v))) = .ok u := by simpa [hd] using h
          exact takes_of_enter hattached hgive
    | switch x =>
      have hr := hb x ho
      subst hr
      obtain ⟨t, hon, ht⟩ := Outcome.ok_of_bind h
      cases ht
      simpa using takes_of_enter (.shortSwitch ho) hon
    | help =>
      obtain ⟨t, ht, -⟩ := Outcome.ok_of_bind h
      exact absurd ht settle_error_ne_ok
    | version =>
      obtain ⟨t, ht, -⟩ := Outcome.ok_of_bind h
      exact absurd ht settle_error_ne_ok

theorem plain_takes {w : String} (ht : s.trailing = false) (hw : IsPlainWord w)
    (h : s.word level w = .ok u) : Takes level s w u := by
  rw [word_plain ht hw] at h
  cases ha : s.awaits with
  | true =>
    unfold awaits at ha
    split at ha
    next slot hp =>
      rw [hp] at h
      cases h
      refine ⟨?_, rfl⟩
      have hs : s.awaits = true := by rw [awaits, hp]
      rw [hs]
      exact .value hw
    next => cases ha
  | false =>
    have hpositional : s.positional level w = .ok u := by
      split at h
      next hp => simp [awaits, hp] at ha
      next => exact h
    have hlevel : level ≠ none := by
      rintro rfl
      simpa using (positional_ok_iff.1 hpositional).1
    exact takes_of_enter (.argument hlevel hw) hpositional

/-- Every accepted word that is neither a separator nor a bundle is a part. -/
theorem word_takes {w : String} (ht : s.trailing = false) (hw : w ≠ "--") (hb : ¬IsBundle w)
    (h : s.word level w = .ok u) : Takes level s w u := by
  by_cases hplain : IsPlainWord w
  · exact plain_takes ht hplain h
  · simp only [IsPlainWord, not_forall, not_not] at hplain
    obtain ⟨c, r, hl⟩ := hplain
    have hword : w = "-" ++ String.singleton c ++ String.ofList r := by
      apply String.toList_injective
      simp [hl]
    by_cases hc : c = '-'
    · subst hc
      have hr : String.ofList r ≠ "" := by
        intro he
        rw [he] at hword
        exact hw (by simpa using hword)
      have hlong : w = "--" ++ String.ofList r := by
        apply String.toList_injective
        simp [hl]
      rw [hlong, word_long ht hr, String.toList_ofList] at h
      rw [hlong]
      exact long_takes h
    · rw [hword, word_short ht hc, String.toList_ofList] at h
      rw [hword]
      refine short_takes (fun x hx => ?_) h
      cases r with
      | nil => rfl
      | cons d r => exact absurd ⟨c, mem_switchLetters hx, ⟨d :: r, hl.symm⟩, by simp [hl]⟩ hb

end Scan

/-! ### Rows -/

/-- Words that are complete options and arguments of a level, up to a rest. -/
def IsRow (level : Level) (P : List String → Prop) (ws : List String) : Prop :=
  ∃ (items : List Item) (rest : List String), (∀ i ∈ items, i.IsAt level) ∧
    ws = items.flatMap Item.words ++ rest ∧ P rest

def IsRowFrom (level : Level) (P : List String → Prop) : Bool → List String → Prop
  | false, ws => IsRow level P ws
  | true, ws => ∃ v rest, ws = v :: rest ∧ IsPlainWord v ∧ IsRow level P rest

variable {level : Level} {P : List String → Prop} {ws : List String}

theorem IsRow.cons {front : List String} {e : Entry} (h : Spelled level front e)
    (hr : IsRow level P ws) : IsRow level P (front ++ ws) := by
  obtain ⟨items, rest, hitems, rfl, hp⟩ := hr
  have hcons : ∀ i ∈ (⟨front, e⟩ :: items : List Item), i.IsAt level :=
    List.forall_mem_cons.2 ⟨h, hitems⟩
  exact ⟨⟨front, e⟩ :: items, rest, hcons, by simp, hp⟩

theorem Part.isRowFrom {w : String} {a b : Bool} (h : Part level a w b)
    (hr : IsRowFrom level P b ws) : IsRowFrom level P a (w :: ws) := by
  cases h with
  | whole h => exact IsRow.cons h hr
  | name h =>
    obtain ⟨v, rest, rfl, hv, hrest⟩ := hr
    exact IsRow.cons (h v hv) hrest
  | value h => exact ⟨w, ws, rfl, h, hr⟩

/-- Words without a separator and without bundled letters. -/
structure IsSimple (ws : List String) : Prop where
  separator : "--" ∉ ws
  bundle : ∀ w ∈ ws, ¬IsBundle w

theorem IsSimple.tail {w : String} (h : IsSimple (w :: ws)) : IsSimple ws :=
  ⟨fun hm => h.separator (List.mem_cons_of_mem w hm),
    fun x hx => h.bundle x (List.mem_cons_of_mem w hx)⟩

theorem IsSimple.takes {w : String} (h : IsSimple (w :: ws)) {s u : Scan}
    (ht : s.trailing = false) (hu : s.word level w = .ok u) : Scan.Takes level s w u :=
  Scan.word_takes ht (fun he => h.separator (he ▸ List.mem_cons_self ..))
    (h.bundle w (List.mem_cons_self ..)) hu

theorem words_isRowFrom {s r : Scan} (hs : IsSimple ws) (ht : s.trailing = false)
    (h : s.words level ws = .ok r) : IsRowFrom level (· = []) s.awaits ws := by
  induction ws generalizing s with
  | nil =>
    have ha : s.awaits = false := Scan.awaits_of_settle h
    rw [ha]
    exact ⟨[], [], by simp, rfl, rfl⟩
  | cons w ws ih =>
    obtain ⟨u, hu, hr⟩ := Outcome.ok_of_bind h
    have htakes := hs.takes ht hu
    exact htakes.part.isRowFrom (ih hs.tail (htakes.trailing.trans ht) hr)

def IsCommand (ws : List String) : Prop :=
  ∃ (v : Verb) (back : List Item), (∀ i ∈ back, i.IsAt (some v)) ∧
    ws = v.name :: back.flatMap Item.words

theorem isCommand_of_words {v : Verb} {r : Scan} (hs : IsSimple ws)
    (h : Scan.words (some v) {} ws = .ok r) : IsCommand (v.name :: ws) := by
  obtain ⟨back, rest, hback, rfl, rfl⟩ := words_isRowFrom hs rfl h
  exact ⟨v, back, hback, by rw [List.append_nil]⟩

theorem read_isRowFrom {s : Scan} {a : Arguments} (hs : IsSimple ws) (ht : s.trailing = false)
    (h : read s ws = .ok a) : IsRowFrom none IsCommand s.awaits ws := by
  induction ws generalizing s with
  | nil =>
    obtain ⟨t, -, h⟩ := Outcome.ok_of_bind h
    split at h <;> cases h
  | cons w ws ih =>
    have hoption (h : ((s.word none w).bind fun u => read u ws) = .ok a) :
        IsRowFrom none IsCommand s.awaits (w :: ws) := by
      obtain ⟨u, hu, ha⟩ := Outcome.ok_of_bind h
      have htakes := hs.takes ht hu
      exact htakes.part.isRowFrom (ih hs.tail (htakes.trailing.trans ht) ha)
    rw [read] at h
    split at h
    next htakes =>
      split at h
      next v hv =>
        have ha : s.awaits = false := by simpa [Scan.takesCommand, ht] using htakes
        rw [ha, eq_name_of_ofName? hv]
        obtain ⟨own, hown, -⟩ := Outcome.ok_of_bind h
        exact ⟨[], _, by simp, rfl, isCommand_of_words hs.tail hown⟩
      next =>
        split at h
        · cases h
        · exact hoption h
    next => exact hoption h

/-- Every accepted command line without a separator and without bundled letters can be divided into
complete options and arguments. -/
theorem exists_line {a : Arguments} (hs : IsSimple ws) (h : parse ws = .ok a) :
    ∃ l : Line, l.words = ws := by
  obtain ⟨front, rest, hfront, rfl, v, back, hback, rfl⟩ := read_isRowFrom hs rfl h
  exact ⟨⟨front, v, back, hfront, hback⟩, rfl⟩

end LayerTransfer.CommandLine
