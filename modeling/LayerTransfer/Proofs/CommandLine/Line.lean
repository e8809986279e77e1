import LayerTransfer.CommandLine.Parser
import LayerTransfer.Proofs.Outcome
import Mathlib.Tactic.ByContra

namespace LayerTransfer.CommandLine

inductive Entry
  | switch (w : Switch)
  | value (slot : Slot) (text : String)
  | argument (text : String)
deriving DecidableEq, Repr

/-- Whether a word does not begin like an option. A single dash does not. -/
def IsPlainWord (w : String) : Prop :=
  ∀ c r, w.toList ≠ '-' :: c :: r

/-- The ways to write a complete option or argument at a level. -/
inductive Spelled (level : Level) : List String → Entry → Prop
  | longSwitch {name : String} {w : Switch} (h : longOption? level name = some (.switch w)) :
      Spelled level ["--" ++ name] (.switch w)
  | shortSwitch {letter : Char} {w : Switch} (h : shortOption? level letter = some (.switch w)) :
      Spelled level ["-" ++ String.singleton letter] (.switch w)
  | longJoined {name : String} {slot : Slot} (value : String)
      (h : longOption? level name = some (.slot slot)) :
      Spelled level ["--" ++ name ++ "=" ++ value] (.value slot value)
  | longApart {name : String} {slot : Slot} {value : String}
      (h : longOption? level name = some (.slot slot)) (hv : IsPlainWord value) :
      Spelled level ["--" ++ name, value] (.value slot value)
  | shortJoined {letter : Char} {slot : Slot} (value : String)
      (h : shortOption? level letter = some (.slot slot)) :
      Spelled level ["-" ++ String.singleton letter ++ "=" ++ value] (.value slot value)
  | shortAttached {letter : Char} {slot : Slot} {value : String}
      (h : shortOption? level letter = some (.slot slot)) (hv : value ≠ "")
      (he : value.toList.head? ≠ some '=') :
      Spelled level ["-" ++ String.singleton letter ++ value] (.value slot value)
  | shortApart {letter : Char} {slot : Slot} {value : String}
      (h : shortOption? level letter = some (.slot slot)) (hv : IsPlainWord value) :
      Spelled level ["-" ++ String.singleton letter, value] (.value slot value)
  | argument {w : String} (hl : level ≠ none) (hw : IsPlainWord w) :
      Spelled level [w] (.argument w)

structure Item where
  words : List String
  entry : Entry
deriving DecidableEq, Repr

def Item.IsAt (level : Level) (i : Item) : Prop := Spelled level i.words i.entry

def Verb.name : Verb → String
  | «export» => "export"
  | copy => "copy"
  | upload => "upload"

/-- A command line: options of the program, the name of a command, and what stands behind it. -/
structure Line where
  front : List Item
  verb : Verb
  back : List Item
  front_spelled : ∀ i ∈ front, i.IsAt none
  back_spelled : ∀ i ∈ back, i.IsAt (some verb)

def Line.words (l : Line) : List String :=
  l.front.flatMap Item.words ++ l.verb.name :: l.back.flatMap Item.words

/-! ### Names -/

def optionNames : List String :=
  ["verbose", "quiet", "insecure", "skip-tls", "timeout", "token", "default-registry", "help",
    "version", "image", "layer", "output"]

theorem mem_optionNames {level : Level} {name : String} {o : Opt}
    (h : longOption? level name = some o) : name ∈ optionNames := by
  by_contra hn
  simp only [optionNames, List.mem_cons, List.not_mem_nil, or_false, not_or] at hn
  simp [longOption?, hn] at h

theorem not_mem_of_longOption? {level : Level} {name : String} {o : Opt}
    (h : longOption? level name = some o) : '=' ∉ name.toList ∧ name ≠ "" := by
  have hall : ∀ t ∈ optionNames, '=' ∉ t.toList ∧ t ≠ "" := by decide
  exact hall name (mem_optionNames h)

theorem ne_of_shortOption? {level : Level} {letter : Char} {o : Opt}
    (h : shortOption? level letter = some o) : letter ≠ '-' ∧ letter ≠ '=' := by
  constructor <;>
  · rintro rfl
    simp [shortOption?] at h

/-! ### Single words -/

namespace Scan

variable {level : Level} {s : Scan}

theorem word_long (ht : s.trailing = false) {name : String} (hn : name ≠ "") :
    s.word level ("--" ++ name) = s.long level name.toList := by
  have hl : ("--" ++ name).toList = '-' :: '-' :: name.toList := by simp
  obtain ⟨c, r, hr⟩ := List.exists_cons_of_ne_nil (mt String.toList_eq_nil_iff.1 hn)
  simp [word, ht, hl, hr]

theorem word_short (ht : s.trailing = false) {letter : Char} (hn : letter ≠ '-') (rest : String) :
    s.word level ("-" ++ String.singleton letter ++ rest) =
      s.short level (letter :: rest.toList) := by
  have hl : ("-" ++ String.singleton letter ++ rest).toList = '-' :: letter :: rest.toList := by
    simp
  rw [word, ht, hl]
  simp [hn]

theorem word_plain (ht : s.trailing = false) {w : String} (hw : IsPlainWord w) :
    s.word level w = match s.pending with
      | some (slot, none) => .ok { s with pending := some (slot, some w) }
      | _ => s.positional level w := by
  rw [word, if_neg (by simp [ht])]
  split
  next h => exact absurd h (hw _ _)
  next h => exact absurd h (hw _ _)
  next h => exact absurd h (hw _ _)
  next => rfl

theorem long_name {name : String} {o : Opt} (h : longOption? level name = some o) :
    s.long level name.toList = s.apply o none := by
  rw [long, Text.Cut.atFirst_eq_none_iff.2 (not_mem_of_longOption? h).1]
  simp [h]

theorem long_joined {name : String} {o : Opt} (h : longOption? level name = some o)
    (value : String) :
    s.long level (name.toList ++ '=' :: value.toList) = s.apply o (some value) := by
  rw [long, Text.Cut.atFirst_append _ (not_mem_of_longOption? h).1]
  simp [h]

theorem short_switch {letter : Char} {w : Switch}
    (h : shortOption? level letter = some (.switch w)) :
    s.short level [letter] = s.turnOn w := by
  simp only [short, h, apply]
  cases s.turnOn w <;> rfl

theorem short_apart {letter : Char} {slot : Slot}
    (h : shortOption? level letter = some (.slot slot)) :
    s.short level [letter] = s.give slot none := by
  simp only [short, h]

theorem short_joined {letter : Char} {slot : Slot}
    (h : shortOption? level letter = some (.slot slot)) (value : String) :
    s.short level (letter :: '=' :: value.toList) = s.give slot (some value) := by
  simp only [short, h, String.ofList_toList]

theorem short_attached {letter : Char} {slot : Slot}
    (h : shortOption? level letter = some (.slot slot)) {value : String} (hv : value ≠ "")
    (he : value.toList.head? ≠ some '=') :
    s.short level (letter :: value.toList) = s.give slot (some value) := by
  obtain ⟨c, r, hr⟩ := List.exists_cons_of_ne_nil (mt String.toList_eq_nil_iff.1 hv)
  have hc : c ≠ '=' := by simpa [hr] using he
  have hvalue : String.ofList (c :: r) = value := by rw [← hr, String.ofList_toList]
  rw [hr, short, h]
  simp [hc, hvalue]

/-! ### What has been settled -/

/-- Between complete options and arguments: no value is missing, and no separator has been read. -/
structure IsBetween (s : Scan) : Prop where
  awaits : s.awaits = false
  trailing : s.trailing = false

theorem store_ok {slot : Slot} {value : String} {t : Scan} (h : s.store slot value = .ok t) :
    t = { s with values := s.values ++ [(slot, value)] } := by
  unfold store at h
  split at h
  · cases h
  · split at h
    · cases h
    · split at h
      · cases h
      · exact (Except.ok.inj h).symm

theorem settle_ok {t : Scan} (h : s.settle = .ok t) :
    t.pending = none ∧ t.trailing = s.trailing ∧ t.positionals = s.positionals := by
  unfold settle at h
  split at h
  next hp =>
    cases h
    exact ⟨hp, rfl, rfl⟩
  next => cases h
  next => exact store_ok h ▸ ⟨rfl, rfl, rfl⟩

theorem settle_of_pending (h : s.pending = none) : s.settle = .ok s := by
  rw [settle, h]

def enter (level : Level) (s : Scan) : Entry → Except Usage Scan
  | .switch w => s.turnOn w
  | .value slot text => s.give slot (some text)
  | .argument text => s.positional level text

theorem positional_ok_iff {w : String} {u : Scan} :
    s.positional level w = .ok u ↔ (level = some .copy ∨ level = some .upload) ∧
      s.positionals.length < 2 ∧
      ∃ t, s.settle = .ok t ∧ { t with positionals := t.positionals ++ [w] } = u := by
  have hrefused (f : Usage) : (if s.positionals.length < 2 then
      s.settle.map fun t => { t with positionals := t.positionals ++ [w] } else .error f) = .ok u ↔
      s.positionals.length < 2 ∧
        ∃ t, s.settle = .ok t ∧ { t with positionals := t.positionals ++ [w] } = u := by
    split
    next hl => simp [Outcome.map_eq_ok, hl]
    next hl => simp [hl]
  cases level with
  | none =>
    simp only [positional]
    split <;> simp
  | some v =>
    cases v with
    | «export» => simp [positional]
    | copy => exact (hrefused .unknownArgument).trans (by simp)
    | upload => exact (hrefused .unknownArgument).trans (by simp)

theorem enter_ok_iff {e : Entry} {u : Scan} :
    s.enter level e = .ok u ↔ ∃ t, s.settle = .ok t ∧ t.enter level e = .ok u := by
  cases h : s.settle with
  | error f =>
    cases e with
    | switch w => simp [enter, turnOn, h, Except.bind]
    | value slot text => simp [enter, give, h, Except.bind]
    | argument w => simp [enter, positional_ok_iff, h]
  | ok t =>
    obtain ⟨hpending, -, hpositionals⟩ := settle_ok h
    have ht := settle_of_pending hpending
    cases e with
    | switch w => simp [enter, turnOn, h, ht, Except.bind]
    | value slot text => simp [enter, give, h, ht, Except.bind]
    | argument w => simp [enter, positional_ok_iff, h, ht, hpositionals]

theorem enter_ok {e : Entry} {u : Scan} (h : s.enter level e = .ok u) :
    u.pending = none ∧ u.trailing = s.trailing := by
  obtain ⟨t, hs, hu⟩ := enter_ok_iff.1 h
  obtain ⟨hpending, htrailing, -⟩ := settle_ok hs
  have ht := settle_of_pending hpending
  cases e with
  | switch w =>
    simp only [enter, turnOn, ht, Except.bind] at hu
    split at hu
    · cases hu
    · cases hu
      exact ⟨hpending, htrailing⟩
  | value slot text =>
    simp only [enter, give, ht, Except.bind] at hu
    rw [store_ok hu]
    exact ⟨hpending, htrailing⟩
  | argument w =>
    obtain ⟨-, -, t', ht', rfl⟩ := positional_ok_iff.1 hu
    obtain ⟨hpending', htrailing', -⟩ := settle_ok ht'
    exact ⟨hpending', htrailing'.trans htrailing⟩

def held (s : Scan) (slot : Slot) (value : Option String) : Scan :=
  { s with pending := some (slot, value) }

theorem foldlM_apart {w value : String} {slot : Slot} (hw : s.word level w = s.give slot none)
    (hv : IsPlainWord value) (hs : s.IsBetween) :
    [w, value].foldlM (word level) s = s.settle.map fun t => t.held slot (some value) := by
  rw [List.foldlM_cons, hw, give]
  cases h : s.settle with
  | error f => rfl
  | ok t =>
    have htrailing : (t.held slot none).trailing = false :=
      (settle_ok h).2.1.trans hs.trailing
    have hvalue : (t.held slot none).word level value = .ok (t.held slot (some value)) := by
      rw [word_plain htrailing hv]
      rfl
    change [value].foldlM (word level) (t.held slot none) = .ok (t.held slot (some value))
    rw [List.foldlM_cons, hvalue]
    rfl

/-- A complete option or argument is a word that enters it, or a word that names an option and the
plain word behind it. At the program's level, it begins like an option. -/
theorem word_spelled {ws : List String} {e : Entry} (h : Spelled level ws e) (hs : s.IsBetween) :
    (∃ w, ws = [w] ∧ (w.toList.head? = some '-' ∨ level ≠ none) ∧
      s.word level w = s.enter level e) ∨
    ∃ w slot value, ws = [w, value] ∧ e = .value slot value ∧ w.toList.head? = some '-' ∧
      IsPlainWord value ∧ s.word level w = s.give slot none := by
  have hlong {name : String} {o : Opt} (h : longOption? level name = some o) :
      s.word level ("--" ++ name) = s.apply o none := by
    rw [word_long hs.trailing (not_mem_of_longOption? h).2, long_name h]
  have hletter {letter : Char} {o : Opt} (h : shortOption? level letter = some o) :
      s.word level ("-" ++ String.singleton letter) = s.short level [letter] := by
    have hw : s.word level ("-" ++ String.singleton letter ++ "") = s.short level [letter] :=
      word_short hs.trailing (ne_of_shortOption? h).1 ""
    rwa [String.append_empty] at hw
  cases h with
  | longSwitch h => exact .inl ⟨_, rfl, .inl (by simp), hlong h⟩
  | shortSwitch h =>
    refine .inl ⟨_, rfl, .inl (by simp), ?_⟩
    rw [hletter h, short_switch h]
    rfl
  | @longJoined name slot value h =>
    refine .inl ⟨_, rfl, .inl (by simp), ?_⟩
    have hn : name ++ "=" ++ value ≠ "" := by simp [String.append_eq_empty_iff]
    have hl : (name ++ "=" ++ value).toList = name.toList ++ '=' :: value.toList := by simp
    have hw : "--" ++ name ++ "=" ++ value = "--" ++ (name ++ "=" ++ value) := by
      simp only [String.append_assoc]
    rw [hw, word_long hs.trailing hn, hl, long_joined h]
    rfl
  | longApart h hv => exact .inr ⟨_, _, _, rfl, rfl, by simp, hv, hlong h⟩
  | @shortJoined letter slot value h =>
    refine .inl ⟨_, rfl, .inl (by simp), ?_⟩
    have hl : ("=" ++ value).toList = '=' :: value.toList := by simp
    rw [String.append_assoc, word_short hs.trailing (ne_of_shortOption? h).1, hl, short_joined h]
    rfl
  | shortAttached h hv he =>
    refine .inl ⟨_, rfl, .inl (by simp), ?_⟩
    rw [word_short hs.trailing (ne_of_shortOption? h).1, short_attached h hv he]
    rfl
  | shortApart h hv =>
    exact .inr ⟨_, _, _, rfl, rfl, by simp, hv, (hletter h).trans (short_apart h)⟩
  | argument hl hw =>
    refine .inl ⟨_, rfl, .inr hl, ?_⟩
    rw [word_plain hs.trailing hw]
    have ha := hs.awaits
    unfold awaits at ha
    split
    next hp => simp [hp] at ha
    next => rfl

theorem foldlM_spelled {ws : List String} {e : Entry} (h : Spelled level ws e)
    (hs : s.IsBetween) :
    ws.foldlM (word level) s = s.enter level e ∨
      ∃ slot value, e = .value slot value ∧
        ws.foldlM (word level) s = s.settle.map fun t => t.held slot (some value) := by
  obtain ⟨w, rfl, -, hw⟩ | ⟨w, slot, value, rfl, rfl, -, hv, hw⟩ := word_spelled h hs
  · refine .inl ?_
    rw [List.foldlM_cons, hw]
    exact bind_pure _
  · exact .inr ⟨slot, value, rfl, foldlM_apart hw hv hs⟩

theorem settle_held {slot : Slot} {value : String} (h : s.pending = none) :
    (s.held slot (some value)).settle = s.enter level (.value slot value) := by
  have hs : ({ s.held slot (some value) with pending := none } : Scan) = s := by
    rw [← h]
    rfl
  have hsettle : (s.held slot (some value)).settle =
      ({ s.held slot (some value) with pending := none } : Scan).store slot value := rfl
  rw [hsettle, hs, enter, give, settle_of_pending h]
  rfl

theorem isBetween_of_pending (hp : s.pending = none) (ht : s.trailing = false) : s.IsBetween :=
  ⟨by rw [awaits, hp], ht⟩

/-- The words of a complete option or argument lead to a place between two of these, and enter it
once they are settled. -/
theorem foldlM_spelled_ok {ws : List String} {e : Entry} (h : Spelled level ws e)
    (hs : s.IsBetween) :
    (∀ u, ws.foldlM (word level) s = .ok u → u.IsBetween) ∧
      ∀ t, (∃ u, ws.foldlM (word level) s = .ok u ∧ u.settle = .ok t) ↔
        s.enter level e = .ok t := by
  obtain henter | ⟨slot, value, rfl, hheld⟩ := foldlM_spelled h hs
  · rw [henter]
    refine ⟨fun u hu => ?_, fun t => ⟨?_, fun ht => ?_⟩⟩
    · obtain ⟨hp, ht⟩ := enter_ok hu
      exact isBetween_of_pending hp (ht.trans hs.trailing)
    · rintro ⟨u, hu, ht⟩
      rw [settle_of_pending (enter_ok hu).1] at ht
      rwa [← ht]
    · exact ⟨t, ht, settle_of_pending (enter_ok ht).1⟩
  · rw [hheld]
    cases hsettle : s.settle with
    | error f => simp [enter_ok_iff (s := s), hsettle, Except.map]
    | ok t =>
      obtain ⟨hp, ht, -⟩ := settle_ok hsettle
      have hheld : (t.held slot (some value)).settle = t.enter level (.value slot value) :=
        settle_held hp
      refine ⟨?_, fun u => ?_⟩
      · rintro u hu
        cases hu
        exact ⟨rfl, ht.trans hs.trailing⟩
      · rw [enter_ok_iff, hsettle]
        simp [Except.map, hheld]

/-! ### Rows of options and arguments -/

theorem words_append (ws rest : List String) :
    s.words level (ws ++ rest) = (ws.foldlM (word level) s).bind fun u => u.words level rest := by
  induction ws generalizing s with
  | nil => rfl
  | cons w ws ih =>
    rw [List.cons_append, words, List.foldlM_cons]
    cases s.word level w with
    | error f => rfl
    | ok t => exact ih

theorem foldlM_enter_cons_iff {r : Scan} {e : Entry} {es : List Entry} :
    (∃ t, s.enter level e = .ok t ∧ es.foldlM (enter level) t = .ok r) ↔
      ∃ t, s.settle = .ok t ∧ (e :: es).foldlM (enter level) t = .ok r := by
  constructor
  · rintro ⟨u, hu, hr⟩
    obtain ⟨t, ht, htu⟩ := enter_ok_iff.1 hu
    exact ⟨t, ht, Outcome.foldlM_cons_eq_ok.2 ⟨u, htu, hr⟩⟩
  · rintro ⟨t, ht, hr⟩
    obtain ⟨u, htu, hu⟩ := Outcome.foldlM_cons_eq_ok.1 hr
    exact ⟨u, enter_ok_iff.2 ⟨t, ht, htu⟩, hu⟩

theorem foldlM_spelled_bind {α : Type} {ws : List String} {e : Entry} {es : List Entry}
    (h : Spelled level ws e) (hs : s.IsBetween) {f : Scan → Except Usage α} {a : α}
    {P : Scan → Prop}
    (hf : ∀ u : Scan, u.IsBetween → (f u = .ok a ↔ ∃ t, u.settle = .ok t ∧
      ∃ r, es.foldlM (enter level) t = .ok r ∧ P r)) :
    (ws.foldlM (word level) s).bind f = .ok a ↔ ∃ t, s.settle = .ok t ∧
      ∃ r, (e :: es).foldlM (enter level) t = .ok r ∧ P r := by
  obtain ⟨hbetween, henter⟩ := foldlM_spelled_ok h hs
  rw [Outcome.bind_eq_ok]
  constructor
  · rintro ⟨u, hu, ha⟩
    obtain ⟨t, ht, r, hr, hp⟩ := (hf u (hbetween u hu)).1 ha
    obtain ⟨t', ht', hr'⟩ := foldlM_enter_cons_iff.1 ⟨t, (henter t).1 ⟨u, hu, ht⟩, hr⟩
    exact ⟨t', ht', r, hr', hp⟩
  · rintro ⟨t, ht, r, hr, hp⟩
    obtain ⟨t', ht', hr'⟩ := foldlM_enter_cons_iff.2 ⟨t, ht, hr⟩
    obtain ⟨u, hu, hu'⟩ := (henter t').2 ht'
    exact ⟨u, hu, (hf u (hbetween u hu)).2 ⟨t', hu', r, hr', hp⟩⟩

/-- At the level of a command, the words of complete options and arguments enter these one after the
other. -/
theorem words_items_iff {items : List Item} (hi : ∀ i ∈ items, i.IsAt level) (hs : s.IsBetween)
    {r : Scan} :
    s.words level (items.flatMap Item.words) = .ok r ↔
      ∃ t, s.settle = .ok t ∧ (items.map Item.entry).foldlM (enter level) t = .ok r := by
  induction items generalizing s with
  | nil => simp [words, pure, Except.pure]
  | cons i items ih =>
    have hrest : ∀ j ∈ items, j.IsAt level := fun j hj => hi j (List.mem_cons_of_mem _ hj)
    rw [List.flatMap_cons, words_append, List.map_cons]
    have hbind : ((i.words.foldlM (word level) s).bind
          fun u => u.words level (items.flatMap Item.words)) = .ok r ↔
        ∃ t, s.settle = .ok t ∧
          ∃ x, (i.entry :: items.map Item.entry).foldlM (enter level) t = .ok x ∧ x = r :=
      foldlM_spelled_bind (hi i (List.mem_cons_self ..)) hs
        fun u hu => by simpa using ih hrest hu
    simpa using hbind

end Scan

/-! ### The program's level -/

theorem ofName?_name (v : Verb) : Verb.ofName? v.name = some v := by
  cases v <;> decide

theorem eq_name_of_ofName? {w : String} {v : Verb} (h : Verb.ofName? w = some v) : w = v.name := by
  unfold Verb.ofName? at h
  split at h
  next hw => exact hw.trans (congrArg Verb.name (Option.some.inj h))
  next =>
    split at h
    next hw => exact hw.trans (congrArg Verb.name (Option.some.inj h))
    next =>
      split at h
      next hw => exact hw.trans (congrArg Verb.name (Option.some.inj h))
      next => cases h

theorem read_cons {s : Scan} {w : String} (h : w.toList.head? = some '-' ∨ s.awaits = true)
    (rest : List String) : read s (w :: rest) = (s.word none w).bind fun u => read u rest := by
  rw [read]
  split
  next ht =>
    have ha : s.awaits = false := by
      simp only [Scan.takesCommand, Bool.and_eq_true, Bool.not_eq_true'] at ht
      exact ht.2
    have hw : w.toList.head? = some '-' := by simpa [ha] using h
    have hv : Verb.ofName? w = none := by
      cases hv : Verb.ofName? w with
      | none => rfl
      | some v =>
        rw [eq_name_of_ofName? hv] at hw
        cases v <;> exact absurd hw (by decide)
    have hhelp : w ≠ "help" := by
      rintro rfl
      exact absurd hw (by decide)
    rw [hv]
    simp [hhelp]
  next => rfl

theorem read_spelled {s : Scan} {ws : List String} {e : Entry} (h : Spelled none ws e)
    (hs : s.IsBetween) (rest : List String) :
    read s (ws ++ rest) = (ws.foldlM (Scan.word none) s).bind fun u => read u rest := by
  obtain ⟨w, rfl, hw, -⟩ | ⟨w, slot, value, rfl, -, hw, -, hgive⟩ := Scan.word_spelled h hs
  · rw [List.cons_append, read_cons (.inl (hw.resolve_right (fun h => h rfl))), List.foldlM_cons]
    cases s.word none w <;> rfl
  · rw [List.cons_append, read_cons (.inl hw), List.foldlM_cons, hgive, Scan.give]
    cases s.settle with
    | error f => rfl
    | ok t =>
      change read (t.held slot none) (value :: rest) =
        ([value].foldlM (Scan.word none) (t.held slot none)).bind fun u => read u rest
      rw [read_cons (.inr rfl), List.foldlM_cons]
      cases (t.held slot none).word none value <;> rfl

theorem read_verb {s : Scan} (hs : s.IsBetween) (v : Verb) (rest : List String) :
    read s (v.name :: rest) = (Scan.words (some v) {} rest).bind fun own =>
      (command? v own).bind fun command =>
        s.settle.map fun program => combine program own command := by
  have ht : s.takesCommand = true := by
    rw [Scan.takesCommand, hs.awaits, hs.trailing]
    rfl
  rw [read, if_pos ht, ofName?_name]

theorem read_verb_iff {s : Scan} (hs : s.IsBetween) {v : Verb} {rest : List String}
    {a : Arguments} :
    read s (v.name :: rest) = .ok a ↔ ∃ program, s.settle = .ok program ∧
      ∃ own command, Scan.words (some v) {} rest = .ok own ∧ command? v own = .ok command ∧
        combine program own command = a := by
  simp only [read_verb hs, Outcome.bind_eq_ok, Outcome.map_eq_ok]
  constructor
  · rintro ⟨own, hown, command, hcommand, program, hprogram, ha⟩
    exact ⟨program, hprogram, own, command, hown, hcommand, ha⟩
  · rintro ⟨program, hprogram, own, command, hown, hcommand, ha⟩
    exact ⟨own, hown, command, hcommand, program, hprogram, ha⟩

/-- At the level of the program, the words of complete options enter these one after the other, up
to the name of a command. -/
theorem read_items_iff {items : List Item} (hi : ∀ i ∈ items, i.IsAt none) {s : Scan}
    (hs : s.IsBetween) {v : Verb} {rest : List String} {a : Arguments} :
    read s (items.flatMap Item.words ++ v.name :: rest) = .ok a ↔ ∃ t, s.settle = .ok t ∧
      ∃ program, (items.map Item.entry).foldlM (Scan.enter none) t = .ok program ∧
        ∃ own command, Scan.words (some v) {} rest = .ok own ∧ command? v own = .ok command ∧
          combine program own command = a := by
  induction items generalizing s with
  | nil =>
    rw [List.flatMap_nil, List.nil_append, read_verb_iff hs]
    simp [pure, Except.pure]
  | cons i items ih =>
    have hrest : ∀ j ∈ items, j.IsAt none := fun j hj => hi j (List.mem_cons_of_mem _ hj)
    have hfirst := hi i (List.mem_cons_self ..)
    rw [List.flatMap_cons, List.append_assoc, read_spelled hfirst hs]
    exact Scan.foldlM_spelled_bind hfirst hs fun u hu => ih hrest hu

theorem isBetween_start : ({} : Scan).IsBetween := ⟨rfl, rfl⟩

/-- The words of a command line enter what they stand for one after the other, first at the level of
the program and then at that of the command. -/
theorem parse_line_iff (l : Line) {a : Arguments} :
    parse l.words = .ok a ↔ ∃ program own command,
      (l.front.map Item.entry).foldlM (Scan.enter none) {} = .ok program ∧
      (l.back.map Item.entry).foldlM (Scan.enter (some l.verb)) {} = .ok own ∧
      command? l.verb own = .ok command ∧ combine program own command = a := by
  have hstart : ({} : Scan).settle = .ok {} := rfl
  rw [parse, Line.words, read_items_iff l.front_spelled isBetween_start, hstart]
  simp only [Except.ok.injEq, exists_eq_left',
    Scan.words_items_iff l.back_spelled isBetween_start, hstart, exists_and_left]

end LayerTransfer.CommandLine
