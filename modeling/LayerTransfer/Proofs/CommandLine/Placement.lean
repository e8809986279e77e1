import LayerTransfer.Proofs.CommandLine.Division
import LayerTransfer.Proofs.CommandLine.Entries
import Mathlib.Data.List.Perm.Basic

namespace LayerTransfer.CommandLine

def Slot.isGlobal : Slot → Bool
  | timeout | token | defaultRegistry => true
  | image | layer | output => false

namespace Entry

/-- Whether an entry gives an option of the program. -/
def isGlobal : Entry → Bool
  | switch _ => true
  | value slot _ => slot.isGlobal
  | argument _ => false

def isOwn (e : Entry) : Bool := !e.isGlobal

theorem valueFor?_of_isGlobal {e : Entry} {slot : Slot} (he : e.isGlobal = true)
    (hs : slot.isGlobal = false) : e.valueFor? slot = none := by
  cases e with
  | switch w => rfl
  | argument text => rfl
  | value x text =>
    have hx : x ≠ slot := by
      rintro rfl
      exact Bool.false_ne_true (hs.symm.trans he)
    exact if_neg hx

theorem argument?_of_isGlobal {e : Entry} (he : e.isGlobal = true) : e.argument? = none := by
  cases e with
  | switch w => rfl
  | value slot text => rfl
  | argument text => cases he

theorem isUsable_of_isGlobal {e : Entry} {level level' : Level} (he : e.isGlobal = true)
    (h : e.IsUsable level) : e.IsUsable level' := by
  cases e with
  | switch w => trivial
  | argument text => cases he
  | value slot text => cases slot <;> exact h

theorem once?_ne_once? {e f : Entry} {o : Opt} (he : e.isGlobal = true) (hf : f.isGlobal = false)
    (ho : e.once? = some o) : f.once? ≠ some o := by
  intro hfo
  cases f with
  | switch w => cases hf
  | argument text => cases hfo
  | value y text =>
    cases e with
    | argument text => cases he
    | switch w =>
      cases ho
      cases y <;> cases hfo
    | value x text => cases x <;> cases y <;> cases he <;> cases hf <;> cases ho <;> cases hfo

end Entry

/-! ### Values that are given once -/

theorem length_valuesFor {slot : Slot} (hs : slot ≠ .layer) (es : List Entry) :
    (es.filterMap (Entry.valueFor? slot)).length =
      (es.filterMap Entry.once?).count (.slot slot) := by
  induction es with
  | nil => rfl
  | cons e es ih =>
    by_cases ho : e.once? = some (.slot slot)
    · obtain ⟨text, ht⟩ := (once?_eq_slot_iff hs).1 ho
      rw [List.filterMap_cons_some ht, List.filterMap_cons_some ho, List.length_cons,
        List.count_cons_self, ih]
    · have hv : e.valueFor? slot = none := by
        rw [Option.eq_none_iff_forall_ne_some]
        exact fun text ht => ho ((once?_eq_slot_iff hs).2 ⟨text, ht⟩)
      rw [List.filterMap_cons_none hv, ih]
      cases hx : e.once? with
      | none => rw [List.filterMap_cons_none hx]
      | some o =>
        have hne : o ≠ .slot slot := fun h => ho (h ▸ hx)
        rw [List.filterMap_cons_some hx, List.count_cons_of_ne hne]

theorem length_valuesFor_le_one {es : List Entry} {slot : Slot} (hs : slot ≠ .layer)
    (h : (es.filterMap Entry.once?).Nodup) : (es.filterMap (Entry.valueFor? slot)).length ≤ 1 := by
  rw [length_valuesFor hs]
  exact List.nodup_iff_count_le_one.1 h _

theorem eq_of_perm_of_length_le_one {α : Type} {l l' : List α} (h : l.Perm l')
    (hl : l.length ≤ 1) : l = l' := by
  match l, hl with
  | [], _ => exact h.nil_eq
  | [x], _ => exact h.singleton_eq

def Arguments.ofEntries (command : Command) (es : List Entry) : Arguments :=
  let on (w : Switch) : Bool := (es.filterMap Entry.switch?).contains w
  let value (slot : Slot) : Option String := (es.filterMap (Entry.valueFor? slot)).head?
  { command
    verbose := on .verbose
    quiet := on .quiet
    insecure := on .insecure
    skipTls := on .skipTls
    timeout := (value .timeout).bind Decimal.parseU64
    token := value .token
    defaultRegistry := value .defaultRegistry }

theorem Arguments.ofEntries_perm {es es' : List Entry} (h : es.Perm es')
    (hn : (es.filterMap Entry.once?).Nodup) (command : Command) :
    Arguments.ofEntries command es = Arguments.ofEntries command es' := by
  have hon (w : Switch) :
      (es.filterMap Entry.switch?).contains w = (es'.filterMap Entry.switch?).contains w :=
    (h.filterMap _).contains_eq
  have hvalue (slot : Slot) (hs : slot ≠ .layer) :
      es.filterMap (Entry.valueFor? slot) = es'.filterMap (Entry.valueFor? slot) :=
    eq_of_perm_of_length_le_one (h.filterMap _) (length_valuesFor_le_one hs hn)
  simp only [Arguments.ofEntries, hon, hvalue .timeout (by decide),
    hvalue .token (by decide), hvalue .defaultRegistry (by decide)]

theorem combine_ofEntries (front back : List Entry) (command : Command) :
    combine (.ofEntries front) (.ofEntries back) command = .ofEntries command (back ++ front) := by
  have hon (w : Switch) : ((Scan.ofEntries front).switches.contains w ||
      (Scan.ofEntries back).switches.contains w) =
        ((back ++ front).filterMap Entry.switch?).contains w := by
    rw [List.filterMap_append, List.contains_append, Bool.or_comm]
    rfl
  have hvalue (slot : Slot) : ((Scan.ofEntries back).valuesOf slot).head?.or
      ((Scan.ofEntries front).valuesOf slot).head? =
        ((back ++ front).filterMap (Entry.valueFor? slot)).head? := by
    rw [valuesOf_ofEntries, valuesOf_ofEntries, List.filterMap_append, List.head?_append]
  simp only [combine, Arguments.ofEntries, hon, hvalue]

theorem command?_congr {v : Verb} {s t : Scan} (hp : s.positionals = t.positionals)
    (hv : ∀ slot, slot.isGlobal = false → s.valuesOf slot = t.valuesOf slot) :
    command? v s = command? v t := by
  unfold command?
  rw [hp, hv .image rfl, hv .layer rfl, hv .output rfl]

/-! ### Rows at two levels -/

/-- Rows at the level of the program and at that of a command, and the same rows with the options of
the program in other places. -/
structure Moved (front back front' back' : List Entry) : Prop where
  global_front : ∀ e ∈ front, e.isGlobal = true
  global_front' : ∀ e ∈ front', e.isGlobal = true
  own : back'.filter Entry.isOwn = back.filter Entry.isOwn
  globals : ((back' ++ front').filter Entry.isGlobal).Perm
    ((back ++ front).filter Entry.isGlobal)

theorem filterMap_isOwn {β : Type} {f : Entry → Option β}
    (hf : ∀ e, e.isGlobal = true → f e = none) (es : List Entry) :
    (es.filter Entry.isOwn).filterMap f = es.filterMap f := by
  induction es with
  | nil => rfl
  | cons e es ih =>
    cases he : e.isGlobal with
    | true =>
      rw [List.filter_cons_of_neg (by simp [Entry.isOwn, he]), List.filterMap_cons_none (hf e he),
        ih]
    | false =>
      rw [List.filter_cons_of_pos (by simp [Entry.isOwn, he]), List.filterMap_cons,
        List.filterMap_cons, ih]

theorem filter_isOwn_of_isGlobal {es : List Entry} (h : ∀ e ∈ es, e.isGlobal = true) :
    es.filter Entry.isOwn = [] := by
  rw [List.filter_eq_nil_iff]
  intro e he
  simp [Entry.isOwn, h e he]

theorem filter_isGlobal_append_isOwn (es : List Entry) :
    (es.filter Entry.isGlobal ++ es.filter Entry.isOwn).Perm es :=
  List.filter_append_perm Entry.isGlobal es

theorem nodup_once {level : Level} {front back : List Entry} (hb : Admissible level back)
    (hfront : ∀ e ∈ front, e.isGlobal = true)
    (ho : (((back ++ front).filter Entry.isGlobal).filterMap Entry.once?).Nodup) :
    ((back ++ front).filterMap Entry.once?).Nodup := by
  have hown : (back ++ front).filter Entry.isOwn = back.filter Entry.isOwn := by
    rw [List.filter_append, filter_isOwn_of_isGlobal hfront, List.append_nil]
  have hsplit := (filter_isGlobal_append_isOwn (back ++ front)).filterMap Entry.once?
  rw [← hsplit.nodup_iff, hown, List.filterMap_append]
  refine List.nodup_append.2 ⟨ho, (List.filter_sublist.filterMap _).nodup hb.once, ?_⟩
  rintro o he _ hf rfl
  obtain ⟨e, he, heo⟩ := List.mem_filterMap.1 he
  obtain ⟨f, hf, hfo⟩ := List.mem_filterMap.1 hf
  have hglobal : e.isGlobal = true := (List.mem_filter.1 he).2
  have hisOwn : f.isGlobal = false := by simpa [Entry.isOwn] using (List.mem_filter.1 hf).2
  exact Entry.once?_ne_once? hglobal hisOwn heo hfo

namespace Moved

variable {front back front' back' : List Entry} {v : Verb}

theorem perm (h : Moved front back front' back') : (back ++ front).Perm (back' ++ front') := by
  have hown : (back ++ front).filter Entry.isOwn = (back' ++ front').filter Entry.isOwn := by
    rw [List.filter_append, List.filter_append, filter_isOwn_of_isGlobal h.global_front,
      filter_isOwn_of_isGlobal h.global_front', h.own]
  have hparts := h.globals.symm.append_right ((back ++ front).filter Entry.isOwn)
  have hsplit' := filter_isGlobal_append_isOwn (back' ++ front')
  rw [← hown] at hsplit'
  exact (filter_isGlobal_append_isOwn (back ++ front)).symm.trans (hparts.trans hsplit')

theorem filterMap_back (h : Moved front back front' back') {β : Type} {f : Entry → Option β}
    (hf : ∀ e, e.isGlobal = true → f e = none) : back'.filterMap f = back.filterMap f := by
  rw [← filterMap_isOwn hf back', h.own, filterMap_isOwn hf back]

theorem admissible (h : Moved front back front' back') (hf : Admissible none front)
    (hb : Admissible (some v) back) (hn : ((back ++ front).filterMap Entry.once?).Nodup) :
    Admissible none front' ∧ Admissible (some v) back' := by
  have hn' : (back'.filterMap Entry.once? ++ front'.filterMap Entry.once?).Nodup := by
    rw [← List.filterMap_append]
    exact (h.perm.filterMap Entry.once?).nodup_iff.1 hn
  have husable {e : Entry} (he : e ∈ back' ++ front') (level : Level)
      (hg : e.isGlobal = true) : e.IsUsable level := by
    rcases List.mem_append.1 (h.perm.mem_iff.2 he) with he | he
    · exact Entry.isUsable_of_isGlobal hg (hb.usable e he)
    · exact Entry.isUsable_of_isGlobal hg (hf.usable e he)
  constructor
  · refine ⟨(List.nodup_append.1 hn').2.1, fun e he => ?_, ?_⟩
    · exact husable (List.mem_append_right _ he) none (h.global_front' e he)
    · have hnone : front'.filterMap Entry.argument? = [] := by
        rw [List.filterMap_eq_nil_iff]
        exact fun e he => Entry.argument?_of_isGlobal (h.global_front' e he)
      simp [hnone]
  · refine ⟨(List.nodup_append.1 hn').1, fun e he => ?_, ?_⟩
    · cases hg : e.isGlobal with
      | true => exact husable (List.mem_append_left _ he) (some v) hg
      | false =>
        have hown : e ∈ back'.filter Entry.isOwn :=
          List.mem_filter.2 ⟨he, by simp [Entry.isOwn, hg]⟩
        rw [h.own] at hown
        exact hb.usable e (List.mem_filter.1 hown).1
    · rw [h.filterMap_back fun e => Entry.argument?_of_isGlobal]
      exact hb.arguments

theorem command?_eq (h : Moved front back front' back') :
    command? v (.ofEntries back') = command? v (.ofEntries back) := by
  refine command?_congr (h.filterMap_back fun e => Entry.argument?_of_isGlobal) fun slot hs => ?_
  rw [valuesOf_ofEntries, valuesOf_ofEntries]
  exact h.filterMap_back fun e he => Entry.valueFor?_of_isGlobal he hs

theorem combine_eq (h : Moved front back front' back')
    (hn : ((back ++ front).filterMap Entry.once?).Nodup) (command : Command) :
    combine (.ofEntries front') (.ofEntries back') command =
      combine (.ofEntries front) (.ofEntries back) command := by
  rw [combine_ofEntries, combine_ofEntries]
  exact (Arguments.ofEntries_perm h.perm hn command).symm

end Moved

/-! ### Options at both levels -/

def Opt.isGlobal : Opt → Bool
  | .switch _ | .help => true
  | .slot x => x.isGlobal
  | .version => false

def globalNames : List String :=
  ["verbose", "quiet", "insecure", "skip-tls", "timeout", "token", "default-registry", "help"]

section
variable {level : Level} {name : String} {letter : Char} {o : Opt} {ws : List String} {e : Entry}

theorem mem_globalNames (h : longOption? level name = some o) (ho : o.isGlobal = true) :
    name ∈ globalNames := by
  by_contra hn
  simp only [globalNames, List.mem_cons, List.not_mem_nil, or_false, not_or] at hn
  simp only [longOption?, hn, if_false, onlyAt] at h
  split_ifs at h <;> cases h <;> cases ho

theorem longOption?_of_isGlobal (h : longOption? level name = some o) (ho : o.isGlobal = true)
    (level' : Level) : longOption? level' name = some o := by
  have hn := mem_globalNames h ho
  simp only [globalNames, List.mem_cons, List.not_mem_nil, or_false] at hn
  rw [← h]
  rcases hn with rfl | rfl | rfl | rfl | rfl | rfl | rfl | rfl <;> simp [longOption?]

theorem shortOption?_of_isGlobal (h : shortOption? level letter = some o) (ho : o.isGlobal = true)
    (level' : Level) : shortOption? level' letter = some o := by
  unfold shortOption? at h
  split at h <;> first
    | exact h
    | unfold onlyAt at h
      split_ifs at h
      cases h
      cases ho
    | split_ifs at h
      cases h
      cases ho
    | cases h

theorem isGlobal_of_longOption? {slot : Slot} (h : longOption? none name = some (.slot slot)) :
    slot.isGlobal = true := by
  by_cases hn : name ∈ globalNames
  · simp only [globalNames, List.mem_cons, List.not_mem_nil, or_false] at hn
    rcases hn with rfl | rfl | rfl | rfl | rfl | rfl | rfl | rfl <;>
      simp [longOption?] at h <;> exact h ▸ rfl
  · simp only [globalNames, List.mem_cons, List.not_mem_nil, or_false, not_or] at hn
    simp [longOption?, hn, onlyAt] at h

theorem isGlobal_of_shortOption? {slot : Slot}
    (h : shortOption? none letter = some (.slot slot)) : slot.isGlobal = true := by
  unfold shortOption? at h
  split at h <;> cases h
  rfl

theorem Spelled.isGlobal (h : Spelled none ws e) : e.isGlobal = true := by
  cases h with
  | longSwitch | shortSwitch => rfl
  | longJoined _ h | longApart h => exact isGlobal_of_longOption? h
  | shortJoined _ h | shortAttached h | shortApart h => exact isGlobal_of_shortOption? h
  | argument hl => exact absurd rfl hl

/-- An option of the program is written in the same ways at every level. -/
theorem Spelled.of_isGlobal (h : Spelled level ws e) (he : e.isGlobal = true) (level' : Level) :
    Spelled level' ws e := by
  cases h with
  | longSwitch h => exact .longSwitch (longOption?_of_isGlobal h rfl level')
  | shortSwitch h => exact .shortSwitch (shortOption?_of_isGlobal h rfl level')
  | longJoined value h => exact .longJoined value (longOption?_of_isGlobal h he level')
  | longApart h hv => exact .longApart (longOption?_of_isGlobal h he level') hv
  | shortJoined value h => exact .shortJoined value (shortOption?_of_isGlobal h he level')
  | shortAttached h hv hh => exact .shortAttached (shortOption?_of_isGlobal h he level') hv hh
  | shortApart h hv => exact .shortApart (shortOption?_of_isGlobal h he level') hv
  | argument => cases he

end

/-! ### Lines -/

namespace Item

def isGlobal (i : Item) : Bool := i.entry.isGlobal

def isOwn (i : Item) : Bool := i.entry.isOwn

end Item

namespace Line

def globals (l : Line) : List Item := (l.front ++ l.back).filter Item.isGlobal

def GivesGlobalsOnce (l : Line) : Prop :=
  (l.globals.filterMap fun i => i.entry.once?).Nodup

structure IsMoved (l : Line) (front back : List Item) : Prop where
  front_isGlobal : ∀ i ∈ front, i.isGlobal = true
  own : back.filter Item.isOwn = l.back.filter Item.isOwn
  globals : ((front ++ back).filter Item.isGlobal).Perm l.globals

variable {l : Line} {front back : List Item}

theorem isGlobal_of_mem_front {i : Item} (hi : i ∈ l.front) : i.isGlobal = true :=
  (l.front_spelled i hi).isGlobal

theorem IsMoved.isAt (h : l.IsMoved front back) {i : Item} (hi : i ∈ front ++ back)
    (hg : i.isGlobal = true) (level : Level) : i.IsAt level := by
  have hm : i ∈ l.globals := h.globals.mem_iff.1 (List.mem_filter.2 ⟨hi, hg⟩)
  rcases List.mem_append.1 (List.mem_filter.1 hm).1 with hm | hm
  · exact (l.front_spelled i hm).of_isGlobal hg level
  · exact (l.back_spelled i hm).of_isGlobal hg level

/-- The line with its options moved. -/
def moved (l : Line) (h : l.IsMoved front back) : Line where
  front := front
  verb := l.verb
  back := back
  front_spelled i hi := h.isAt (List.mem_append_left _ hi) (h.front_isGlobal i hi) none
  back_spelled i hi := by
    cases hg : i.isGlobal with
    | true => exact h.isAt (List.mem_append_right _ hi) hg (some l.verb)
    | false =>
      have hown : i ∈ back.filter Item.isOwn := by
        refine List.mem_filter.2 ⟨hi, ?_⟩
        rw [Item.isOwn, Entry.isOwn, Bool.not_eq_true']
        exact hg
      rw [h.own] at hown
      exact l.back_spelled i (List.mem_filter.1 hown).1

theorem globals_perm (l : Line) :
    l.globals.Perm ((l.back ++ l.front).filter Item.isGlobal) :=
  List.perm_append_comm.filter _

theorem IsMoved.entries (h : l.IsMoved front back) :
    Moved (l.front.map Item.entry) (l.back.map Item.entry) (front.map Item.entry)
      (back.map Item.entry) where
  global_front e he := by
    obtain ⟨i, hi, rfl⟩ := List.mem_map.1 he
    exact isGlobal_of_mem_front hi
  global_front' e he := by
    obtain ⟨i, hi, rfl⟩ := List.mem_map.1 he
    exact h.front_isGlobal i hi
  own := by
    rw [List.filter_map, List.filter_map]
    exact congrArg (List.map Item.entry) h.own
  globals := by
    rw [← List.map_append, ← List.map_append, List.filter_map, List.filter_map]
    have hcomm : ((back ++ front).filter Item.isGlobal).Perm
        ((front ++ back).filter Item.isGlobal) := List.perm_append_comm.filter _
    exact (hcomm.trans (h.globals.trans l.globals_perm)).map Item.entry

theorem GivesGlobalsOnce.entries (h : l.GivesGlobalsOnce) :
    (((l.back.map Item.entry ++ l.front.map Item.entry).filter Entry.isGlobal).filterMap
      Entry.once?).Nodup := by
  rw [← List.map_append, List.filter_map, List.filterMap_map]
  exact (l.globals_perm.filterMap _).nodup_iff.1 h

end Line

/-- An accepted command line without a separator and without bundled letters can be divided into
complete options and arguments. If it gives each option of the program at most once, these options
can be moved to any other places between the others, before or behind the name of the command: the
line is accepted still, and it asks for the same, so that the same settings result. -/
theorem globals_stand_anywhere {ws : List String} {a : Arguments} (h : parse ws = .ok a)
    (hs : IsSimple ws) :
    (∃ l : Line, l.words = ws) ∧
      ∀ l : Line, l.words = ws → l.GivesGlobalsOnce →
        ∀ (front back : List Item) (hm : l.IsMoved front back), parse (l.moved hm).words = .ok a := by
  refine ⟨exists_line hs h, ?_⟩
  rintro l rfl honce front back hm
  obtain ⟨program, own, command, hprogram, hown, hcommand, rfl⟩ := (parse_line_iff l).1 h
  obtain ⟨hf, rfl⟩ := foldlM_enter_iff.1 hprogram
  obtain ⟨hb, rfl⟩ := foldlM_enter_iff.1 hown
  have hmoved := hm.entries
  have hn := nodup_once hb hmoved.global_front honce.entries
  obtain ⟨hf', hb'⟩ := hmoved.admissible hf hb hn
  exact (parse_line_iff (l.moved hm)).2 ⟨_, _, command, foldlM_enter_iff.2 ⟨hf', rfl⟩,
    foldlM_enter_iff.2 ⟨hb', rfl⟩, hmoved.command?_eq.trans hcommand, hmoved.combine_eq hn command⟩

/-- An export with options at both levels. The value of the token is the name of the command. -/
def exportLine : Line where
  front :=
    [⟨["-" ++ String.singleton 'v'], .switch .verbose⟩,
      ⟨["--" ++ "token", "export"], .value .token "export"⟩]
  verb := .export
  back :=
    [⟨["--" ++ "image", "app"], .value .image "app"⟩,
      ⟨["-" ++ String.singleton 'l', "first"], .value .layer "first"⟩,
      ⟨["-" ++ String.singleton 't' ++ "=" ++ "30"], .value .timeout "30"⟩,
      ⟨["-" ++ String.singleton 'l' ++ "second"], .value .layer "second"⟩,
      ⟨["--" ++ "output" ++ "=" ++ "app.tar"], .value .output "app.tar"⟩]
  front_spelled := by
    simp only [List.forall_mem_cons]
    exact ⟨.shortSwitch rfl, .longApart rfl (by simp [IsPlainWord]), by simp⟩
  back_spelled := by
    simp only [List.forall_mem_cons]
    exact ⟨.longApart rfl (by simp [IsPlainWord]), .shortApart rfl (by simp [IsPlainWord]),
      .shortJoined "30" rfl, .shortAttached rfl (by decide) (by decide), .longJoined _ rfl, by simp⟩

theorem exportLine_isMoved : exportLine.IsMoved
    [⟨["-" ++ String.singleton 't' ++ "=" ++ "30"], .value .timeout "30"⟩]
    [⟨["--" ++ "image", "app"], .value .image "app"⟩,
      ⟨["-" ++ String.singleton 'l', "first"], .value .layer "first"⟩,
      ⟨["-" ++ String.singleton 'v'], .switch .verbose⟩,
      ⟨["-" ++ String.singleton 'l' ++ "second"], .value .layer "second"⟩,
      ⟨["--" ++ "output" ++ "=" ++ "app.tar"], .value .output "app.tar"⟩,
      ⟨["--" ++ "token", "export"], .value .token "export"⟩] where
  front_isGlobal := by decide
  own := by decide
  globals := by decide

theorem exportLine_moved_asks_same :
    let asked : Arguments :=
      { command := .export "app" ["first", "second"] "app.tar", verbose := true,
        timeout := some 30, token := some "export" }
    exportLine.words = ["-v", "--token", "export", "export", "--image", "app", "-l", "first",
        "-t=30", "-lsecond", "--output=app.tar"] ∧
      parse exportLine.words = .ok asked ∧
      (exportLine.moved exportLine_isMoved).words = ["-t=30", "export", "--image", "app", "-l",
        "first", "-v", "-lsecond", "--output=app.tar", "--token", "export"] ∧
      parse (exportLine.moved exportLine_isMoved).words = .ok asked := by
  intro asked
  have h : parse exportLine.words = .ok asked := by decide +kernel
  have hs : IsSimple exportLine.words := ⟨by decide +kernel, by decide +kernel⟩
  have honce : exportLine.GivesGlobalsOnce := by
    unfold Line.GivesGlobalsOnce
    decide +kernel
  exact ⟨by decide +kernel, h, by decide +kernel,
    (globals_stand_anywhere h hs).2 exportLine rfl honce _ _ exportLine_isMoved⟩

end LayerTransfer.CommandLine
