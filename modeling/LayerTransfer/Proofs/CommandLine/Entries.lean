import LayerTransfer.Proofs.CommandLine.Line
import Mathlib.Data.List.Nodup

namespace LayerTransfer.CommandLine

namespace Entry

def switch? : Entry → Option Switch
  | switch w => some w
  | _ => none

def value? : Entry → Option (Slot × String)
  | value slot text => some (slot, text)
  | _ => none

def valueFor? (slot : Slot) : Entry → Option String
  | value x text => if x = slot then some text else none
  | _ => none

def argument? : Entry → Option String
  | argument text => some text
  | _ => none

def once? : Entry → Option Opt
  | switch w => some (.switch w)
  | value .layer _ => none
  | value slot _ => some (.slot slot)
  | argument _ => none

def IsUsable (level : Level) : Entry → Prop
  | value .timeout text => (Decimal.parseU64 text).isSome = true
  | value .output text => text ≠ ""
  | argument _ => level = some .copy ∨ level = some .upload
  | _ => True

end Entry

structure Admissible (level : Level) (es : List Entry) : Prop where
  once : (es.filterMap Entry.once?).Nodup
  usable : ∀ e ∈ es, e.IsUsable level
  arguments : (es.filterMap Entry.argument?).length ≤ 2

def Scan.ofEntries (es : List Entry) : Scan where
  switches := es.filterMap Entry.switch?
  values := es.filterMap Entry.value?
  positionals := es.filterMap Entry.argument?

variable {level : Level} {es fs : List Entry}

theorem Admissible.front (h : Admissible level (es ++ fs)) : Admissible level es where
  once := by
    have ho := h.once
    rw [List.filterMap_append] at ho
    exact (List.nodup_append.1 ho).1
  usable e he := h.usable e (List.mem_append_left _ he)
  arguments := by
    have ha := h.arguments
    rw [List.filterMap_append, List.length_append] at ha
    omega

theorem mem_once_switch {w : Switch} :
    Opt.switch w ∈ es.filterMap Entry.once? ↔ w ∈ es.filterMap Entry.switch? := by
  simp only [List.mem_filterMap]
  refine exists_congr fun e => and_congr_right fun _ => ?_
  cases e with
  | switch x => simp [Entry.once?, Entry.switch?]
  | value slot text => cases slot <;> simp [Entry.once?, Entry.switch?]
  | argument text => simp [Entry.once?, Entry.switch?]

theorem valuesOf_ofEntries (slot : Slot) (es : List Entry) :
    (Scan.ofEntries es).valuesOf slot = es.filterMap (Entry.valueFor? slot) := by
  rw [Scan.valuesOf, Scan.ofEntries]
  induction es with
  | nil => rfl
  | cons e es ih =>
    cases e with
    | switch w => exact ih
    | argument text => exact ih
    | value x text =>
      by_cases hx : x = slot
      · simpa [List.filterMap_cons, Entry.value?, Entry.valueFor?, hx] using ih
      · simpa [List.filterMap_cons, Entry.value?, Entry.valueFor?, hx] using ih

theorem once?_eq_slot_iff {slot : Slot} (hs : slot ≠ .layer) {e : Entry} :
    e.once? = some (.slot slot) ↔ ∃ text, e.valueFor? slot = some text := by
  cases e with
  | switch w => simp [Entry.once?, Entry.valueFor?]
  | argument text => simp [Entry.once?, Entry.valueFor?]
  | value x text =>
    cases x <;> simp [Entry.once?, Entry.valueFor?, Ne.symm hs]

theorem mem_once_slot {slot : Slot} (hs : slot ≠ .layer) :
    Opt.slot slot ∈ es.filterMap Entry.once? ↔ (Scan.ofEntries es).valuesOf slot ≠ [] := by
  rw [valuesOf_ofEntries, Ne, List.filterMap_eq_nil_iff]
  simp only [List.mem_filterMap, once?_eq_slot_iff hs, not_forall, exists_prop,
    ← Option.ne_none_iff_exists', Ne]

structure Fits (level : Level) (es : List Entry) (e : Entry) : Prop where
  once : ∀ o, e.once? = some o → o ∉ es.filterMap Entry.once?
  usable : e.IsUsable level
  arguments : ∀ text, e.argument? = some text → (es.filterMap Entry.argument?).length < 2

theorem Admissible.fits {e : Entry} (h : Admissible level (es ++ [e])) : Fits level es e where
  once o ho := by
    have hn := h.once
    rw [List.filterMap_append, List.filterMap_cons_some ho, List.filterMap_nil] at hn
    exact fun hm => (List.nodup_append.1 hn).2.2 o hm o (List.mem_singleton_self o) rfl
  usable := h.usable e (by simp)
  arguments text ht := by
    have ha := h.arguments
    rw [List.filterMap_append, List.filterMap_cons_some ht, List.length_append] at ha
    exact ha

theorem Admissible.concat {e : Entry} (h : Admissible level es) (hf : Fits level es e) :
    Admissible level (es ++ [e]) where
  once := by
    rw [List.filterMap_append]
    cases ho : e.once? with
    | none => simpa [ho] using h.once
    | some o =>
      rw [List.filterMap_cons_some ho, List.filterMap_nil]
      refine List.nodup_append.2 ⟨h.once, List.nodup_singleton o, ?_⟩
      rintro x hx y hy rfl
      exact hf.once x (List.mem_singleton.1 hy ▸ ho) hx
  usable x hx := by
    rcases List.mem_append.1 hx with hx | hx
    · exact h.usable x hx
    · exact List.mem_singleton.1 hx ▸ hf.usable
  arguments := by
    rw [List.filterMap_append, List.length_append]
    cases ht : e.argument? with
    | none => simpa [ht] using h.arguments
    | some text =>
      rw [List.filterMap_cons_some ht]
      exact hf.arguments text ht

def Scan.entered (s : Scan) : Entry → Scan
  | .switch w => { s with switches := s.switches ++ [w] }
  | .value slot text => { s with values := s.values ++ [(slot, text)] }
  | .argument text => { s with positionals := s.positionals ++ [text] }

theorem Scan.ofEntries_concat (es : List Entry) (e : Entry) :
    Scan.ofEntries (es ++ [e]) = (Scan.ofEntries es).entered e := by
  cases e <;> simp [ofEntries, entered, Entry.switch?, Entry.value?, Entry.argument?]

theorem turnOn_ofEntries_iff {w : Switch} {t : Scan} :
    (Scan.ofEntries es).turnOn w = .ok t ↔
      Opt.switch w ∉ es.filterMap Entry.once? ∧ Scan.ofEntries (es ++ [.switch w]) = t := by
  rw [Scan.turnOn, Scan.settle_of_pending rfl, mem_once_switch, Scan.ofEntries_concat]
  simp only [Except.bind, Scan.ofEntries, Scan.entered]
  by_cases hw : w ∈ es.filterMap Entry.switch? <;> simp [hw]

theorem isUsable_value_iff {slot : Slot} {text : String} :
    Entry.IsUsable level (.value slot text) ↔
      ¬(slot = .timeout ∧ (Decimal.parseU64 text).isNone = true) ∧ ¬(slot = .output ∧ text = "") := by
  cases slot <;> simp [Entry.IsUsable, Option.isSome_iff_ne_none]

theorem store_ofEntries_iff {slot : Slot} {text : String} {t : Scan} :
    (Scan.ofEntries es).store slot text = .ok t ↔
      (slot ≠ .layer → Opt.slot slot ∉ es.filterMap Entry.once?) ∧
      Entry.IsUsable level (.value slot text) ∧ Scan.ofEntries (es ++ [.value slot text]) = t := by
  have hgiven : (slot ≠ .layer → Opt.slot slot ∉ es.filterMap Entry.once?) ↔
      ¬(slot ≠ .layer ∧ (Scan.ofEntries es).valuesOf slot ≠ []) := by
    rw [not_and]
    exact forall_congr' fun hs => not_congr (mem_once_slot hs)
  rw [Scan.store, isUsable_value_iff, hgiven, Scan.ofEntries_concat]
  split
  next h => simp [h]
  next h =>
    split
    next ht => simp [ht]
    next ht =>
      split
      next ho => simp [ho]
      next ho => simp only [h, ht, ho, not_false_eq_true, true_and, Except.ok.injEq, Scan.entered]

theorem positional_ofEntries_iff {text : String} {t : Scan} :
    (Scan.ofEntries es).positional level text = .ok t ↔
      Entry.IsUsable level (Entry.argument text) ∧ (es.filterMap Entry.argument?).length < 2 ∧
      Scan.ofEntries (es ++ [Entry.argument text]) = t := by
  rw [Scan.positional_ok_iff, Scan.settle_of_pending rfl, Scan.ofEntries_concat]
  simp only [Except.ok.injEq, exists_eq_left', Entry.IsUsable]
  rfl

theorem enter_ofEntries_iff {e : Entry} {t : Scan} :
    (Scan.ofEntries es).enter level e = .ok t ↔
      Fits level es e ∧ Scan.ofEntries (es ++ [e]) = t := by
  cases e with
  | switch w =>
    have hfits : Fits level es (.switch w) ↔ Opt.switch w ∉ es.filterMap Entry.once? := by
      refine ⟨fun h => h.once _ rfl, fun h => ⟨?_, trivial, fun _ ht => nomatch ht⟩⟩
      rintro o ho
      cases ho
      exact h
    rw [hfits]
    exact turnOn_ofEntries_iff
  | value slot text =>
    have honce : (∀ o, (Entry.value slot text).once? = some o → o ∉ es.filterMap Entry.once?) ↔
        (slot ≠ .layer → Opt.slot slot ∉ es.filterMap Entry.once?) := by
      cases slot <;> simp [Entry.once?]
    have hfits : Fits level es (.value slot text) ↔
        (slot ≠ .layer → Opt.slot slot ∉ es.filterMap Entry.once?) ∧
          Entry.IsUsable level (.value slot text) := by
      refine ⟨fun h => ⟨honce.1 h.once, h.usable⟩, fun h => ?_⟩
      exact ⟨honce.2 h.1, h.2, fun _ ht => (nomatch ht)⟩
    rw [hfits, and_assoc]
    exact store_ofEntries_iff
  | argument text =>
    have hfits : Fits level es (.argument text) ↔
        Entry.IsUsable level (Entry.argument text) ∧ (es.filterMap Entry.argument?).length < 2 := by
      refine ⟨fun h => ⟨h.usable, h.arguments text rfl⟩, fun h => ?_⟩
      exact ⟨fun _ ho => (nomatch ho), h.1, fun _ _ => h.2⟩
    rw [hfits, and_assoc]
    exact positional_ofEntries_iff

theorem foldlM_enter_ofEntries (h : Admissible level es) {r : Scan} :
    fs.foldlM (Scan.enter level) (Scan.ofEntries es) = .ok r ↔
      Admissible level (es ++ fs) ∧ Scan.ofEntries (es ++ fs) = r := by
  induction fs generalizing es with
  | nil => simp [pure, Except.pure, h]
  | cons f fs ih =>
    rw [Outcome.foldlM_cons_eq_ok, List.append_cons]
    constructor
    · rintro ⟨t, ht, hr⟩
      obtain ⟨hf, rfl⟩ := enter_ofEntries_iff.1 ht
      exact (ih (h.concat hf)).1 hr
    · rintro ⟨hall, hr⟩
      exact ⟨_, enter_ofEntries_iff.2 ⟨hall.front.fits, rfl⟩, (ih hall.front).2 ⟨hall, hr⟩⟩

theorem foldlM_enter_iff {r : Scan} :
    es.foldlM (Scan.enter level) {} = .ok r ↔ Admissible level es ∧ Scan.ofEntries es = r := by
  have hnone : Admissible level [] := ⟨List.nodup_nil, by simp, by simp⟩
  exact foldlM_enter_ofEntries hnone

end LayerTransfer.CommandLine
