import LayerTransfer.Proofs.Json.Members

namespace LayerTransfer.Json

variable {σ α β : Type} {fields : List (Field σ)} {shape : Shape σ α}

/-! ### Fields -/

/-- Whether a field takes one value, whatever has been read before, and puts it among the others. -/
structure Field.Puts (f : Field σ) (value : Reader α) (put : σ → α → σ) : Prop where
  takes : Takes value
  read_eq : ∀ s ts, f.read s ts = (value ts).map fun (a, r) => (put s a, r)
  sets : ∀ s a, f.isSet (put s a) = true

theorem Field.Puts.takes_read {f : Field σ} {value : Reader α} {put : σ → α → σ}
    (h : f.Puts value put) (s : σ) : Takes (f.read s) := by
  have he : f.read s = fun ts => (value ts).map fun (a, r) => (put s a, r) := funext (h.read_eq s)
  rw [he]
  exact h.takes.map (put s)

theorem Field.Puts.reads_iff {f : Field σ} {value : Reader α} {put : σ → α → σ}
    (h : f.Puts value put) {s t : σ} {v : Value} :
    Reads (f.read s) v.tokens t ↔ ∃ a, Reads value v.tokens a ∧ put s a = t := by
  constructor
  · intro hr
    have hnil := hr []
    rw [h.read_eq] at hnil
    obtain ⟨⟨a, r⟩, ha, he⟩ := Outcome.ok_of_map hnil
    cases he
    exact ⟨a, (h.takes v [] a _ ha).2, rfl⟩
  · rintro ⟨a, ha, rfl⟩ r
    rw [h.read_eq, ha r]
    rfl

structure Precedes (f g : Field σ) : Prop where
  isSet : ∀ s t v, Reads (f.read s) (Value.tokens v) t → g.isSet t = g.isSet s
  exchange : ∀ s t u v w, Reads (f.read s) (Value.tokens v) t → Reads (g.read t) (Value.tokens w) u →
    ∃ t', Reads (g.read s) w.tokens t' ∧ Reads (f.read t') v.tokens u

theorem precedes_of_puts {f g : Field σ} {value : Reader α} {other : Reader β} {put : σ → α → σ}
    {add : σ → β → σ} (hf : f.Puts value put) (hg : g.Puts other add)
    (hset : ∀ s a, g.isSet (put s a) = g.isSet s)
    (hput : ∀ s a b, put (add s b) a = add (put s a) b) : Precedes f g where
  isSet s t v h := by
    obtain ⟨a, -, rfl⟩ := hf.reads_iff.1 h
    exact hset s a
  exchange s t u v w hv hw := by
    obtain ⟨a, ha, rfl⟩ := hf.reads_iff.1 hv
    obtain ⟨b, hb, rfl⟩ := hg.reads_iff.1 hw
    exact ⟨add s b, hg.reads_iff.2 ⟨b, hb, rfl⟩, hf.reads_iff.2 ⟨a, ha, hput s a b⟩⟩

def Apart (f g : Field σ) : Prop := Precedes f g ∧ Precedes g f

instance : Std.Symm (Apart (σ := σ)) := ⟨fun _ _ h => ⟨h.2, h.1⟩⟩

theorem apart_of_puts {f g : Field σ} {value : Reader α} {other : Reader β} {put : σ → α → σ}
    {add : σ → β → σ} (hf : f.Puts value put) (hg : g.Puts other add)
    (hfg : ∀ s a, g.isSet (put s a) = g.isSet s) (hgf : ∀ s b, f.isSet (add s b) = f.isSet s)
    (hput : ∀ s a b, put (add s b) a = add (put s a) b) : Apart f g :=
  ⟨precedes_of_puts hf hg hfg hput, precedes_of_puts hg hf hgf fun s a b => (hput s b a).symm⟩

/-- Fields that take whole values and may be read in any order. -/
structure Orderly (fields : List (Field σ)) : Prop where
  puts : ∀ f ∈ fields, ∃ (α : Type) (value : Reader α) (put : σ → α → σ), f.Puts value put
  apart : fields.Pairwise Apart

theorem Orderly.nil : Orderly (σ := σ) [] :=
  ⟨List.forall_mem_nil _, .nil⟩

theorem Orderly.cons {f : Field σ} {value : Reader α} {put : σ → α → σ} (hf : f.Puts value put)
    (ha : ∀ g ∈ fields, Apart f g) (h : Orderly fields) : Orderly (f :: fields) :=
  ⟨List.forall_mem_cons.2 ⟨⟨α, value, put, hf⟩, h.puts⟩, .cons ha h.apart⟩

theorem Orderly.takes (h : Orderly fields) : ∀ f ∈ fields, ∀ s, Takes (f.read s) := by
  intro f hf s
  obtain ⟨α, value, put, hput⟩ := h.puts f hf
  exact hput.takes_read s

theorem Orderly.isSet_of_reads (h : Orderly fields) {f : Field σ} (hf : f ∈ fields) {s t : σ}
    {v : Value} (hr : Reads (f.read s) v.tokens t) : f.isSet t = true := by
  obtain ⟨α, value, put, hput⟩ := h.puts f hf
  obtain ⟨a, -, rfl⟩ := hput.reads_iff.1 hr
  exact hput.sets s a

theorem Orderly.precedes (h : Orderly fields) {f g : Field σ} (hf : f ∈ fields) (hg : g ∈ fields)
    (hne : f.key ≠ g.key) : Precedes f g :=
  (h.apart.forall hf hg fun he => hne (congrArg Field.key he)).1

/-! ### Members in another order -/

theorem Step.exchange (h : Orderly fields) {s t u : σ} {m n : Member} (hm : Step fields s m t)
    (hn : Step fields t n u) : ∃ t', Step fields s n t' ∧ Step fields t' m u := by
  cases hm with
  | unknown hname hfind => exact ⟨u, hn, .unknown hname hfind⟩
  | @known f t hname hfind hset hread =>
    cases hn with
    | unknown hname' hfind' => exact ⟨s, .unknown hname' hfind', .known hname hfind hset hread⟩
    | @known g u hname' hfind' hset' hread' =>
      have hf := List.mem_of_find?_eq_some hfind
      have hg := List.mem_of_find?_eq_some hfind'
      by_cases hkey : f.key = g.key
      · -- the same field cannot be read twice
        have he : f = g := Option.some.inj (hfind.symm.trans (by rw [hkey]; exact hfind'))
        rw [← he, h.isSet_of_reads hf hread] at hset'
        cases hset'
      · have hfg := h.precedes hf hg hkey
        obtain ⟨t', ht', hu⟩ := hfg.exchange s t u m.2 n.2 hread hread'
        have hset2 : g.isSet s = false := (hfg.isSet s t m.2 hread).symm.trans hset'
        have hset1 : f.isSet t' = false :=
          ((h.precedes hg hf (Ne.symm hkey)).isSet s t' n.2 ht').trans hset
        exact ⟨t', .known hname' hfind' hset2 ht', .known hname hfind hset1 hu⟩

theorem Gathers.perm (h : Orderly fields) {s t : σ} {ms ms' : List Member} (hp : ms.Perm ms')
    (hg : Gathers fields s ms t) : Gathers fields s ms' t := by
  induction hp generalizing s with
  | nil => exact hg
  | cons m _ ih =>
    cases hg with
    | cons hm hms => exact .cons hm (ih hms)
  | swap m n ms =>
    cases hg with
    | cons hn hrest =>
      cases hrest with
      | cons hm hms =>
        obtain ⟨t', hm', hn'⟩ := hn.exchange h hm
        exact .cons hm' (.cons hn' hms)
  | trans _ _ ih1 ih2 => exact ih2 (ih1 hg)

/-! ### Members that are not known -/

theorem gathers_append {s u : σ} {ms ms' : List Member} :
    Gathers fields s (ms ++ ms') u ↔ ∃ t, Gathers fields s ms t ∧ Gathers fields t ms' u := by
  induction ms generalizing s with
  | nil =>
    constructor
    · exact fun h => ⟨s, .nil s, h⟩
    · rintro ⟨t, hs, h⟩
      cases hs
      exact h
  | cons m ms ih =>
    constructor
    · intro h
      cases h with
      | cons hm hms =>
        obtain ⟨t, ht, hu⟩ := ih.1 hms
        exact ⟨t, .cons hm ht, hu⟩
    · rintro ⟨t, hs, h⟩
      cases hs with
      | cons hm hms => exact .cons hm (ih.2 ⟨t, hms, h⟩)

/-- The names of the members that a record knows. -/
def Shape.names (shape : Shape σ α) : List String :=
  shape.fields.map Field.key

theorem find?_of_not_mem {name : String} (h : name ∉ shape.names) :
    shape.fields.find? (·.key = name) = none := by
  refine List.find?_eq_none.2 fun f hf => ?_
  have hne : f.key ≠ name := fun he => h (he ▸ List.mem_map_of_mem hf)
  simpa using hne

/-- Objects with their members in another order, or with one more member under a name that is not
among `known`. -/
inductive Rearranged (known : List String) : List Member → List Member → Prop
  | reorder {ms ms' : List Member} (h : ms.Perm ms') : Rearranged known ms ms'
  | insert (before after : List Member) {m : Member} {name : String} (hm : m.IsNamed name)
    (hname : name ∉ known) : Rearranged known (before ++ after) (before ++ m :: after)

theorem Gathers.rearranged (h : Orderly shape.fields) {s t : σ} {ms ms' : List Member}
    (hr : Rearranged shape.names ms ms') (hg : Gathers shape.fields s ms t) :
    Gathers shape.fields s ms' t := by
  cases hr with
  | reorder hp => exact hg.perm h hp
  | insert before after hm hname =>
    obtain ⟨u, hu, ht⟩ := gathers_append.1 hg
    exact gathers_append.2 ⟨u, hu, .cons (.unknown hm (find?_of_not_mem hname)) ht⟩

/-! ### Members with another value -/

def Replaces (read : Reader α) (v w : Value) : Prop :=
  ∀ a, Reads read v.tokens a → Reads read w.tokens a

theorem replaces_list {element : Reader α} (he : Takes element) {items items' : List Value}
    (h : List.Forall₂ (Replaces element) items items') :
    Replaces (readList element) (.list items) (.list items') := by
  intro as has
  obtain ⟨-, items1, hitems, hall⟩ := of_readList he (has [])
  cases hitems
  refine reads_items ?_
  clear has
  induction h generalizing as with
  | nil => exact hall
  | cons hv _ ih =>
    cases hall with
    | cons ha hall => exact .cons (hv _ ha) (ih _ hall)

/-- A rearranged object makes the same record. -/
theorem replaces_object (h : Orderly shape.fields) {ms ms' : List Member}
    (hr : Rearranged shape.names ms ms') :
    Replaces (readRecord shape) (.object ms) (.object ms') := by
  intro a ha
  obtain ⟨-, t, hms, hfinish⟩ := of_readRecord_object h.takes (ha [])
  exact reads_object (hms.rearranged h hr) hfinish

theorem Field.Puts.replaces {f : Field σ} {value : Reader α} {put : σ → α → σ}
    (hf : f.Puts value put) {v w : Value} (h : Replaces value v w) (s : σ) :
    Replaces (f.read s) v w := by
  intro t ht
  obtain ⟨a, ha, he⟩ := hf.reads_iff.1 ht
  exact hf.reads_iff.2 ⟨a, h a ha, he⟩

theorem replaces_member (h : Orderly shape.fields) {f : Field σ}
    (hf : shape.fields.find? (·.key = f.key) = some f) {key : List Piece}
    (hkey : string none key = .ok f.key) {v w : Value} (hv : ∀ s, Replaces (f.read s) v w)
    (before after : List Member) :
    Replaces (readRecord shape) (.object (before ++ (key, v) :: after))
      (.object (before ++ (key, w) :: after)) := by
  intro a ha
  obtain ⟨-, t, hms, hfinish⟩ := of_readRecord_object h.takes (ha [])
  obtain ⟨s, hs, ht⟩ := gathers_append.1 hms
  refine reads_object (gathers_append.2 ⟨s, hs, ?_⟩) hfinish
  cases ht with
  | cons hm hafter =>
    refine .cons ?_ hafter
    cases hm with
    | @known g t hname hfind hset hread =>
      have hg : g.key = f.key := hname.unique (m := (key, v)) hkey
      rw [← hg, hfind] at hf
      cases hf
      exact .known hname hfind hset (hv _ _ hread)
    | unknown hname hfind => exact .unknown hname hfind

/-! ### What a record is made of -/

theorem Gathers.isSet_eq (h : Orderly fields) {f : Field σ} (hf : f ∈ fields) {s t : σ}
    {ms : List Member} (hg : Gathers fields s ms t) (hms : ∀ m ∈ ms, ¬ m.IsNamed f.key) :
    f.isSet t = f.isSet s := by
  induction hg with
  | nil s => rfl
  | cons hm _ ih =>
    obtain ⟨hnot, hrest⟩ := List.forall_mem_cons.1 hms
    refine (ih hrest).trans ?_
    cases hm with
    | @known g t hname hfind hset hread =>
      have hne : g.key ≠ f.key := fun he => hnot (he ▸ hname)
      exact (h.precedes (List.mem_of_find?_eq_some hfind) hf hne).isSet _ _ _ hread
    | unknown => rfl

theorem Gathers.exists_member (h : Orderly fields) {f : Field σ} (hf : f ∈ fields) {s t : σ}
    {ms : List Member} (hg : Gathers fields s ms t) (hs : f.isSet s = false)
    (ht : f.isSet t = true) : ∃ m ∈ ms, m.IsNamed f.key := by
  by_contra hnone
  have hms : ∀ m ∈ ms, ¬ m.IsNamed f.key := fun m hm hname => hnone ⟨m, hm, hname⟩
  rw [hg.isSet_eq h hf hms, hs] at ht
  cases ht

theorem Gathers.exists_put (h : Orderly fields) {f : Field σ}
    (hf : fields.find? (·.key = f.key) = some f) {value : Reader α} {put : σ → α → σ}
    (hp : f.Puts value put) {s t : σ} {ms : List Member} (hg : Gathers fields s ms t) {m : Member}
    (hm : m ∈ ms) (hname : m.IsNamed f.key) : ∃ u a, Reads value m.2.tokens a ∧ put u a = t := by
  obtain ⟨before, after, rfl⟩ := List.append_of_mem hm
  have hlast : (before ++ m :: after).Perm ((before ++ after) ++ [m]) :=
    List.perm_middle.trans (List.perm_append_singleton m _).symm
  obtain ⟨u, -, hu⟩ := gathers_append.1 (hg.perm h hlast)
  refine ⟨u, ?_⟩
  cases hu with
  | cons hstep hnil =>
    cases hnil
    cases hstep with
    | known hname' hfind _ hread =>
      rw [hname.unique hname', hfind] at hf
      cases hf
      exact hp.reads_iff.1 hread
    | unknown hname' hfind =>
      rw [hname.unique hname', hfind] at hf
      cases hf

end LayerTransfer.Json
