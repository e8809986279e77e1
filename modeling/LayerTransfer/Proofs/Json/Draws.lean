import LayerTransfer.Json.Reader
import LayerTransfer.TransferError

namespace LayerTransfer.Json

/-- A reader that makes only values with `P` of tokens among `all`, and leaves tokens among them. -/
def Draws {α : Type} (all : List Token) (P : α → Prop) (read : Reader α) : Prop :=
  ∀ ts a r, ts ⊆ all → read ts = .ok (a, r) → P a ∧ r ⊆ all

variable {α β : Type} {all : List Token} {P : α → Prop} {Q : β → Prop}

theorem Draws.map {read : Reader α} {f : α → β} (h : Draws all P read)
    (hf : ∀ a, P a → Q (f a)) : Draws all Q fun ts => (read ts).map fun (a, r) => (f a, r) := by
  intro ts b r hts hr
  obtain ⟨⟨a, r'⟩, ha, he⟩ := Outcome.ok_of_map hr
  cases he
  obtain ⟨hp, hr⟩ := h ts a r hts ha
  exact ⟨hf a hp, hr⟩

theorem Draws.bind {read : Reader α} {next : α → Reader β} (h : Draws all P read)
    (hn : ∀ a, P a → Draws all Q (next a)) :
    Draws all Q fun ts => (read ts).bind fun (a, r) => next a r := by
  intro ts b r hts hr
  obtain ⟨⟨a, r'⟩, ha, hb⟩ := Outcome.ok_of_bind hr
  obtain ⟨hp, hr'⟩ := h ts a r' hts ha
  exact hn a hp r' b r hr' hb

/-! ### Single values -/

def Holds (ts : List Token) (s : String) : Prop :=
  ∃ pieces, Token.text pieces ∈ ts ∧ string none pieces = .ok s

theorem draws_readText : Draws all (Holds all) readText := by
  intro ts s r hts hr
  unfold readText at hr
  split at hr
  next pieces r' =>
    obtain ⟨s', hs, he⟩ := Outcome.ok_of_map hr
    cases he
    obtain ⟨hm, hr⟩ := List.cons_subset.1 hts
    exact ⟨⟨pieces, hm, hs⟩, hr⟩
  next => cases hr

theorem draws_readNatural (bound : Nat) (expected : String) :
    Draws all (fun _ => True) (readNatural bound expected) := by
  intro ts n r hts hr
  unfold readNatural at hr
  split at hr
  next m r' =>
    have hr' := (List.cons_subset.1 hts).2
    split at hr
    next v _ =>
      split at hr
      · cases hr
        exact ⟨trivial, hr'⟩
      · cases hr
    all_goals cases hr
  next => cases hr

theorem draws_readOption {value : Reader α} (h : Draws all P value) :
    Draws all (fun o => ∀ a ∈ o, P a) (readOption value) := by
  intro ts o r hts hr
  unfold readOption at hr
  split at hr
  next r' =>
    cases hr
    exact ⟨by simp, (List.cons_subset.1 hts).2⟩
  next =>
    obtain ⟨⟨a, r'⟩, ha, he⟩ := Outcome.ok_of_map hr
    cases he
    obtain ⟨hp, hr⟩ := h ts a r' hts ha
    exact ⟨by simpa using hp, hr⟩

def WrittenIn (ts : List Token) (d : Digest) : Prop :=
  ∃ s, Holds ts s ∧ Digest.parse s = .ok d

theorem draws_readDigest : Draws all (WrittenIn all) readDigest := by
  intro ts d r hts hr
  obtain ⟨⟨s, r'⟩, ht, hr⟩ := Outcome.ok_of_bind hr
  obtain ⟨hs, hr'⟩ := draws_readText ts s r' hts ht
  dsimp only at hr
  split at hr
  next d' hd =>
    cases hr
    exact ⟨⟨s, hs, hd⟩, hr'⟩
  next => cases hr

/-! ### Values that nobody asked for -/

theorem draws_pass (gap : Gap) (frames : List Frame) :
    Draws all (fun _ => True) (pass gap frames) := by
  intro ts a r hts hr
  induction ts generalizing gap frames with
  | nil =>
    unfold pass at hr
    split at hr
    · cases hr
      exact ⟨trivial, hts⟩
    · cases hr
  | cons t ts ih =>
    unfold pass at hr
    split at hr
    · cases hr
      exact ⟨trivial, hts⟩
    · obtain ⟨⟨gap', frames'⟩, -, hr⟩ := Outcome.ok_of_bind hr
      exact ih gap' frames' (List.cons_subset.1 hts).2 hr

/-! ### Lists -/

theorem subset_of_nextElement {first : Bool} {ts ts' : List Token}
    (h : nextElement first ts = .ok (some ts')) : ts' ⊆ ts := by
  unfold nextElement at h
  split at h
  · cases h
  · cases h
  next r =>
    split at h
    · cases h
      exact List.Subset.refl _
    · split at h
      · cases h
      · cases h
      · cases h
        exact List.subset_cons_self _ _
  · split at h
    · cases h
      exact List.Subset.refl _
    · cases h

theorem draws_readElements {element : Reader α} (h : Draws all P element) (fuel : Nat)
    (first : Bool) : Draws all (fun as => ∀ a ∈ as, P a) (readElements element fuel first) := by
  induction fuel generalizing first with
  | zero =>
    intro ts as r hts hr
    cases hr
  | succ fuel ih =>
    intro ts as r hts hr
    obtain ⟨next, hn, hr⟩ := Outcome.ok_of_bind hr
    cases next with
    | none =>
      cases hr
      exact ⟨by simp, fun t ht => hts (List.mem_of_mem_tail ht)⟩
    | some ts' =>
      have hts' := List.Subset.trans (subset_of_nextElement hn) hts
      obtain ⟨⟨a, r'⟩, ha, hr⟩ := Outcome.ok_of_bind hr
      obtain ⟨hp, hr'⟩ := h ts' a r' hts' ha
      obtain ⟨⟨more, r''⟩, hmore, he⟩ := Outcome.ok_of_map hr
      cases he
      obtain ⟨hall, hr⟩ := ih false r' more r hr' hmore
      exact ⟨List.forall_mem_cons.2 ⟨hp, hall⟩, hr⟩

theorem draws_readList {element : Reader α} (h : Draws all P element) :
    Draws all (fun as => ∀ a ∈ as, P a) (readList element) := by
  intro ts as r hts hr
  unfold readList at hr
  split at hr
  next r' => exact draws_readElements h _ true r' as r (List.cons_subset.1 hts).2 hr
  next => cases hr

/-! ### Records -/

theorem subset_of_nextKey {first : Bool} {ts ts' : List Token}
    (h : nextKey first ts = .ok (some ts')) : ts' ⊆ ts := by
  unfold nextKey at h
  split at h
  · cases h
  · cases h
  next r =>
    split at h
    · cases h
    · split at h
      · cases h
      · cases h
      · cases h
        exact List.subset_cons_self _ _
  · split at h
    · cases h
      exact List.Subset.refl _
    · cases h

theorem draws_readKey : Draws all (Holds all) readKey := by
  intro ts s r hts hr
  unfold readKey at hr
  split at hr
  next pieces r' =>
    obtain ⟨s', hs, he⟩ := Outcome.ok_of_map hr
    cases he
    obtain ⟨hm, hr⟩ := List.cons_subset.1 hts
    exact ⟨⟨pieces, hm, hs⟩, hr⟩
  all_goals cases hr

theorem draws_readColon : Draws all (fun _ => True) readColon := by
  intro ts a r hts hr
  unfold readColon at hr
  split at hr
  next r' =>
    cases hr
    exact ⟨trivial, (List.cons_subset.1 hts).2⟩
  all_goals cases hr

theorem draws_endRecord : Draws all (fun _ => True) endRecord := by
  intro ts a r hts hr
  unfold endRecord at hr
  split at hr
  next r' =>
    cases hr
    exact ⟨trivial, (List.cons_subset.1 hts).2⟩
  all_goals cases hr

variable {σ : Type} {I : σ → Prop} {fields : List (Field σ)}

def Keep (all : List Token) (I : σ → Prop) (fields : List (Field σ)) : Prop :=
  ∀ f ∈ fields, ∀ s, I s → Draws all I (f.read s)

theorem draws_readMember (h : Keep all I fields) {s : σ} (hs : I s) (key : String) :
    Draws all I (readMember fields s key) := by
  unfold readMember
  split
  next => exact draws_readColon.bind fun _ _ => (draws_pass .value []).map fun _ _ => hs
  next f hf =>
    split
    next =>
      intro ts a r _ hr
      cases hr
    next => exact draws_readColon.bind fun _ _ => h f (List.mem_of_find?_eq_some hf) s hs

theorem draws_readMembers (h : Keep all I fields) (fuel : Nat) (first : Bool) {s : σ} (hs : I s) :
    Draws all I (readMembers fields fuel first s) := by
  induction fuel generalizing first s with
  | zero =>
    intro ts a r _ hr
    cases hr
  | succ fuel ih =>
    intro ts a r hts hr
    obtain ⟨next, hn, hr⟩ := Outcome.ok_of_bind hr
    cases next with
    | none =>
      cases hr
      exact ⟨hs, fun t ht => hts (List.mem_of_mem_tail ht)⟩
    | some ts' =>
      have hts' := List.Subset.trans (subset_of_nextKey hn) hts
      exact (draws_readKey.bind fun key _ => (draws_readMember h hs key).bind fun _ hs' =>
        ih false hs') ts' a r hts' hr

theorem draws_readValues (expected : String) (h : Keep all I fields) (i : Nat) {s : σ} (hs : I s) :
    Draws all I (readValues expected fields i s) := by
  induction fields generalizing i s with
  | nil =>
    intro ts a r hts hr
    cases hr
    exact ⟨hs, hts⟩
  | cons f fs ih =>
    have hf := h f (List.mem_cons_self ..)
    have hfs : Keep all I fs := fun g hg => h g (List.mem_cons_of_mem _ hg)
    intro ts a r hts hr
    obtain ⟨next, hn, hr⟩ := Outcome.ok_of_bind hr
    cases next with
    | none =>
      dsimp only at hr
      split at hr
      · exact ih hfs (i + 1) hs ts a r hts hr
      · cases hr
    | some ts' =>
      have hts' := List.Subset.trans (subset_of_nextElement hn) hts
      exact ((hf s hs).bind fun _ hs' => ih hfs (i + 1) hs') ts' a r hts' hr

theorem draws_readRecord {shape : Shape σ α} (h : Keep all I shape.fields) (hs : I shape.start)
    (hf : ∀ s a, I s → shape.finish s = .ok a → P a) : Draws all P (readRecord shape) := by
  intro ts a r hts hr
  unfold readRecord at hr
  split at hr
  next r' =>
    obtain ⟨⟨s, r1⟩, hv, hr⟩ := Outcome.ok_of_bind hr
    obtain ⟨hi, hr1⟩ := draws_readValues _ h 0 hs r' s r1 (List.cons_subset.1 hts).2 hv
    obtain ⟨a', ha, hr⟩ := Outcome.ok_of_bind hr
    obtain ⟨⟨u, r2⟩, he, hr⟩ := Outcome.ok_of_map hr
    cases hr
    exact ⟨hf s a hi ha, (draws_endRecord r1 u r hr1 he).2⟩
  next r' =>
    obtain ⟨⟨s, r1⟩, hv, hr⟩ := Outcome.ok_of_bind hr
    obtain ⟨hi, hr1⟩ := draws_readMembers h _ true hs r' s r1 (List.cons_subset.1 hts).2 hv
    obtain ⟨a', ha, hr⟩ := Outcome.ok_of_map hr
    cases hr
    exact ⟨hf s a hi ha, hr1⟩
  next => cases hr

theorem mem_of_required {key : String} {o : Option α} {a : α} (h : required key o = .ok a) :
    a ∈ o := by
  cases o with
  | none => cases h
  | some b =>
    cases h
    rfl

/-! ### Documents -/

theorem of_readDocument {value : Reader α} {b : Bytes} {a : α}
    (h : Draws (Token.ofBytes b) P value) (hr : readDocument value b = .ok a) : P a := by
  obtain ⟨⟨a', r⟩, hv, hr⟩ := Outcome.ok_of_bind hr
  cases r with
  | nil =>
    cases hr
    exact (h _ a [] (List.Subset.refl _) hv).1
  | cons t r => cases hr

end LayerTransfer.Json
