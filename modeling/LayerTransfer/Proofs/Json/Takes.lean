import LayerTransfer.Proofs.Json.Read
import LayerTransfer.Proofs.Outcome

namespace LayerTransfer.Json

/-- Whether a reader takes all of a value or nothing. -/
def Takes {α : Type} (read : Reader α) : Prop :=
  ∀ (v : Value) (r : List Token) (a : α) (r' : List Token),
    read (v.tokens ++ r) = .ok (a, r') → r' = r ∧ Reads read v.tokens a

variable {α β : Type}

theorem Takes.map {read : Reader α} (h : Takes read) (f : α → β) :
    Takes fun ts => (read ts).map fun (a, r) => (f a, r) := by
  intro v r b r' hr
  obtain ⟨⟨a, r1⟩, ha, he⟩ := Outcome.ok_of_map hr
  obtain ⟨rfl, hread⟩ := h v r a r1 ha
  cases he
  exact ⟨rfl, fun q => by simp only [hread q, Except.map]⟩

/-! ### Single values -/

theorem of_readText {v : Value} {r r' : List Token} {s : String}
    (h : readText (v.tokens ++ r) = .ok (s, r')) :
    r' = r ∧ ∃ ps, v = .text ps ∧ string none ps = .ok s := by
  cases v with
  | text ps =>
    rw [Value.tokens, List.singleton_append, readText] at h
    obtain ⟨s', hs, he⟩ := Outcome.ok_of_map h
    cases he
    exact ⟨rfl, ps, rfl, hs⟩
  | word _ | number _ | list _ | object _ =>
    rw [Value.tokens] at h
    cases h

theorem takes_readText : Takes readText := by
  intro v r s r' h
  obtain ⟨rfl, ps, rfl, hs⟩ := of_readText h
  refine ⟨rfl, fun q => ?_⟩
  rw [Value.tokens, List.singleton_append, readText, hs]
  rfl

theorem of_readNatural {bound : Nat} {expected : String} {v : Value} {r r' : List Token} {k : Nat}
    (h : readNatural bound expected (v.tokens ++ r) = .ok (k, r')) :
    r' = r ∧ ∃ n, v = .number n ∧ n.number = some (.natural k) ∧ k < bound := by
  cases v with
  | number n =>
    simp only [Value.tokens, List.singleton_append, readNatural] at h
    split at h
    next k' hk =>
      split at h
      next hb =>
        cases h
        exact ⟨rfl, n, rfl, hk, hb⟩
      next => cases h
    all_goals cases h
  | word _ | text _ | list _ | object _ =>
    rw [Value.tokens] at h
    cases h

theorem takes_readNatural (bound : Nat) (expected : String) :
    Takes (readNatural bound expected) := by
  intro v r k r' h
  obtain ⟨rfl, n, rfl, hn, hk⟩ := of_readNatural h
  refine ⟨rfl, fun q => ?_⟩
  simp only [Value.tokens, List.singleton_append, readNatural, hn, hk, if_true]

theorem readOption_of_ne {value : Reader α} {v : Value} (h : v ≠ .word .null) (r : List Token) :
    readOption value (v.tokens ++ r) =
      (value (v.tokens ++ r)).map fun p => (some p.1, p.2) := by
  cases v with
  | word w =>
    rw [Value.tokens]
    cases w with
    | null => exact absurd rfl h
    | true | false => rfl
  | number _ | text _ | list _ | object _ =>
    rw [Value.tokens]
    rfl

theorem takes_readOption {value : Reader α} (h : Takes value) : Takes (readOption value) := by
  intro v r o r' hr
  by_cases hv : v = .word .null
  · subst hv
    rw [Value.tokens] at hr
    cases hr
    exact ⟨rfl, fun q => by rw [Value.tokens]; rfl⟩
  · rw [readOption_of_ne hv] at hr
    obtain ⟨hr', hread⟩ := h.map some v r o r' hr
    exact ⟨hr', fun q => by rw [readOption_of_ne hv]; exact hread q⟩

theorem takes_readDigest : Takes readDigest := by
  intro v r d r' h
  obtain ⟨⟨s, r1⟩, hs, hparse⟩ := Outcome.ok_of_bind h
  obtain ⟨hr, hread⟩ := takes_readText v r s r1 hs
  dsimp only at hparse
  split at hparse
  next d' hd =>
    cases hparse
    refine ⟨hr, fun q => ?_⟩
    rw [readDigest, hread q]
    simp only [Except.bind, hd]
  next => cases hparse

/-! ### Lists -/

theorem nextElement_cons (first : Bool) (v : Value) (tss : List (List Token)) (r : List Token) :
    nextElement first (upcoming first .bracketClose (v.tokens :: tss) r) =
      .ok (some (v.tokens ++ upcoming false .bracketClose tss r)) := by
  obtain ⟨t, ts, hts, ht⟩ := v.exists_tokens_eq
  cases first with
  | true =>
    rw [upcoming_first, hts]
    cases t <;> first | rfl | exact absurd rfl ht
  | false =>
    rw [upcoming_later, hts]
    cases t <;> first | rfl | exact absurd rfl ht

theorem of_readElements {element : Reader α} (he : Takes element) {first : Bool}
    {items : List Value} {fuel : Nat} {as : List α} {r r' : List Token}
    (h : readElements element fuel first
      (upcoming first .bracketClose (items.map Value.tokens) r) = .ok (as, r')) :
    r' = r ∧ List.Forall₂ (fun a v => Reads element v.tokens a) as items := by
  induction items generalizing first fuel as with
  | nil =>
    rw [List.map_nil, upcoming_nil] at h
    cases fuel <;> cases h
    exact ⟨rfl, .nil⟩
  | cons v items ih =>
    cases fuel with
    | zero => cases h
    | succ fuel =>
      rw [readElements, List.map_cons, nextElement_cons] at h
      obtain ⟨⟨a, r1⟩, ha, hmap⟩ := Outcome.ok_of_bind (o := element _) h
      obtain ⟨⟨more, r2⟩, hmore, hlist⟩ := Outcome.ok_of_map hmap
      obtain ⟨rfl, hread⟩ := he v _ a r1 ha
      cases hlist
      obtain ⟨hr, hall⟩ := ih hmore
      exact ⟨hr, .cons hread hall⟩

theorem of_readList {element : Reader α} (he : Takes element) {v : Value} {as : List α}
    {r r' : List Token} (h : readList element (v.tokens ++ r) = .ok (as, r')) :
    r' = r ∧ ∃ items, v = .list items ∧
      List.Forall₂ (fun a v => Reads element v.tokens a) as items := by
  cases v with
  | list items =>
    rw [Value.tokens_list, readList] at h
    obtain ⟨hr, hall⟩ := of_readElements he h
    exact ⟨hr, items, rfl, hall⟩
  | word _ | number _ | text _ | object _ =>
    rw [Value.tokens] at h
    cases h

theorem readElements_upcoming {element : Reader α} {first : Bool} {as : List α}
    {items : List Value} (h : List.Forall₂ (fun a v => Reads element v.tokens a) as items)
    {fuel : Nat} (hfuel : items.length < fuel) (r : List Token) :
    readElements element fuel first (upcoming first .bracketClose (items.map Value.tokens) r) =
      .ok (as, r) := by
  induction h generalizing first fuel with
  | nil =>
    obtain ⟨fuel, rfl⟩ := Nat.exists_eq_succ_of_ne_zero (Nat.ne_of_gt hfuel)
    rw [List.map_nil, upcoming_nil]
    rfl
  | cons ha _ ih =>
    obtain ⟨fuel, rfl⟩ := Nat.exists_eq_succ_of_ne_zero (Nat.ne_of_gt (Nat.zero_lt_of_lt hfuel))
    rw [readElements, List.map_cons, nextElement_cons]
    simp only [Except.bind, ha _, ih (Nat.lt_of_succ_lt_succ hfuel)]
    rfl

theorem reads_items {element : Reader α} {as : List α} {items : List Value}
    (h : List.Forall₂ (fun a v => Reads element v.tokens a) as items) :
    Reads (readList element) (Value.list items).tokens as := by
  intro r
  have hlen := length_le_upcoming true .bracketClose (items.map Value.tokens) r
  rw [List.length_map] at hlen
  rw [Value.tokens_list, readList]
  exact readElements_upcoming h (Nat.lt_succ_of_le hlen) r

theorem takes_readList {element : Reader α} (he : Takes element) : Takes (readList element) := by
  intro v r as r' h
  obtain ⟨hr, items, rfl, hall⟩ := of_readList he h
  exact ⟨hr, reads_items hall⟩

/-! ### Records that are written as lists -/

section Records

variable {σ : Type} {fields : List (Field σ)} {shape : Shape σ α}

theorem of_readValues (hf : ∀ f ∈ fields, ∀ s, Takes (f.read s)) {expected : String} {i : Nat}
    {s t : σ} {items : List Value} {r r' : List Token}
    (h : readValues expected fields i s
      (upcoming (i = 0) .bracketClose (items.map Value.tokens) r) = .ok (t, r')) :
    ∃ (first : Bool) (left : List Value),
      r' = upcoming first .bracketClose (left.map Value.tokens) r ∧
      ∀ q, readValues expected fields i s
          (upcoming (i = 0) .bracketClose (items.map Value.tokens) q) =
        .ok (t, upcoming first .bracketClose (left.map Value.tokens) q) := by
  induction fields generalizing i s items with
  | nil =>
    cases h
    exact ⟨i = 0, items, rfl, fun q => rfl⟩
  | cons f fs ih =>
    obtain ⟨hread, hfs⟩ := List.forall_mem_cons.1 hf
    cases items with
    | nil =>
      have hend (r : List Token) : readValues expected (f :: fs) i s
            (upcoming (i = 0) .bracketClose (([] : List Value).map Value.tokens) r) =
          if f.hasDefault then readValues expected fs (i + 1) s
            (upcoming (i + 1 = 0) .bracketClose (([] : List Value).map Value.tokens) r)
          else .error (.invalidLength i expected) := by
        rw [List.map_nil, upcoming_nil, upcoming_nil]
        rfl
      simp only [hend] at h ⊢
      split at h
      next hd =>
        obtain ⟨first, left, hr, hq⟩ := ih hfs h
        exact ⟨first, left, hr, fun q => by rw [if_pos hd]; exact hq q⟩
      next => cases h
    | cons v items =>
      simp only [List.map_cons, readValues, nextElement_cons] at h ⊢
      obtain ⟨⟨s1, r1⟩, hv, hrest⟩ := Outcome.ok_of_bind (o := f.read s _) h
      obtain ⟨rfl, hs⟩ := hread s v _ s1 r1 hv
      obtain ⟨first, left, hr, hq⟩ := ih hfs hrest
      exact ⟨first, left, hr, fun q => by simp only [Except.bind, hs _]; exact hq q⟩

theorem of_endRecord {first : Bool} {left : List Value} {r r' : List Token}
    (h : endRecord (upcoming first .bracketClose (left.map Value.tokens) r) = .ok ((), r')) :
    r' = r ∧ left = [] := by
  cases left with
  | nil =>
    rw [List.map_nil, upcoming_nil] at h
    cases h
    exact ⟨rfl, rfl⟩
  | cons v left =>
    have hnot (t : Token) (ts : List Token) (ht : t ≠ .bracketClose) :
        endRecord (t :: ts) ≠ .ok ((), r') := by
      intro he
      unfold endRecord at he
      split at he
      next heq => exact ht (List.cons.inj heq).1
      all_goals cases he
    rw [List.map_cons] at h
    cases first with
    | true =>
      obtain ⟨t, ts, hts, ht⟩ := v.exists_tokens_eq
      rw [upcoming_first, hts] at h
      exact absurd h (hnot t _ ht)
    | false =>
      rw [upcoming_later] at h
      exact absurd h (hnot .comma _ (by decide))

theorem takes_list (hf : ∀ f ∈ shape.fields, ∀ s, Takes (f.read s)) {items : List Value}
    {r r' : List Token} {a : α}
    (h : readRecord shape ((Value.list items).tokens ++ r) = .ok (a, r')) :
    r' = r ∧ Reads (readRecord shape) (Value.list items).tokens a := by
  rw [Value.tokens_list] at h
  obtain ⟨⟨s, r1⟩, hv, h⟩ := Outcome.ok_of_bind h
  obtain ⟨first, left, rfl, hq⟩ := of_readValues hf (i := 0) hv
  obtain ⟨a', ha, h⟩ := Outcome.ok_of_bind h
  obtain ⟨⟨u, r2⟩, he, h⟩ := Outcome.ok_of_map h
  cases h
  obtain ⟨hr, rfl⟩ := of_endRecord he
  refine ⟨hr, fun q => ?_⟩
  have hq := hq q
  have hend : endRecord (upcoming first .bracketClose [] q) = .ok ((), q) := by
    rw [upcoming_nil]
    rfl
  rw [Value.tokens_list, readRecord]
  simp only [decide_true, List.map_nil] at hq
  simp only [hq, ha, hend, Except.bind, Except.map]

end Records

/-! ### Documents -/

theorem readDocument_iff {read : Reader α} (ht : Takes read) {v : Value} {b : Bytes}
    (h : v.IsText b) {a : α} : readDocument read b = .ok a ↔ Reads read v.tokens a := by
  refine ⟨fun hr => ?_, readDocument_of_reads h⟩
  rw [readDocument, v.ofBytes_of_isText h] at hr
  obtain ⟨⟨a', r⟩, ha, hend⟩ := Outcome.ok_of_bind hr
  rw [← List.append_nil v.tokens] at ha
  obtain ⟨rfl, hread⟩ := ht v [] a' r ha
  cases hend
  exact hread

end LayerTransfer.Json
