import LayerTransfer.Proofs.Json.Takes

namespace LayerTransfer.Json

variable {σ α β : Type} {fields : List (Field σ)} {shape : Shape σ α}

def Member.IsNamed (m : Member) (name : String) : Prop :=
  string none m.1 = .ok name

theorem Member.IsNamed.unique {m : Member} {a b : String} (ha : m.IsNamed a) (hb : m.IsNamed b) :
    a = b :=
  Except.ok.inj (ha.symm.trans hb)

theorem Written.isNamed_member (name : String) (w : Written) :
    (Written.member (name, w)).IsNamed name :=
  string_pieces name

/-- What has been read after one more member: a field that was not set yet is read, and a member
that is not known changes nothing. -/
inductive Step (fields : List (Field σ)) (s : σ) (m : Member) : σ → Prop
  | known {f : Field σ} {t : σ} (hm : m.IsNamed f.key)
    (hf : fields.find? (·.key = f.key) = some f) (hs : f.isSet s = false)
    (hr : Reads (f.read s) m.2.tokens t) : Step fields s m t
  | unknown {name : String} (hm : m.IsNamed name) (hf : fields.find? (·.key = name) = none) :
    Step fields s m s

/-- What has been read after some more members. -/
inductive Gathers (fields : List (Field σ)) : σ → List Member → σ → Prop
  | nil (s : σ) : Gathers fields s [] s
  | cons {s t u : σ} {m : Member} {ms : List Member} (hm : Step fields s m t)
    (hms : Gathers fields t ms u) : Gathers fields s (m :: ms) u

theorem Step.exists_name {s t : σ} {m : Member} (h : Step fields s m t) :
    ∃ name, m.IsNamed name := by
  cases h with
  | known hm => exact ⟨_, hm⟩
  | unknown hm => exact ⟨_, hm⟩

theorem Gathers.exists_name {s t : σ} {ms : List Member} (h : Gathers fields s ms t) :
    ∀ m ∈ ms, ∃ name, m.IsNamed name := by
  induction h with
  | nil => exact List.forall_mem_nil _
  | cons hm _ ih => exact List.forall_mem_cons.2 ⟨hm.exists_name, ih⟩

theorem of_readMember (hf : ∀ f ∈ fields, ∀ s, Takes (f.read s)) {m : Member} {name : String}
    {s t : σ} {r r' : List Token} (hm : m.IsNamed name)
    (h : readMember fields s name (.colon :: (m.2.tokens ++ r)) = .ok (t, r')) :
    r' = r ∧ Step fields s m t := by
  unfold readMember at h
  split at h
  next hfind =>
    have hpass : ((passAny (m.2.tokens ++ r)).map fun x => (s, x.2)) = .ok (t, r') := h
    rw [reads_passAny] at hpass
    cases hpass
    exact ⟨rfl, .unknown hm hfind⟩
  next f hfind =>
    have hkey : f.key = name := by simpa using List.find?_some hfind
    subst hkey
    split at h
    next => cases h
    next hset =>
      have hread : f.read s (m.2.tokens ++ r) = .ok (t, r') := h
      obtain ⟨hr, hreads⟩ := hf f (List.mem_of_find?_eq_some hfind) s _ r t r' hread
      exact ⟨hr, .known hm hfind (Bool.eq_false_iff.2 hset) hreads⟩

theorem readMember_known {s t : σ} {f : Field σ}
    {value : List Token} (hf : fields.find? (·.key = f.key) = some f) (hs : f.isSet s = false)
    (hr : Reads (f.read s) value t) :
    Reads (readMember fields s f.key) (.colon :: value) t := by
  intro r
  simp only [readMember, hf, hs, Bool.false_eq_true, if_false, List.cons_append, readColon]
  exact hr r

theorem Step.reads {s t : σ} {m : Member} (h : Step fields s m t) :
    ∃ name, m.IsNamed name ∧ Reads (readMember fields s name) (.colon :: m.2.tokens) t := by
  cases h with
  | known hm hf hs hr => exact ⟨_, hm, readMember_known hf hs hr⟩
  | unknown hm hf =>
    refine ⟨_, hm, fun r => ?_⟩
    simp only [readMember, hf, List.cons_append, readColon, Except.bind, reads_passAny _ r,
      Except.map]

theorem nextKey_cons (first : Bool) (m : Member) (tss : List (List Token)) (r : List Token) :
    nextKey first (upcoming first .braceClose (m.tokens :: tss) r) =
      .ok (some (.text m.1 :: .colon :: (m.2.tokens ++ upcoming false .braceClose tss r))) := by
  cases first with
  | true =>
    rw [upcoming_first]
    rfl
  | false =>
    rw [upcoming_later]
    rfl

theorem readMembers_cons (fuel : Nat) (first : Bool) (s : σ) {m : Member} {name : String}
    (hm : m.IsNamed name) (tss : List (List Token)) (r : List Token) :
    readMembers fields (fuel + 1) first s (upcoming first .braceClose (m.tokens :: tss) r) =
      (readMember fields s name (.colon :: (m.2.tokens ++ upcoming false .braceClose tss r))).bind
        fun x => readMembers fields fuel false x.1 x.2 := by
  have hkey (ts : List Token) : readKey (.text m.1 :: ts) = .ok (name, ts) := by
    rw [readKey, show string none m.1 = .ok name from hm]
    rfl
  rw [readMembers, nextKey_cons]
  simp only [Except.bind, hkey]

theorem of_readMembers (hf : ∀ f ∈ fields, ∀ s, Takes (f.read s)) {first : Bool} {s t : σ}
    {ms : List Member} {fuel : Nat} {r r' : List Token}
    (h : readMembers fields fuel first s
      (upcoming first .braceClose (ms.map Member.tokens) r) = .ok (t, r')) :
    r' = r ∧ Gathers fields s ms t := by
  induction ms generalizing first fuel s with
  | nil =>
    rw [List.map_nil, upcoming_nil] at h
    cases fuel <;> cases h
    exact ⟨rfl, .nil _⟩
  | cons m ms ih =>
    cases fuel with
    | zero => cases h
    | succ fuel =>
      rw [List.map_cons] at h
      cases hname : string none m.1 with
      | error e =>
        rw [readMembers, nextKey_cons] at h
        simp [Except.bind, readKey, hname, Except.map] at h
      | ok name =>
        rw [readMembers_cons fuel first s hname] at h
        obtain ⟨⟨s1, r1⟩, hm, hrest⟩ := Outcome.ok_of_bind h
        obtain ⟨rfl, hstep⟩ := of_readMember hf hname hm
        obtain ⟨hr, hms⟩ := ih hrest
        exact ⟨hr, .cons hstep hms⟩

theorem Gathers.reads {s t : σ} {ms : List Member} (h : Gathers fields s ms t) {fuel : Nat}
    (hfuel : ms.length < fuel) (first : Bool) (r : List Token) :
    readMembers fields fuel first s (upcoming first .braceClose (ms.map Member.tokens) r) =
      .ok (t, r) := by
  induction h generalizing fuel first with
  | nil s =>
    obtain ⟨fuel, rfl⟩ := Nat.exists_eq_succ_of_ne_zero (Nat.ne_of_gt hfuel)
    rw [List.map_nil, upcoming_nil]
    rfl
  | cons hm _ ih =>
    obtain ⟨fuel, rfl⟩ := Nat.exists_eq_succ_of_ne_zero (Nat.ne_of_gt (Nat.zero_lt_of_lt hfuel))
    obtain ⟨name, hname, hread⟩ := hm.reads
    rw [List.map_cons, readMembers_cons fuel first _ hname, ← List.cons_append, hread]
    exact ih (Nat.lt_of_succ_lt_succ hfuel) false

/-- An object is read as a record if its members can be gathered one after the other. -/
theorem reads_object {ms : List Member} {t : σ} {a : α} (h : Gathers shape.fields shape.start ms t)
    (hfinish : shape.finish t = .ok a) : Reads (readRecord shape) (Value.object ms).tokens a := by
  intro r
  have hlen := length_le_upcoming true .braceClose (ms.map Member.tokens) r
  rw [List.length_map] at hlen
  rw [Value.tokens_object, readRecord, h.reads (Nat.lt_succ_of_le hlen)]
  simp only [Except.bind, hfinish, Except.map]

theorem of_readRecord_object (hf : ∀ f ∈ shape.fields, ∀ s, Takes (f.read s)) {ms : List Member}
    {r r' : List Token} {a : α}
    (h : readRecord shape ((Value.object ms).tokens ++ r) = .ok (a, r')) :
    r' = r ∧ ∃ t, Gathers shape.fields shape.start ms t ∧ shape.finish t = .ok a := by
  rw [Value.tokens_object, readRecord] at h
  obtain ⟨⟨t, r1⟩, hms, hmap⟩ := Outcome.ok_of_bind h
  obtain ⟨a', hfinish, hr⟩ := Outcome.ok_of_map hmap
  obtain ⟨rfl, hgathers⟩ := of_readMembers hf hms
  cases hr
  exact ⟨rfl, t, hgathers, hfinish⟩

theorem takes_readRecord (hf : ∀ f ∈ shape.fields, ∀ s, Takes (f.read s)) :
    Takes (readRecord shape) := by
  intro v r a r' h
  cases v with
  | list items => exact takes_list hf h
  | object ms =>
    obtain ⟨hr, t, hms, hfinish⟩ := of_readRecord_object hf h
    exact ⟨hr, reads_object hms hfinish⟩
  | word _ | number _ | text _ =>
    rw [Value.tokens] at h
    cases h

end LayerTransfer.Json
