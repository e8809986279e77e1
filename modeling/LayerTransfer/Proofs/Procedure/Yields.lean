import LayerTransfer.Procedure

namespace LayerTransfer

abbrev Exchanged (Ask : Type) (Reply : Ask → Type) := Sigma Reply

namespace Event

variable {Ask : Type} {Reply : Ask → Type}

def exchange? : Event Ask Reply → Option (Exchanged Ask Reply)
  | printed _ => none
  | asked q r => some ⟨q, r⟩

def exchanges (es : List (Event Ask Reply)) : List (Exchanged Ask Reply) :=
  es.filterMap exchange?

variable (m : Log.Message) (q : Ask) (r : Reply q) (es : List (Event Ask Reply))

@[simp] theorem exchanges_nil : exchanges ([] : List (Event Ask Reply)) = [] := rfl

@[simp] theorem exchanges_printed : exchanges (printed m :: es) = exchanges es := rfl

@[simp] theorem exchanges_asked : exchanges (asked q r :: es) = ⟨q, r⟩ :: exchanges es := rfl

end Event

namespace Procedure

variable {Ask : Type} {Reply : Ask → Type} {α β σ : Type}

inductive Yields : Procedure Ask Reply α → List (Exchanged Ask Reply) → α → Prop
  | done (a : α) : Yields (.done a) [] a
  | print {m : Log.Message} {p : Procedure Ask Reply α} {xs : List (Exchanged Ask Reply)} {a : α} :
      Yields p xs a → Yields (.print m p) xs a
  | ask {q : Ask} {k : Reply q → Procedure Ask Reply α} {xs : List (Exchanged Ask Reply)} {a : α}
      (r : Reply q) : Yields (k r) xs a → Yields (.ask q k) (⟨q, r⟩ :: xs) a

theorem yields_run (server : Server Ask Reply σ) (s : σ) (p : Procedure Ask Reply α) :
    Yields p (Event.exchanges (run server s p).2.1) (run server s p).1 := by
  induction p generalizing s with
  | done a => exact .done a
  | print m p ih => exact .print (ih s)
  | ask q k ih => exact .ask (server s q).1 (ih (server s q).1 (server s q).2)

@[simp] theorem value_run_tell (server : Server Ask Reply σ) (s : σ) (v : Log.Verbosity)
    (m : Log.Message) (p : Procedure Ask Reply α) :
    (run server s (tell v m p)).1 = (run server s p).1 := by
  unfold tell
  split <;> rfl

@[simp] theorem exchanges_run_tell (server : Server Ask Reply σ) (s : σ) (v : Log.Verbosity)
    (m : Log.Message) (p : Procedure Ask Reply α) :
    Event.exchanges (run server s (tell v m p)).2.1 = Event.exchanges (run server s p).2.1 := by
  unfold tell
  split <;> rfl

/-- Every answer in a run from a steady state is one that the server gives in a steady state. -/
theorem answered_run {server : Server Ask Reply σ} {steady : σ → Prop}
    (stays : ∀ s q, steady s → steady (server s q).2) {s : σ} (hs : steady s)
    (p : Procedure Ask Reply α) :
    ∀ x ∈ Event.exchanges (run server s p).2.1, ∃ t, steady t ∧ (server t x.1).1 = x.2 := by
  induction p generalizing s with
  | done a => exact fun x hx => absurd hx List.not_mem_nil
  | print m p ih => exact ih hs
  | ask q k ih =>
    intro x hx
    rcases List.mem_cons.1 hx with rfl | hx
    · exact ⟨s, hs, rfl⟩
    · exact ih _ (stays s q hs) x hx

variable {xs : List (Exchanged Ask Reply)}

@[simp] theorem yields_done {a b : α} :
    Yields (.done a : Procedure Ask Reply α) xs b ↔ xs = [] ∧ b = a := by
  constructor
  · intro h
    cases h
    exact ⟨rfl, rfl⟩
  · rintro ⟨rfl, rfl⟩
    exact .done b

@[simp] theorem yields_print {m : Log.Message} {p : Procedure Ask Reply α} {a : α} :
    Yields (.print m p) xs a ↔ Yields p xs a := by
  constructor
  · intro h
    cases h with
    | print h => exact h
  · exact .print

@[simp] theorem yields_tell {v : Log.Verbosity} {m : Log.Message} {p : Procedure Ask Reply α}
    {a : α} : Yields (.tell v m p) xs a ↔ Yields p xs a := by
  unfold tell
  split
  · exact yields_print
  · exact Iff.rfl

theorem yields_ask {q : Ask} {k : Reply q → Procedure Ask Reply α} {a : α} :
    Yields (.ask q k) xs a ↔ ∃ r ys, xs = ⟨q, r⟩ :: ys ∧ Yields (k r) ys a := by
  constructor
  · intro h
    cases h with
    | ask r h => exact ⟨r, _, rfl, h⟩
  · rintro ⟨r, ys, rfl, h⟩
    exact .ask r h

theorem yields_single {q : Ask} {r : Reply q} :
    Yields (.ask q .done) xs r ↔ xs = [⟨q, r⟩] := by
  rw [yields_ask]
  simp only [yields_done]
  constructor
  · rintro ⟨r', ys, rfl, rfl, rfl⟩
    rfl
  · rintro rfl
    exact ⟨r, [], rfl, rfl, rfl⟩

theorem yields_bind {p : Procedure Ask Reply α} {f : α → Procedure Ask Reply β} {b : β} :
    Yields (p.bind f) xs b ↔ ∃ a ys zs, xs = ys ++ zs ∧ Yields p ys a ∧ Yields (f a) zs b := by
  constructor
  · intro h
    induction p generalizing xs with
    | done a => exact ⟨a, [], xs, rfl, .done a, h⟩
    | print m p ih =>
      obtain ⟨a, ys, zs, rfl, hp, hf⟩ := ih (yields_print.1 h)
      exact ⟨a, ys, zs, rfl, .print hp, hf⟩
    | ask q k ih =>
      obtain ⟨r, rest, rfl, hr⟩ := yields_ask.1 h
      obtain ⟨a, ys, zs, rfl, hp, hf⟩ := ih r hr
      exact ⟨a, ⟨q, r⟩ :: ys, zs, rfl, .ask r hp, hf⟩
  · rintro ⟨a, ys, zs, rfl, hp, hf⟩
    induction hp with
    | done a => exact hf
    | print _ ih => exact .print (ih hf)
    | ask r _ ih => exact .ask r (ih hf)

variable {Ask' : Type} {Reply' : Ask' → Type}

/-- Exchanges, and the exchanges of the procedures that answered in them. -/
inductive Expands (handle : (q : Ask) → Procedure Ask' Reply' (Reply q)) :
    List (Exchanged Ask Reply) → List (Exchanged Ask' Reply') → Prop
  | nil : Expands handle [] []
  | cons {x : Exchanged Ask Reply} {xs : List (Exchanged Ask Reply)}
      {us ys : List (Exchanged Ask' Reply')} (hx : Yields (handle x.1) us x.2)
      (hxs : Expands handle xs ys) : Expands handle (x :: xs) (us ++ ys)

variable {handle : (q : Ask) → Procedure Ask' Reply' (Reply q)} {ys : List (Exchanged Ask' Reply')}

theorem expands_of_yields_through {p : Procedure Ask Reply α} {a : α}
    (h : Yields (p.through handle) ys a) : ∃ xs, Yields p xs a ∧ Expands handle xs ys := by
  induction p generalizing ys with
  | done b =>
    obtain ⟨rfl, rfl⟩ := yields_done.1 h
    exact ⟨[], .done a, .nil⟩
  | print m p ih =>
    obtain ⟨xs, hp, hxs⟩ := ih (yields_print.1 h)
    exact ⟨xs, .print hp, hxs⟩
  | ask q k ih =>
    obtain ⟨r, us, vs, rfl, hq, hk⟩ := yields_bind.1 h
    obtain ⟨xs, hp, hxs⟩ := ih r hk
    exact ⟨⟨q, r⟩ :: xs, .ask r hp, .cons hq hxs⟩

theorem Expands.forall_mem {P : Exchanged Ask' Reply' → Prop} {xs : List (Exchanged Ask Reply)}
    (hP : ∀ x ∈ xs, ∀ us, Yields (handle x.1) us x.2 → ∀ y ∈ us, P y)
    (h : Expands handle xs ys) : ∀ y ∈ ys, P y := by
  induction h with
  | nil => simp
  | cons hx _ ih =>
    obtain ⟨hfirst, hrest⟩ := List.forall_mem_cons.1 hP
    exact List.forall_mem_append.2 ⟨hfirst _ hx, ih hrest⟩

theorem forall_of_yields_through {P : Exchanged Ask' Reply' → Prop}
    (hP : ∀ q us r, Yields (handle q) us r → ∀ y ∈ us, P y) {p : Procedure Ask Reply α} {a : α}
    (h : Yields (p.through handle) ys a) : ∀ y ∈ ys, P y := by
  obtain ⟨xs, -, hxs⟩ := expands_of_yields_through h
  exact hxs.forall_mem fun x _ us hx => hP x.1 us x.2 hx

end Procedure

namespace Task

open Procedure

variable {Ask : Type} {Reply : Ask → Type} {α β : Type} {xs : List (Exchanged Ask Reply)}

/-- What the task `t` yields. -/
def Yields (t : Task Ask Reply α) (xs : List (Exchanged Ask Reply)) (o : Outcome α) : Prop :=
  Procedure.Yields t.run xs o

theorem yields_run {σ : Type} (server : Server Ask Reply σ) (s : σ) (t : Task Ask Reply α) :
    Yields t (Event.exchanges (run server s t.run).2.1) (run server s t.run).1 :=
  Procedure.yields_run server s t.run

@[simp] theorem yields_ofOutcome {o o' : Outcome α} :
    Yields (ofOutcome o : Task Ask Reply α) xs o' ↔ xs = [] ∧ o' = o :=
  yields_done

@[simp] theorem yields_fail {e : TransferError} {o : Outcome α} :
    Yields (fail e : Task Ask Reply α) xs o ↔ xs = [] ∧ o = .error e :=
  yields_done

@[simp] theorem yields_pure {a : α} {o : Outcome α} :
    Yields (pure a : Task Ask Reply α) xs o ↔ xs = [] ∧ o = .ok a :=
  yields_done

@[simp] theorem yields_tell {v : Log.Verbosity} {m : Log.Message} {o : Outcome Unit} :
    Yields (tell v m : Task Ask Reply Unit) xs o ↔ xs = [] ∧ o = .ok () :=
  Procedure.yields_tell.trans yields_done

/-- A task goes on where the one before it succeeded. -/
theorem yields_bind {t : Task Ask Reply α} {f : α → Task Ask Reply β} {o : Outcome β} :
    Yields (t >>= f) xs o ↔
      (∃ e, Yields t xs (.error e) ∧ o = .error e) ∨
        ∃ a ys zs, xs = ys ++ zs ∧ Yields t ys (.ok a) ∧ Yields (f a) zs o := by
  have hb : Yields (t >>= f) xs o ↔ ∃ a ys zs, xs = ys ++ zs ∧ Yields t ys a ∧
      Procedure.Yields (ExceptT.bindCont f a) zs o :=
    Procedure.yields_bind
  rw [hb]
  constructor
  · rintro ⟨a, ys, zs, rfl, ht, hf⟩
    cases a with
    | error e =>
      obtain ⟨rfl, rfl⟩ := yields_done.1 hf
      exact .inl ⟨e, by rwa [List.append_nil], rfl⟩
    | ok a => exact .inr ⟨a, ys, zs, rfl, ht, hf⟩
  · rintro (⟨e, ht, rfl⟩ | ⟨a, ys, zs, rfl, ht, hf⟩)
    · exact ⟨.error e, xs, [], (List.append_nil xs).symm, ht, yields_done.2 ⟨rfl, rfl⟩⟩
    · exact ⟨.ok a, ys, zs, rfl, ht, hf⟩

theorem ok_of_yields_bind {t : Task Ask Reply α} {f : α → Task Ask Reply β} {b : β}
    (h : Yields (t >>= f) xs (.ok b)) :
    ∃ a ys zs, xs = ys ++ zs ∧ Yields t ys (.ok a) ∧ Yields (f a) zs (.ok b) := by
  obtain ⟨e, -, he⟩ | ha := yields_bind.1 h
  · cases he
  · exact ha

@[simp] theorem yields_tell_bind {v : Log.Verbosity} {m : Log.Message}
    {f : Unit → Task Ask Reply β} {o : Outcome β} :
    Yields (tell v m >>= f) xs o ↔ Yields (f ()) xs o := by
  rw [Yields, run_tell_bind]
  exact Procedure.yields_tell

theorem yields_ofOutcome_bind {a : Outcome α} {f : α → Task Ask Reply β} {o : Outcome β} :
    Yields (ofOutcome a >>= f) xs o ↔
      (∃ e, a = .error e ∧ xs = [] ∧ o = .error e) ∨ ∃ b, a = .ok b ∧ Yields (f b) xs o := by
  cases a with
  | error e =>
    have h : Yields (ofOutcome (.error e) >>= f) xs o ↔ xs = [] ∧ o = .error e := yields_done
    simp [h]
  | ok b =>
    have h : Yields (ofOutcome (.ok b) >>= f) xs o ↔ Yields (f b) xs o := Iff.rfl
    simp [h]

theorem ok_of_yields_ofOutcome_bind {a : Outcome α} {f : α → Task Ask Reply β} {c : β}
    (h : Yields (ofOutcome a >>= f) xs (.ok c)) : ∃ b, a = .ok b ∧ Yields (f b) xs (.ok c) := by
  obtain ⟨e, -, -, he⟩ | hb := yields_ofOutcome_bind.1 h
  · cases he
  · exact hb

theorem yields_forLayer {name : String} {t : Task Ask Reply α} {o : Outcome α} :
    Yields (forLayer name t) xs o ↔ ∃ o', Yields t xs o' ∧ o = o'.forLayer name := by
  have hb : Yields (forLayer name t) xs o ↔ ∃ o' ys zs, xs = ys ++ zs ∧ Yields t ys o' ∧
      Procedure.Yields (.done (Outcome.forLayer name o')) zs o :=
    Procedure.yields_bind
  rw [hb]
  constructor
  · rintro ⟨o', ys, zs, rfl, ht, hd⟩
    obtain ⟨rfl, rfl⟩ := yields_done.1 hd
    exact ⟨o', by rwa [List.append_nil], rfl⟩
  · rintro ⟨o', ht, rfl⟩
    exact ⟨o', xs, [], (List.append_nil xs).symm, ht, yields_done.2 ⟨rfl, rfl⟩⟩

variable {Ask' : Type} {Reply' : Ask' → Type}
  {handle : (q : Ask) → Procedure Ask' Reply' (Reply q)} {t : Task Ask Reply α}
  {ys : List (Exchanged Ask' Reply')} {o : Outcome α}

theorem expands_of_yields_through (h : Yields (t.through handle) ys o) :
    ∃ xs, Yields t xs o ∧ Expands handle xs ys :=
  Procedure.expands_of_yields_through h

theorem forall_of_yields_through {P : Exchanged Ask' Reply' → Prop}
    (hP : ∀ q us r, Procedure.Yields (handle q) us r → ∀ y ∈ us, P y)
    (h : Yields (t.through handle) ys o) : ∀ y ∈ ys, P y :=
  Procedure.forall_of_yields_through hP h

end Task

end LayerTransfer
