import LayerTransfer.Proofs.Procedure.Yields

namespace LayerTransfer

namespace Procedure

variable {Ask : Type} {Reply : Ask → Type} {α β : Type} {P : Ask → Prop} {Q : α → Prop}
  {R : β → Prop}

inductive Ensures (P : Ask → Prop) (Q : α → Prop) : Procedure Ask Reply α → Prop
  | done {a : α} : Q a → Ensures P Q (.done a)
  | print {m : Log.Message} {p : Procedure Ask Reply α} : Ensures P Q p → Ensures P Q (.print m p)
  | ask {q : Ask} {k : Reply q → Procedure Ask Reply α} :
      P q → (∀ r, Ensures P Q (k r)) → Ensures P Q (.ask q k)

theorem ensures_bind {p : Procedure Ask Reply α} {f : α → Procedure Ask Reply β}
    (hp : p.Ensures P Q) (hf : ∀ a, Q a → (f a).Ensures P R) : (p.bind f).Ensures P R := by
  induction hp with
  | done ha => exact hf _ ha
  | print _ ih => exact .print ih
  | ask hq _ ih => exact .ask hq ih

theorem ensures_tell {v : Log.Verbosity} {m : Log.Message} {p : Procedure Ask Reply α}
    (hp : p.Ensures P Q) : (tell v m p).Ensures P Q := by
  unfold tell
  split
  · exact .print hp
  · exact hp

theorem Ensures.mono {Q' : α → Prop} {p : Procedure Ask Reply α} (hp : p.Ensures P Q)
    (hq : ∀ a, Q a → Q' a) : p.Ensures P Q' := by
  induction hp with
  | done ha => exact .done (hq _ ha)
  | print _ ih => exact .print ih
  | ask hp _ ih => exact .ask hp ih

theorem Ensures.of_yields {p : Procedure Ask Reply α} (hp : p.Ensures P Q)
    {xs : List (Exchanged Ask Reply)} {a : α} (h : Yields p xs a) :
    (∀ x ∈ xs, P x.1) ∧ Q a := by
  induction hp generalizing xs with
  | done ha =>
    obtain ⟨rfl, rfl⟩ := yields_done.1 h
    exact ⟨by simp, ha⟩
  | print _ ih => exact ih (yields_print.1 h)
  | ask hq _ ih =>
    obtain ⟨r, ys, rfl, hr⟩ := yields_ask.1 h
    obtain ⟨hys, ha⟩ := ih r hr
    exact ⟨List.forall_mem_cons.2 ⟨hq, hys⟩, ha⟩

variable {Ask' : Type} {Reply' : Ask' → Type} {P' : Ask' → Prop}

theorem ensures_through {handle : (q : Ask) → Procedure Ask' Reply' (Reply q)}
    (hh : ∀ q, P q → (handle q).Ensures P' fun _ => True) {p : Procedure Ask Reply α}
    (hp : p.Ensures P Q) : (p.through handle).Ensures P' Q := by
  induction hp with
  | done ha => exact .done ha
  | print _ ih => exact .print ih
  | ask hq _ ih => exact ensures_bind (hh _ hq) fun r _ => ih r

end Procedure

def Outcome.Satisfies {α : Type} (Q : α → Prop) (E : TransferError → Prop) : Outcome α → Prop
  | .ok a => Q a
  | .error e => E e

namespace Task

variable {Ask : Type} {Reply : Ask → Type} {α β : Type} {P : Ask → Prop} {Q : α → Prop}
  {R : β → Prop} {E : TransferError → Prop}

/-- What the task `t` ensures of its questions, its values and its errors. -/
def Ensures (P : Ask → Prop) (Q : α → Prop) (E : TransferError → Prop) (t : Task Ask Reply α) :
    Prop :=
  Procedure.Ensures P (Outcome.Satisfies Q E) t.run

theorem Ensures.mono {Q' : α → Prop} {E' : TransferError → Prop} {t : Task Ask Reply α}
    (ht : t.Ensures P Q E) (hq : ∀ a, Q a → Q' a) (he : ∀ e, E e → E' e) : t.Ensures P Q' E' := by
  refine Procedure.Ensures.mono ht fun o ho => ?_
  cases o with
  | error e => exact he e ho
  | ok a => exact hq a ho

theorem Ensures.of_yields {t : Task Ask Reply α} (ht : t.Ensures P Q E)
    {xs : List (Exchanged Ask Reply)} {o : Outcome α} (h : t.Yields xs o) :
    (∀ x ∈ xs, P x.1) ∧ o.Satisfies Q E :=
  Procedure.Ensures.of_yields ht h

theorem ensures_ofOutcome {o : Outcome α} (h : o.Satisfies Q E) :
    (ofOutcome o : Task Ask Reply α).Ensures P Q E :=
  .done h

theorem ensures_pure {a : α} (h : Q a) : (pure a : Task Ask Reply α).Ensures P Q E :=
  ensures_ofOutcome h

theorem ensures_fail {e : TransferError} (h : E e) : (fail e : Task Ask Reply α).Ensures P Q E :=
  ensures_ofOutcome h

theorem ensures_bind {t : Task Ask Reply α} {f : α → Task Ask Reply β} (ht : t.Ensures P Q E)
    (hf : ∀ a, Q a → (f a).Ensures P R E) : (t >>= f).Ensures P R E := by
  refine Procedure.ensures_bind ht fun o ho => ?_
  cases o with
  | error e => exact .done ho
  | ok a => exact hf a ho

theorem ensures_ofOutcome_bind {o : Outcome α} {f : α → Task Ask Reply β}
    (he : ∀ e, o = .error e → E e) (hf : ∀ a, o = .ok a → (f a).Ensures P R E) :
    (ofOutcome o >>= f).Ensures P R E := by
  cases o with
  | error e => exact .done (he e rfl)
  | ok a => exact hf a rfl

theorem ensures_tell_bind {v : Log.Verbosity} {m : Log.Message} {f : Unit → Task Ask Reply β}
    (hf : (f ()).Ensures P R E) : (tell v m >>= f).Ensures P R E := by
  rw [Ensures, run_tell_bind]
  exact Procedure.ensures_tell hf

end Task

end LayerTransfer
