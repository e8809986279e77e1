import LayerTransfer.Proofs.Outcome
import LayerTransfer.Proofs.Procedure.Ensures
import LayerTransfer.Proofs.Procedure.Muted
import Mathlib.Data.List.Forall2

namespace LayerTransfer

variable {Ask : Type} {Reply : Ask → Type}

inductive Event.Alike (RQ : Ask → Ask → Prop) (RA : ∀ q q', Reply q → Reply q' → Prop) :
    Event Ask Reply → Event Ask Reply → Prop
  | printed (m : Log.Message) : Alike RQ RA (.printed m) (.printed m)
  | asked {q q' : Ask} {r : Reply q} {r' : Reply q'} :
      RQ q q' → RA q q' r r' → Alike RQ RA (.asked q r) (.asked q' r')

/-- Servers that give related answers to related questions, and keep doing so. -/
structure Server.Twins {σ τ : Type} (RQ : Ask → Ask → Prop)
    (RA : ∀ q q', Reply q → Reply q' → Prop) (R : σ → τ → Prop) (server : Server Ask Reply σ)
    (server' : Server Ask Reply τ) : Prop where
  answers : ∀ s t, R s t → ∀ q q', RQ q q' → RA q q' (server s q).1 (server' t q').1
  states : ∀ s t, R s t → ∀ q q', RQ q q' → R (server s q).2 (server' t q').2

namespace Procedure

variable {RQ : Ask → Ask → Prop} {RA : ∀ q q', Reply q → Reply q' → Prop} {α β γ δ : Type}
  {V : α → β → Prop} {W : γ → δ → Prop}

inductive Alike (RQ : Ask → Ask → Prop) (RA : ∀ q q', Reply q → Reply q' → Prop)
    (V : α → β → Prop) : Procedure Ask Reply α → Procedure Ask Reply β → Prop
  | done {a : α} {b : β} : V a b → Alike RQ RA V (.done a) (.done b)
  | print {m : Log.Message} {p : Procedure Ask Reply α} {p' : Procedure Ask Reply β} :
      Alike RQ RA V p p' → Alike RQ RA V (.print m p) (.print m p')
  | ask {q q' : Ask} {k : Reply q → Procedure Ask Reply α} {k' : Reply q' → Procedure Ask Reply β} :
      RQ q q' → (∀ r r', RA q q' r r' → Alike RQ RA V (k r) (k' r')) →
        Alike RQ RA V (.ask q k) (.ask q' k')

theorem alike_bind {p : Procedure Ask Reply α} {p' : Procedure Ask Reply β}
    {f : α → Procedure Ask Reply γ} {f' : β → Procedure Ask Reply δ} (hp : Alike RQ RA V p p')
    (hf : ∀ a b, V a b → Alike RQ RA W (f a) (f' b)) : Alike RQ RA W (p.bind f) (p'.bind f') := by
  induction hp with
  | done hab => exact hf _ _ hab
  | print _ ih => exact .print ih
  | ask hq _ ih => exact .ask hq ih

theorem alike_tell {v : Log.Verbosity} {m : Log.Message} {p : Procedure Ask Reply α}
    {p' : Procedure Ask Reply β} (hp : Alike RQ RA V p p') :
    Alike RQ RA V (tell v m p) (tell v m p') := by
  unfold tell
  split
  · exact .print hp
  · exact hp

theorem Alike.mono {V' : α → β → Prop} {p : Procedure Ask Reply α} {p' : Procedure Ask Reply β}
    (hp : Alike RQ RA V p p') (hv : ∀ a b, V a b → V' a b) : Alike RQ RA V' p p' := by
  induction hp with
  | done hab => exact .done (hv _ _ hab)
  | print _ ih => exact .print ih
  | ask hq _ ih => exact .ask hq ih

/-- A procedure runs like itself if related answers to what it asks are the same. -/
theorem alike_self {P : Ask → Prop} {Q : α → Prop} {p : Procedure Ask Reply α}
    (hp : p.Ensures P Q) (hq : ∀ q, P q → RQ q q)
    (hr : ∀ q, P q → ∀ r r', RA q q r r' → r = r') : Alike RQ RA Eq p p := by
  induction hp with
  | done _ => exact .done rfl
  | print _ ih => exact .print ih
  | ask hP _ ih =>
    refine .ask (hq _ hP) fun r r' h => ?_
    rw [hr _ hP r r' h]
    exact ih r'

variable {Ask' : Type} {Reply' : Ask' → Type} {RQ' : Ask' → Ask' → Prop}
  {RA' : ∀ q q', Reply' q → Reply' q' → Prop}

theorem alike_through {handle handle' : (q : Ask) → Procedure Ask' Reply' (Reply q)}
    (hh : ∀ q q', RQ q q' → Alike RQ' RA' (RA q q') (handle q) (handle' q'))
    {p : Procedure Ask Reply α} {p' : Procedure Ask Reply β} (hp : Alike RQ RA V p p') :
    Alike RQ' RA' V (p.through handle) (p'.through handle') := by
  induction hp with
  | done hab => exact .done hab
  | print _ ih => exact .print ih
  | ask hq _ ih => exact alike_bind (hh _ _ hq) ih

theorem Alike.run {σ τ : Type} {R : σ → τ → Prop} {server : Server Ask Reply σ}
    {server' : Server Ask Reply τ} (ht : Server.Twins RQ RA R server server')
    {p : Procedure Ask Reply α} {p' : Procedure Ask Reply β} (hp : Alike RQ RA V p p') {s : σ}
    {t : τ} (hs : R s t) :
    V (run server s p).1 (run server' t p').1 ∧
      List.Forall₂ (Event.Alike RQ RA) (run server s p).2.1 (run server' t p').2.1 ∧
      R (run server s p).2.2 (run server' t p').2.2 := by
  induction hp generalizing s t with
  | done hab => exact ⟨hab, .nil, hs⟩
  | print _ ih =>
    obtain ⟨hv, he, hr⟩ := ih hs
    exact ⟨hv, .cons (.printed _) he, hr⟩
  | ask hq _ ih =>
    have ha := ht.answers s t hs _ _ hq
    obtain ⟨hv, he, hr⟩ := ih _ _ ha (ht.states s t hs _ _ hq)
    exact ⟨hv, .cons (.asked hq ha) he, hr⟩

end Procedure

namespace Event

variable {RQ : Ask → Ask → Prop} {RA : ∀ q q', Reply q → Reply q' → Prop}
  {es es' : List (Event Ask Reply)}

theorem messages_eq (h : List.Forall₂ (Alike RQ RA) es es') : messages es = messages es' := by
  induction h with
  | nil => rfl
  | cons he _ ih =>
    cases he with
    | printed m => rw [messages_printed, messages_printed, ih]
    | asked hq ha => rw [messages_asked, messages_asked, ih]

theorem questions_alike (h : List.Forall₂ (Alike RQ RA) es es') :
    List.Forall₂ RQ (questions es) (questions es') := by
  induction h with
  | nil => exact .nil
  | cons he _ ih =>
    cases he with
    | printed m => exact ih
    | asked hq ha => exact .cons hq ih

end Event

namespace Procedure

variable {RQ : Ask → Ask → Prop} {RA : ∀ q q', Reply q → Reply q' → Prop} {α β σ τ : Type}
  {V : α → β → Prop}

/-- Runs that look the same: the lines are the same on each channel, and what is asked and what
comes of it differs only as far as the relations let it. -/
structure Indistinct (RQ : Ask → Ask → Prop) (V : α → β → Prop)
    (x : α × List (Event Ask Reply) × σ) (y : β × List (Event Ask Reply) × τ) : Prop where
  value : V x.1 y.1
  lines : ∀ c, Event.lines c x.2.1 = Event.lines c y.2.1
  questions : List.Forall₂ RQ (Event.questions x.2.1) (Event.questions y.2.1)

theorem Alike.indistinct {R : σ → τ → Prop} {server : Server Ask Reply σ}
    {server' : Server Ask Reply τ} (ht : Server.Twins RQ RA R server server')
    {p : Procedure Ask Reply α} {p' : Procedure Ask Reply β} (hp : Alike RQ RA V p p') {s : σ}
    {t : τ} (hs : R s t) :
    Indistinct RQ V (Procedure.run server s p) (Procedure.run server' t p') := by
  obtain ⟨hv, he, -⟩ := hp.run ht hs
  refine ⟨hv, fun c => ?_, Event.questions_alike he⟩
  rw [Event.lines, Event.lines, Event.messages_eq he]

end Procedure

namespace Task

variable {RQ : Ask → Ask → Prop} {RA : ∀ q q', Reply q → Reply q' → Prop} {α β γ δ : Type}
  {V : α → β → Prop} {W : γ → δ → Prop}

def Alike (RQ : Ask → Ask → Prop) (RA : ∀ q q', Reply q → Reply q' → Prop) (V : α → β → Prop)
    (t : Task Ask Reply α) (t' : Task Ask Reply β) : Prop :=
  Procedure.Alike RQ RA (Outcome.Alike V) t.run t'.run

theorem Alike.mono {V' : α → β → Prop} {t : Task Ask Reply α} {t' : Task Ask Reply β}
    (ht : Alike RQ RA V t t') (hv : ∀ a b, V a b → V' a b) : Alike RQ RA V' t t' := by
  refine Procedure.Alike.mono ht fun o o' ho => ?_
  cases ho with
  | error e => exact .error e
  | ok h => exact .ok (hv _ _ h)

theorem alike_self {P : Ask → Prop} {Q : α → Prop} {E : TransferError → Prop}
    {t : Task Ask Reply α} (ht : t.Ensures P Q E) (hq : ∀ q, P q → RQ q q)
    (hr : ∀ q, P q → ∀ r r', RA q q r r' → r = r') : Alike RQ RA Eq t t :=
  (Procedure.alike_self ht hq hr).mono fun _ _ => Outcome.alike_of_eq

theorem alike_ofOutcome {o : Outcome α} {o' : Outcome β} (h : Outcome.Alike V o o') :
    Alike RQ RA V (ofOutcome o : Task Ask Reply α) (ofOutcome o') :=
  .done h

theorem alike_pure {a : α} {b : β} (h : V a b) :
    Alike RQ RA V (pure a : Task Ask Reply α) (pure b) :=
  .done (.ok h)

theorem alike_fail (e : TransferError) :
    Alike RQ RA V (fail e : Task Ask Reply α) (fail e) :=
  .done (.error e)

theorem alike_bind {t : Task Ask Reply α} {t' : Task Ask Reply β} {f : α → Task Ask Reply γ}
    {f' : β → Task Ask Reply δ} (ht : Alike RQ RA V t t')
    (hf : ∀ a b, V a b → Alike RQ RA W (f a) (f' b)) : Alike RQ RA W (t >>= f) (t' >>= f') := by
  refine Procedure.alike_bind ht fun o o' ho => ?_
  cases ho with
  | error e => exact .done (.error e)
  | ok h => exact hf _ _ h

theorem alike_ofOutcome_bind {o : Outcome α} {f : α → Task Ask Reply γ} {f' : α → Task Ask Reply δ}
    (hf : ∀ a, o = .ok a → Alike RQ RA W (f a) (f' a)) :
    Alike RQ RA W (ofOutcome o >>= f) (ofOutcome o >>= f') := by
  cases o with
  | error e => exact .done (.error e)
  | ok a => exact hf a rfl

theorem alike_tell_bind {v : Log.Verbosity} {m : Log.Message} {f : Unit → Task Ask Reply γ}
    {f' : Unit → Task Ask Reply δ} (hf : Alike RQ RA W (f ()) (f' ())) :
    Alike RQ RA W (tell v m >>= f) (tell v m >>= f') := by
  rw [Alike, run_tell_bind, run_tell_bind]
  exact Procedure.alike_tell hf

theorem alike_forLayer {name : String} {t : Task Ask Reply α} {t' : Task Ask Reply β}
    (ht : Alike RQ RA V t t') : Alike RQ RA V (forLayer name t) (forLayer name t') := by
  refine Procedure.alike_bind ht fun o o' ho => ?_
  cases ho with
  | error e => exact .done (.error _)
  | ok h => exact .done (.ok h)

end Task

end LayerTransfer
