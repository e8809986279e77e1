import LayerTransfer.Log.Message
import LayerTransfer.TransferError

namespace LayerTransfer

/-- A procedure over questions `Ask`, each with its type of answers. It is finite, so every run
ends. -/
inductive Procedure (Ask : Type) (Reply : Ask → Type) (α : Type) : Type
  | done (value : α)
  | print (message : Log.Message) (rest : Procedure Ask Reply α)
  | ask (question : Ask) (rest : Reply question → Procedure Ask Reply α)

inductive Event (Ask : Type) (Reply : Ask → Type) : Type
  | printed (message : Log.Message)
  | asked (question : Ask) (answer : Reply question)

namespace Event

variable {Ask : Type} {Reply : Ask → Type}

def message? : Event Ask Reply → Option Log.Message
  | printed m => some m
  | asked _ _ => none

def question? : Event Ask Reply → Option Ask
  | printed _ => none
  | asked q _ => some q

def messages (es : List (Event Ask Reply)) : List Log.Message := es.filterMap message?

def questions (es : List (Event Ask Reply)) : List Ask := es.filterMap question?

end Event

/-- Who answers, with a state of its own. -/
abbrev Server (Ask : Type) (Reply : Ask → Type) (σ : Type) := σ → (q : Ask) → Reply q × σ

namespace Procedure

variable {Ask : Type} {Reply : Ask → Type} {α β σ : Type}

/-- Tells a message to whom it is shown. -/
def tell (v : Log.Verbosity) (m : Log.Message) (p : Procedure Ask Reply α) :
    Procedure Ask Reply α :=
  if v.shows m then print m p else p

def bind : Procedure Ask Reply α → (α → Procedure Ask Reply β) → Procedure Ask Reply β
  | done a, f => f a
  | print m p, f => print m (p.bind f)
  | ask q k, f => ask q fun r => (k r).bind f

instance : Monad (Procedure Ask Reply) where
  pure := done
  bind := bind

theorem bind_done (p : Procedure Ask Reply α) : p.bind done = p := by
  induction p with
  | done a => rfl
  | print m p ih => simp [bind, ih]
  | ask q k ih => simp [bind, ih]

theorem bind_assoc {γ : Type} (p : Procedure Ask Reply α) (f : α → Procedure Ask Reply β)
    (g : β → Procedure Ask Reply γ) : (p.bind f).bind g = p.bind fun a => (f a).bind g := by
  induction p with
  | done a => rfl
  | print m p ih => simp [bind, ih]
  | ask q k ih => simp [bind, ih]

theorem tell_bind (v : Log.Verbosity) (m : Log.Message) (p : Procedure Ask Reply α)
    (f : α → Procedure Ask Reply β) : (tell v m p).bind f = tell v m (p.bind f) := by
  unfold tell
  split <;> rfl

instance : LawfulMonad (Procedure Ask Reply) :=
  LawfulMonad.mk' (Procedure Ask Reply) bind_done (fun _ _ => rfl) bind_assoc

def run (server : Server Ask Reply σ) (s : σ) :
    Procedure Ask Reply α → α × List (Event Ask Reply) × σ
  | done a => (a, [], s)
  | print m p =>
    let r := run server s p
    (r.1, .printed m :: r.2.1, r.2.2)
  | ask q k =>
    let (reply, s) := server s q
    let r := run server s (k reply)
    (r.1, .asked q reply :: r.2.1, r.2.2)

variable {Ask' : Type} {Reply' : Ask' → Type}

/-- The procedure in which every question is answered by a procedure over other questions. -/
def through (handle : (q : Ask) → Procedure Ask' Reply' (Reply q)) :
    Procedure Ask Reply α → Procedure Ask' Reply' α
  | done a => done a
  | print m p => print m (p.through handle)
  | ask q k => (handle q).bind fun r => (k r).through handle

theorem through_ask (handle : (q : Ask) → Procedure Ask' Reply' (Reply q)) (q : Ask) :
    (ask q done).through handle = handle q :=
  bind_done (handle q)

theorem run_bind (server : Server Ask Reply σ) (s : σ) (p : Procedure Ask Reply α)
    (f : α → Procedure Ask Reply β) :
    run server s (p.bind f) =
      let r := run server s p
      let t := run server r.2.2 (f r.1)
      (t.1, r.2.1 ++ t.2.1, t.2.2) := by
  induction p generalizing s with
  | done a => rfl
  | print m p ih => simp [bind, run, ih]
  | ask q k ih => simp [bind, run, ih]

end Procedure

abbrev Task (Ask : Type) (Reply : Ask → Type) (α : Type) :=
  ExceptT TransferError (Procedure Ask Reply) α

namespace Task

variable {Ask : Type} {Reply : Ask → Type} {α : Type}

def tell (v : Log.Verbosity) (m : Log.Message) : Task Ask Reply Unit :=
  ExceptT.mk (.tell v m (.done (.ok ())))

theorem run_tell_bind {β : Type} (v : Log.Verbosity) (m : Log.Message)
    (f : Unit → Task Ask Reply β) : (tell v m >>= f).run = .tell v m (f ()).run :=
  Procedure.tell_bind ..

def ofOutcome (o : Outcome α) : Task Ask Reply α :=
  ExceptT.mk (.done o)

def fail (e : TransferError) : Task Ask Reply α :=
  ofOutcome (.error e)

def forLayer (name : String) (t : Task Ask Reply α) : Task Ask Reply α :=
  ExceptT.mk (t.run.bind fun o => .done (Outcome.forLayer name o))

variable {Ask' : Type} {Reply' : Ask' → Type}

def through (handle : (q : Ask) → Procedure Ask' Reply' (Reply q)) (t : Task Ask Reply α) :
    Task Ask' Reply' α :=
  ExceptT.mk (t.run.through handle)

end Task

end LayerTransfer
