import LayerTransfer.Proofs.Procedure.Yields
import Mathlib.Data.List.Basic

namespace LayerTransfer

open Log (Channel Message Verbosity)

/-! ### What is shown -/

namespace Log.Verbosity

theorem channel_of_quiet {m : Message} (h : silent.shows m = true) : m.channel = .errors := by
  simpa [shows, silent] using h

def loud : Verbosity := ⟨true, false⟩

theorem shows_of_errors {m : Message} (v : Verbosity) (h : m.channel = .errors) :
    v.shows m = true := by
  simp [shows, h]

theorem shows_loud (m : Message) : loud.shows m = true := by
  simp [shows, loud]

end Log.Verbosity

namespace Event

variable {Ask : Type} {Reply : Ask → Type}

def isSeen (v : Verbosity) : Event Ask Reply → Bool
  | printed m => v.shows m
  | asked .. => true

/-- The events that can be seen at a verbosity. -/
def seen (v : Verbosity) (es : List (Event Ask Reply)) : List (Event Ask Reply) :=
  es.filter (isSeen v)

def lines (c : Channel) (es : List (Event Ask Reply)) : List String :=
  ((messages es).filter fun m => m.channel = c).map Message.text

section

variable (v : Verbosity) (m : Message) (q : Ask) (r : Reply q) (es : List (Event Ask Reply))

@[simp] theorem messages_printed : messages (printed m :: es) = m :: messages es := rfl

@[simp] theorem messages_asked : messages (asked q r :: es) = messages es := rfl

theorem messages_append (fs : List (Event Ask Reply)) :
    messages (es ++ fs) = messages es ++ messages fs :=
  List.filterMap_append

@[simp] theorem seen_asked : seen v (asked q r :: es) = asked q r :: seen v es := rfl

theorem seen_printed_of_shows {v : Verbosity} {m : Message} (h : v.shows m = true) :
    seen v (printed m :: es) = printed m :: seen v es :=
  List.filter_cons_of_pos h

theorem seen_printed_of_not_shows {v : Verbosity} {m : Message} (h : v.shows m = false) :
    seen v (printed m :: es) = seen v es :=
  List.filter_cons_of_neg (by simp [isSeen, h])

theorem filterMap_seen {β : Type} {f : Event Ask Reply → Option β}
    (hf : ∀ m, f (printed m) = none) : (seen v es).filterMap f = es.filterMap f := by
  induction es with
  | nil => rfl
  | cons e r ih =>
    cases e with
    | printed m =>
      rw [List.filterMap_cons_none (hf m)]
      cases hm : v.shows m with
      | false => rw [seen_printed_of_not_shows r hm, ih]
      | true => rw [seen_printed_of_shows r hm, List.filterMap_cons_none (hf m), ih]
    | asked q a => rw [seen_asked, List.filterMap_cons, List.filterMap_cons, ih]

theorem exchanges_seen : exchanges (seen v es) = exchanges es :=
  filterMap_seen v es fun _ => rfl

theorem messages_seen : messages (seen v es) = (messages es).filter v.shows := by
  induction es with
  | nil => rfl
  | cons e r ih =>
    cases e with
    | printed m =>
      cases hm : v.shows m with
      | false => simp [seen_printed_of_not_shows r hm, ih, hm]
      | true => simp [seen_printed_of_shows r hm, ih, hm]
    | asked q a => simp [ih]

end

theorem seen_sublist {v w : Verbosity} (h : ∀ m, v.shows m = true → w.shows m = true)
    (es : List (Event Ask Reply)) : (seen v es).Sublist (seen w es) := by
  refine List.monotone_filter_right es fun e he => ?_
  cases e with
  | printed m => exact h m he
  | asked q r => rfl

theorem lines_output_silent (es : List (Event Ask Reply)) :
    lines .output (seen .silent es) = [] := by
  rw [lines, messages_seen, List.map_eq_nil_iff, List.filter_eq_nil_iff]
  intro m hm
  have hc : m.channel = .errors := Verbosity.channel_of_quiet (List.mem_filter.1 hm).2
  simp [hc]

theorem lines_errors_seen (v : Verbosity) (es : List (Event Ask Reply)) :
    lines .errors (seen v es) = lines .errors es := by
  rw [lines, lines, messages_seen, List.filter_filter]
  congr 2
  funext m
  by_cases hc : m.channel = .errors
  · simp [hc, Verbosity.shows_of_errors v hc]
  · simp [hc]

end Event

namespace Procedure

variable {Ask : Type} {Reply : Ask → Type} {α β σ : Type}

/-- A procedure that tells only what is shown at a verbosity. -/
def muted (v : Verbosity) : Procedure Ask Reply α → Procedure Ask Reply α
  | done a => done a
  | print m p => tell v m (p.muted v)
  | ask q k => ask q fun r => (k r).muted v

theorem muted_tell {v w : Verbosity} {m : Message} (h : v.shows m = true → w.shows m = true)
    (p : Procedure Ask Reply α) : (tell w m p).muted v = tell v m (p.muted v) := by
  unfold tell
  cases hw : w.shows m with
  | true => rfl
  | false =>
    have hv : v.shows m = false := Bool.eq_false_iff.2 fun hv => by simp [h hv] at hw
    simp [hv]

theorem muted_bind (v : Verbosity) (p : Procedure Ask Reply α) (f : α → Procedure Ask Reply β) :
    (p.bind f).muted v = (p.muted v).bind fun a => (f a).muted v := by
  induction p with
  | done a => rfl
  | print m p ih => rw [bind, muted, muted, ih, tell_bind]
  | ask q k ih => simp only [bind, muted, ih]

theorem muted_through {Ask' : Type} {Reply' : Ask' → Type} (v : Verbosity)
    {handle handle' : (q : Ask) → Procedure Ask' Reply' (Reply q)}
    (hh : ∀ q, handle' q = (handle q).muted v) (p : Procedure Ask Reply α) :
    (p.through handle).muted v = (p.muted v).through handle' := by
  have htell (m : Message) (p : Procedure Ask Reply α) :
      (tell v m p).through handle' = tell v m (p.through handle') := by
    unfold tell
    split <;> rfl
  induction p with
  | done a => rfl
  | print m p ih => rw [through, muted, muted, htell, ih]
  | ask q k ih => simp only [through, muted, muted_bind, hh, ih]

/-- A muted run is the part of the whole run that can be seen. -/
theorem run_muted (v : Verbosity) (server : Server Ask Reply σ) (s : σ)
    (p : Procedure Ask Reply α) :
    run server s (p.muted v) =
      ((run server s p).1, Event.seen v (run server s p).2.1, (run server s p).2.2) := by
  induction p generalizing s with
  | done a => rfl
  | print m p ih =>
    rw [muted, tell]
    cases hm : v.shows m with
    | false => simp [run, ih, Event.seen_printed_of_not_shows _ hm]
    | true => simp [run, ih, Event.seen_printed_of_shows _ hm]
  | ask q k ih => simp [muted, run, ih]

/-- Three runs that differ in nothing but what is shown of them. The quiet one shows errors only,
and the verbose one shows all that the normal one does, in the same order. -/
structure DifferInPrint (quiet normal verbose : α × List (Event Ask Reply) × σ) : Prop where
  values : quiet.1 = normal.1 ∧ normal.1 = verbose.1
  exchanges : Event.exchanges quiet.2.1 = Event.exchanges normal.2.1 ∧
    Event.exchanges normal.2.1 = Event.exchanges verbose.2.1
  servers : quiet.2.2 = normal.2.2 ∧ normal.2.2 = verbose.2.2
  errors : Event.lines .errors quiet.2.1 = Event.lines .errors normal.2.1 ∧
    Event.lines .errors normal.2.1 = Event.lines .errors verbose.2.1
  silence : Event.lines .output quiet.2.1 = []
  messages : (Event.messages normal.2.1).Sublist (Event.messages verbose.2.1)
  events : quiet.2.1.Sublist normal.2.1 ∧ normal.2.1.Sublist verbose.2.1

/-- Whether procedures that are told what is shown do nothing with it but tell less. -/
def OnlyTells (p : Verbosity → Procedure Ask Reply α) : Prop :=
  ∀ v, p v = (p .loud).muted v

theorem OnlyTells.differInPrint {p : Verbosity → Procedure Ask Reply α} (h : OnlyTells p)
    (server : Server Ask Reply σ) (s : σ) :
    DifferInPrint (run server s (p .silent)) (run server s (p ⟨false, false⟩))
      (run server s (p ⟨true, false⟩)) := by
  have hquiet (es : List (Event Ask Reply)) :=
    Event.seen_sublist (v := .silent) (w := ⟨false, false⟩)
      (fun m h => Verbosity.shows_of_errors _ (Verbosity.channel_of_quiet h)) es
  have hnormal (es : List (Event Ask Reply)) :=
    Event.seen_sublist (v := ⟨false, false⟩) (w := .loud) (fun m _ => Verbosity.shows_loud m) es
  rw [h .silent, h ⟨false, false⟩, h ⟨true, false⟩]
  simp only [run_muted]
  exact {
    values := ⟨rfl, rfl⟩
    exchanges := by simp only [Event.exchanges_seen, and_self]
    servers := ⟨rfl, rfl⟩
    errors := by simp only [Event.lines_errors_seen, and_self]
    silence := Event.lines_output_silent _
    messages := (hnormal _).filterMap Event.message?
    events := ⟨hquiet _, hnormal _⟩ }

/-! ### Procedures that only tell -/

theorem onlyTells_done (a : α) : OnlyTells fun _ => (done a : Procedure Ask Reply α) :=
  fun _ => rfl

theorem onlyTells_ask {q : Ask} {k : Verbosity → Reply q → Procedure Ask Reply α}
    (hk : ∀ r, OnlyTells fun v => k v r) : OnlyTells fun v => ask q (k v) :=
  fun v => congrArg (ask q) (funext fun r => hk r v)

theorem onlyTells_tell {p : Verbosity → Procedure Ask Reply α} (m : Message) (hp : OnlyTells p) :
    OnlyTells fun v => tell v m (p v) := by
  intro v
  rw [muted_tell fun _ => Verbosity.shows_loud m, ← hp v]

theorem onlyTells_bind {p : Verbosity → Procedure Ask Reply α}
    {f : Verbosity → α → Procedure Ask Reply β} (hp : OnlyTells p)
    (hf : ∀ a, OnlyTells fun v => f v a) : OnlyTells fun v => (p v).bind (f v) := by
  intro v
  rw [muted_bind, ← hp v]
  exact congrArg _ (funext fun a => hf a v)

theorem onlyTells_through {Ask' : Type} {Reply' : Ask' → Type}
    {handle : Verbosity → (q : Ask) → Procedure Ask' Reply' (Reply q)}
    {p : Verbosity → Procedure Ask Reply α} (hh : ∀ q, OnlyTells fun v => handle v q)
    (hp : OnlyTells p) : OnlyTells fun v => (p v).through (handle v) := by
  intro v
  rw [muted_through v fun q => hh q v, ← hp v]

end Procedure

namespace Task

variable {Ask : Type} {Reply : Ask → Type} {α β : Type}

def OnlyTells (t : Verbosity → Task Ask Reply α) : Prop :=
  Procedure.OnlyTells fun v => (t v).run

theorem onlyTells_ofOutcome (o : Outcome α) :
    OnlyTells fun _ => (ofOutcome o : Task Ask Reply α) :=
  Procedure.onlyTells_done o

theorem onlyTells_pure (a : α) : OnlyTells fun _ => (pure a : Task Ask Reply α) :=
  onlyTells_ofOutcome (.ok a)

theorem onlyTells_fail (e : TransferError) : OnlyTells fun _ => (fail e : Task Ask Reply α) :=
  onlyTells_ofOutcome (.error e)

theorem onlyTells_bind {t : Verbosity → Task Ask Reply α} {f : Verbosity → α → Task Ask Reply β}
    (ht : OnlyTells t) (hf : ∀ a, OnlyTells fun v => f v a) : OnlyTells fun v => t v >>= f v := by
  refine Procedure.onlyTells_bind (f := fun v => ExceptT.bindCont (f v)) ht fun o => ?_
  cases o with
  | error e => exact onlyTells_fail e
  | ok a => exact hf a

theorem onlyTells_ofOutcome_bind {o : Outcome α} {f : Verbosity → α → Task Ask Reply β}
    (hf : ∀ a, OnlyTells fun v => f v a) : OnlyTells fun v => ofOutcome o >>= f v :=
  onlyTells_bind (onlyTells_ofOutcome o) hf

theorem onlyTells_tell_bind {m : Message} {f : Verbosity → Unit → Task Ask Reply β}
    (hf : OnlyTells fun v => f v ()) : OnlyTells fun v => tell v m >>= f v :=
  onlyTells_bind (Procedure.onlyTells_tell m (Procedure.onlyTells_done _)) fun _ => hf

theorem onlyTells_forLayer {name : String} {t : Verbosity → Task Ask Reply α} (ht : OnlyTells t) :
    OnlyTells fun v => forLayer name (t v) :=
  Procedure.onlyTells_bind ht fun _ => Procedure.onlyTells_done _

end Task

end LayerTransfer
