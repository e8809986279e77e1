import LayerTransfer.CommandLine.Runner
import LayerTransfer.Http.Library
import LayerTransfer.Proofs.CommandLine.Overrides
import LayerTransfer.Proofs.Http.Muted

namespace LayerTransfer.CommandLine

open Http Transport
open Log (Verbosity)

def ending (v : Verbosity) (r : Option Written × Outcome Unit) : Run :=
  (closing r.2).foldr (.tell v) (.done r)

def whole (m : Machine) (s : Settings) (command : Command) : Run :=
  (run m s command).bind (ending s.verbosity)

/-- The program in an environment. Where it finds no settings it is neither quiet nor verbose. -/
def program (m : Machine) (e : Environment) (a : Arguments) : Run :=
  match a.settings e with
  | .error err => ending {} (none, .error err)
  | .ok s => whole m s a.command

theorem program_of_error {m : Machine} {e : Environment} {a : Arguments} {err : TransferError}
    (h : a.settings e = .error err) : program m e a = ending {} (none, .error err) := by
  rw [program, h]

theorem program_of_ok {m : Machine} {e : Environment} {a : Arguments} {s : Settings}
    (h : a.settings e = .ok s) : program m e a = whole m s a.command := by
  rw [program, h]

namespace Arguments

variable {a : Arguments}

theorem validate_flags {verbose quiet : Bool} (h : ¬(verbose = true ∧ quiet = true)) :
    validate { a with verbose, quiet } = validate { a with verbose := false, quiet := false } := by
  simp only [validate, if_neg h, Bool.false_eq_true, and_self, if_false]

/-- The switches go into the settings as they are and decide nothing else. -/
theorem settings_flags (a : Arguments) (e : Environment) {verbose quiet : Bool}
    (h : ¬(verbose = true ∧ quiet = true)) :
    settings { a with verbose, quiet } e =
      (settings { a with verbose := false, quiet := false } e).map
        fun s => { s with verbose, quiet } := by
  rw [settings, settings]
  cases he : Settings.ofEnvironment e with
  | error err => rfl
  | ok s =>
    obtain ⟨i, k, t, -, -, -, rfl, -⟩ := ok_of_ofEnvironment he
    have happly : applyTo { a with verbose, quiet } (unchecked e i k t) =
        { applyTo { a with verbose := false, quiet := false } (unchecked e i k t) with
          verbose, quiet } := by
      simp [applyTo, unchecked]
    simp only [Except.bind, configure, validate_flags h, happly]
    cases validate { a with verbose := false, quiet := false } with
    | error err => rfl
    | ok u =>
      have hvalid (s : Settings) : { s with verbose, quiet }.validate = s.validate := rfl
      simp only [bind, Except.bind, hvalid]
      cases (applyTo { a with verbose := false, quiet := false } (unchecked e i k t)).validate with
      | error err => rfl
      | ok u => rfl

end Arguments

section

variable (c : Client) (o : Name.Options)

theorem onlyTells_readSource (image : String) (layers : List String) :
    Task.OnlyTells fun v => readSource (c.withLogger v) o image layers := by
  refine Task.onlyTells_ofOutcome_bind fun r => Task.onlyTells_ofOutcome_bind fun ps => ?_
  refine Task.onlyTells_tell_bind (Task.onlyTells_bind (c.onlyTells_image r) fun source => ?_)
  exact Task.onlyTells_tell_bind (Task.onlyTells_pure _)

theorem onlyTells_runExport (m : Machine) (image : String) (layers : List String) (path : String) :
    Procedure.OnlyTells fun v => runExport (c.withLogger v) m o image layers path := by
  refine Procedure.onlyTells_bind (onlyTells_readSource c o image layers) fun x => ?_
  cases x with
  | error e => exact Procedure.onlyTells_done _
  | ok x =>
    refine Procedure.onlyTells_bind (Procedure.onlyTells_through c.onlyTells_serve
      (Bundle.onlyTells_write m x.2 path x.1.toImage)) fun exported => ?_
    obtain ⟨file, result⟩ := exported
    cases result with
    | error e => exact Procedure.onlyTells_done _
    | ok ds => exact Procedure.onlyTells_tell _ (Procedure.onlyTells_done _)

theorem onlyTells_runCopy (source destination : String) :
    Task.OnlyTells fun v => runCopy (c.withLogger v) o source destination := by
  refine Task.onlyTells_ofOutcome_bind fun r => Task.onlyTells_tell_bind ?_
  refine Task.onlyTells_bind (c.onlyTells_image r) fun image => Task.onlyTells_tell_bind ?_
  unfold Push.push
  split
  · exact c.onlyTells_write _ _
  · exact Task.onlyTells_fail _

theorem onlyTells_runUpload (source destination : String) :
    Task.OnlyTells fun v => runUpload (c.withLogger v) o source destination := by
  refine Task.onlyTells_ofOutcome_bind fun p => ?_
  refine Task.onlyTells_bind (c.onlyTells_reading (Layer.onlyTells_ofPinned p)) fun l => ?_
  refine Task.onlyTells_tell_bind ?_
  unfold Push.upload
  split
  · exact c.onlyTells_writeLayer _ _
  · exact Task.onlyTells_fail _

theorem onlyTells_runCommand (m : Machine) (command : Command) :
    Procedure.OnlyTells fun v => runCommand (c.withLogger v) m o command := by
  have hnoFile {t : Verbosity → Exchange Unit} (ht : Task.OnlyTells t) :
      Procedure.OnlyTells fun v => noFile (t v) :=
    Procedure.onlyTells_bind ht fun _ => Procedure.onlyTells_done _
  cases command with
  | «export» image layers output => exact onlyTells_runExport c o m image layers output
  | copy source destination => exact hnoFile (onlyTells_runCopy c o source destination)
  | upload source destination => exact hnoFile (onlyTells_runUpload c o source destination)

theorem onlyTells_session (m : Machine) (s : Settings) (command : Command) :
    Procedure.OnlyTells fun v => session (c.withLogger v) m s command := by
  refine Procedure.onlyTells_tell _ (Procedure.onlyTells_tell _ ?_)
  refine Procedure.onlyTells_bind (onlyTells_runCommand c s.nameOptions m command) ?_
  rintro ⟨file, o⟩
  cases o with
  | error e => exact Procedure.onlyTells_done _
  | ok u => exact Procedure.onlyTells_tell _ (Procedure.onlyTells_done _)

end

theorem onlyTells_ending (r : Option Written × Outcome Unit) :
    Procedure.OnlyTells fun v => ending v r := by
  unfold ending
  induction closing r.2 with
  | nil => exact Procedure.onlyTells_done r
  | cons m more ih => exact Procedure.onlyTells_tell m ih

/-- The whole run of a command as it is told to somebody. -/
def wholeFor (m : Machine) (s : Settings) (command : Command) (v : Verbosity) : Run :=
  (session ((client s).withLogger v) m s command).bind (ending v)

theorem onlyTells_wholeFor (m : Machine) (s : Settings) (command : Command) :
    Procedure.OnlyTells (wholeFor m s command) :=
  Procedure.onlyTells_bind (onlyTells_session (client s) m s command) onlyTells_ending

theorem whole_flags (m : Machine) (s : Settings) (verbose quiet : Bool) (command : Command) :
    whole m { s with verbose, quiet } command =
      wholeFor m s command (if quiet then .silent else ⟨verbose, false⟩) :=
  rfl

/-- Everybody is shown the error that keeps the program from starting. -/
theorem onlyTells_ending_error (err : TransferError) :
    Procedure.OnlyTells fun _ => ending {} (none, .error err) := by
  intro v
  have hshown (u : Verbosity) : u.shows (.error err.message) = true := u.shows_of_errors rfl
  simp only [ending, closing, List.foldr, Procedure.tell, hshown, if_true, Procedure.muted]

theorem differInPrint_whole {σ : Type} (lib : Library) (net : Network σ) (st : σ) (m : Machine)
    (s : Settings) (command : Command) (loud : Bool) :
    Procedure.DifferInPrint
      (lib.run net st (whole m { s with verbose := loud, quiet := true } command))
      (lib.run net st (whole m { s with verbose := false, quiet := false } command))
      (lib.run net st (whole m { s with verbose := true, quiet := false } command)) := by
  simp only [whole_flags]
  exact lib.differInPrint_run (onlyTells_wholeFor m s command) net st

theorem differInPrint_program {σ : Type} (lib : Library) (net : Network σ) (st : σ) (m : Machine)
    (e : Environment) (a : Arguments) :
    Procedure.DifferInPrint
      (lib.run net st (program m e { a with verbose := false, quiet := true }))
      (lib.run net st (program m e { a with verbose := false, quiet := false }))
      (lib.run net st (program m e { a with verbose := true, quiet := false })) := by
  have hquiet := a.settings_flags e (show ¬(false = true ∧ true = true) by simp)
  have hloud := a.settings_flags e (show ¬(true = true ∧ false = true) by simp)
  cases hs : Arguments.settings { a with verbose := false, quiet := false } e with
  | error err =>
    rw [hs] at hquiet hloud
    rw [program_of_error hquiet, program_of_error hloud, program_of_error hs]
    exact lib.differInPrint_run (onlyTells_ending_error err) net st
  | ok s =>
    rw [hs] at hquiet hloud
    have hflags : s = { s with verbose := false, quiet := false } := by
      obtain ⟨-, -, -, -, -, hv, hq, -⟩ := Arguments.effective_of_settings hs
      cases s
      cases hv
      cases hq
      rfl
    rw [program_of_ok hquiet, program_of_ok hloud, program_of_ok hs]
    rw [hflags]
    exact differInPrint_whole lib net st m s a.command false

/-- A quiet, a normal and a verbose run give the same result and the same file, and ask the same;
the quiet one writes nothing to the output, and what the normal one is told the verbose one is told,
too, in the same order. This holds of every command under all settings, of the program with all its
arguments in every environment, and of bundles and pushes by themselves. -/
theorem verbosity_only_prints (lib : Library) (m : Machine) :
    (∀ {σ : Type} (net : Network σ) (st : σ) (s : Settings) (command : Command) (loud : Bool),
      Procedure.DifferInPrint
        (lib.run net st (whole m { s with verbose := loud, quiet := true } command))
        (lib.run net st (whole m { s with verbose := false, quiet := false } command))
        (lib.run net st (whole m { s with verbose := true, quiet := false } command))) ∧
    (∀ {σ : Type} (net : Network σ) (st : σ) (e : Environment) (a : Arguments),
      Procedure.DifferInPrint
        (lib.run net st (program m e { a with verbose := false, quiet := true }))
        (lib.run net st (program m e { a with verbose := false, quiet := false }))
        (lib.run net st (program m e { a with verbose := true, quiet := false }))) ∧
    (∀ {σ : Type} (server : Server Call Call.Reply σ) (st : σ) (ps : List Name.Pinned)
      (path : String) (i : Image),
      Procedure.DifferInPrint (Procedure.run server st (Bundle.write .silent m ps path i))
        (Procedure.run server st (Bundle.write ⟨false, false⟩ m ps path i))
        (Procedure.run server st (Bundle.write ⟨true, false⟩ m ps path i))) ∧
    ∀ {σ : Type} (net : Network σ) (st : σ) (c : Client) (r : Name.Reference) (i : Image),
      Procedure.DifferInPrint (lib.run net st ((c.withLogger .silent).write r i).run)
        (lib.run net st ((c.withLogger ⟨false, false⟩).write r i).run)
        (lib.run net st ((c.withLogger ⟨true, false⟩).write r i).run) :=
  ⟨fun net st s command loud => differInPrint_whole lib net st m s command loud,
    fun net st e a => differInPrint_program lib net st m e a,
    fun server st ps path i => (Bundle.onlyTells_write m ps path i).differInPrint server st,
    fun net st c r i => lib.differInPrint_run (c.onlyTells_write r i) net st⟩

end LayerTransfer.CommandLine
