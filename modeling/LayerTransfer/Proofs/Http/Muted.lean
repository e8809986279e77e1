import LayerTransfer.Http.Library
import LayerTransfer.Http.Push
import LayerTransfer.Proofs.Bundle.Muted

namespace LayerTransfer.Http

open Name Transport
open Log (Verbosity)

theorem onlyTells_send {operation target : String} {q : Verbosity → Request}
    (hq : ∀ v, q v = q .loud) : Task.OnlyTells fun v => send operation target (q v) := by
  rw [funext hq]
  unfold send
  simp only
  split
  · exact Task.onlyTells_fail _
  split
  · exact Task.onlyTells_fail _
  refine Procedure.onlyTells_ask fun a => ?_
  cases a with
  | failed f text => exact Task.onlyTells_fail _
  | response s => exact Procedure.onlyTells_done _

theorem onlyTells_expect {wanted : Status → Bool} {operation target : String} {s : Response} :
    Task.OnlyTells fun _ => expect wanted operation target s := by
  unfold expect
  split
  · exact Task.onlyTells_pure s
  · exact Task.onlyTells_fail _

variable {α : Type}

theorem onlyTells_exchange {wanted : Status → Bool} {operation target : String}
    {q : Verbosity → Request} {f : Verbosity → Response → Exchange α} (hq : ∀ v, q v = q .loud)
    (hf : ∀ s, Task.OnlyTells fun v => f v s) :
    Task.OnlyTells fun v =>
      send operation target (q v) >>= fun s => expect wanted operation target s >>= f v :=
  Task.onlyTells_bind (onlyTells_send hq) fun _ => Task.onlyTells_bind onlyTells_expect hf

namespace Client

def withLogger (c : Client) (v : Verbosity) : Client := { c with logger := v }

variable (c : Client)

theorem onlyTells_head (operation : String) (r : Repository) (d : Digest) :
    Task.OnlyTells fun v => (c.withLogger v).head operation r d := by
  refine Task.onlyTells_ofOutcome_bind fun u => Task.onlyTells_tell_bind ?_
  exact onlyTells_send fun _ => rfl

theorem onlyTells_size (r : Repository) (d : Digest) :
    Task.OnlyTells fun v => (c.withLogger v).size r d := by
  refine Task.onlyTells_bind (c.onlyTells_head _ r d) fun s => ?_
  refine Task.onlyTells_bind onlyTells_expect fun t => ?_
  split
  · exact Task.onlyTells_pure _
  · exact Task.onlyTells_fail _

theorem onlyTells_present (r : Repository) (d : Digest) :
    Task.OnlyTells fun v => (c.withLogger v).present r d := by
  refine Task.onlyTells_bind (c.onlyTells_head _ r d) fun s => ?_
  exact Task.onlyTells_bind onlyTells_expect fun t => Task.onlyTells_pure _

theorem onlyTells_fetch (r : Repository) (b : BlobRequest) :
    Task.OnlyTells fun v => (c.withLogger v).fetch r b := by
  refine Task.onlyTells_ofOutcome_bind fun u => Task.onlyTells_tell_bind ?_
  exact onlyTells_exchange (fun _ => rfl) fun s => Task.onlyTells_pure _

theorem onlyTells_fetchManifest (r : Reference) :
    Task.OnlyTells fun v => (c.withLogger v).fetchManifest r := by
  refine Task.onlyTells_ofOutcome_bind fun u => Task.onlyTells_tell_bind ?_
  refine onlyTells_exchange (fun _ => rfl) fun s => ?_
  split
  · exact Task.onlyTells_fail _
  · exact Task.onlyTells_tell_bind (Task.onlyTells_pure _)

theorem onlyTells_serve (q : Call) : Procedure.OnlyTells fun v => (c.withLogger v).serve q := by
  cases q with
  | connect r => exact Procedure.onlyTells_done _
  | size r d => exact c.onlyTells_size r d
  | present r d => exact c.onlyTells_present r d
  | fetch r b => exact c.onlyTells_fetch r b

theorem onlyTells_reading {t : Reading α} (h : Task.OnlyTells fun _ => t) :
    Task.OnlyTells fun v => (c.withLogger v).reading t :=
  Procedure.onlyTells_through c.onlyTells_serve h

theorem onlyTells_image (r : Reference) : Task.OnlyTells fun v => (c.withLogger v).image r := by
  refine Task.onlyTells_bind (c.onlyTells_fetchManifest r) fun raw => c.onlyTells_reading ?_
  exact Task.onlyTells_bind (onlyTells_connect r.repository) fun _ =>
    RemoteImage.onlyTells_read r.repository raw

theorem onlyTells_startUpload (r : Repository) :
    Task.OnlyTells fun v => (c.withLogger v).startUpload r := by
  refine Task.onlyTells_ofOutcome_bind fun base => ?_
  exact onlyTells_exchange (fun _ => rfl) fun s => Task.onlyTells_ofOutcome _

theorem onlyTells_mount (r source : Repository) (d : Digest) :
    Task.OnlyTells fun v => (c.withLogger v).mount r source d := by
  refine Task.onlyTells_ofOutcome_bind fun base => ?_
  refine onlyTells_exchange (fun _ => rfl) fun s => ?_
  split
  · exact Task.onlyTells_pure _
  · exact Task.onlyTells_ofOutcome_bind fun u => Task.onlyTells_pure _

theorem onlyTells_openUpload (r : Repository) (l : Layer) :
    Task.OnlyTells fun v => (c.withLogger v).openUpload r l := by
  unfold openUpload
  split
  · exact Task.onlyTells_bind (c.onlyTells_startUpload r) fun u => Task.onlyTells_pure _
  next source _ =>
    refine Task.onlyTells_bind (c.onlyTells_mount r source l.digest) fun o => ?_
    cases o with
    | mounted => exact Task.onlyTells_tell_bind (Task.onlyTells_pure _)
    | session u => exact Task.onlyTells_tell_bind (Task.onlyTells_pure _)

theorem onlyTells_uploadBlob (start : Url) (l : Layer) :
    Task.OnlyTells fun v => (c.withLogger v).uploadBlob start l := by
  refine Task.onlyTells_bind (c.onlyTells_reading l.onlyTells_size) fun size => ?_
  refine Task.onlyTells_bind (c.onlyTells_reading l.onlyTells_content) fun s => ?_
  refine Task.onlyTells_tell_bind ?_
  exact onlyTells_exchange (fun _ => rfl) fun _ => Task.onlyTells_pure _

theorem onlyTells_writeLayer (r : Repository) (l : Layer) :
    Task.OnlyTells fun v => (c.withLogger v).writeLayer r l := by
  refine Task.onlyTells_bind (c.onlyTells_present r l.digest) fun present => ?_
  cases present with
  | true => exact Procedure.onlyTells_tell _ (Procedure.onlyTells_done _)
  | false =>
    refine Task.onlyTells_bind (c.onlyTells_openUpload r l) fun o => ?_
    cases o with
    | none => exact Task.onlyTells_pure _
    | some u => exact c.onlyTells_uploadBlob u l

theorem onlyTells_writeLayers (r : Repository) (total : Nat) (ls : List Layer) (index : Nat) :
    Task.OnlyTells fun v => (c.withLogger v).writeLayers r total index ls := by
  induction ls generalizing index with
  | nil => exact Task.onlyTells_pure _
  | cons l more ih =>
    refine Task.onlyTells_tell_bind ?_
    exact Task.onlyTells_bind (Task.onlyTells_forLayer (c.onlyTells_writeLayer r l))
      fun _ => ih (index + 1)

theorem onlyTells_putManifest (r : Reference) (raw : Bytes) (t : MediaType) :
    Task.OnlyTells fun v => (c.withLogger v).putManifest r raw t := by
  refine Task.onlyTells_ofOutcome_bind fun u => ?_
  refine onlyTells_exchange (fun _ => rfl) fun _ => ?_
  exact Procedure.onlyTells_tell _ (Procedure.onlyTells_done _)

theorem onlyTells_write (r : Reference) (i : Image) :
    Task.OnlyTells fun v => (c.withLogger v).write r i := by
  refine Task.onlyTells_ofOutcome_bind fun ls => Task.onlyTells_tell_bind ?_
  refine Task.onlyTells_bind (c.onlyTells_writeLayers r.repository ls.length ls 0) fun _ => ?_
  refine Task.onlyTells_ofOutcome_bind fun config => ?_
  refine Task.onlyTells_bind
    (Task.onlyTells_forLayer (c.onlyTells_writeLayer r.repository config)) fun _ => ?_
  refine Task.onlyTells_ofOutcome_bind fun raw => Task.onlyTells_ofOutcome_bind fun t => ?_
  exact c.onlyTells_putManifest r raw t

end Client

namespace Library

variable (lib : Library)

theorem onlyTells_follow (left : Nat) (q : Request) :
    Procedure.OnlyTells fun _ => lib.follow left q := by
  induction left generalizing q with
  | zero =>
    unfold follow
    refine Procedure.onlyTells_ask fun a => ?_
    split
    · exact Procedure.onlyTells_done _
    · split <;> exact Procedure.onlyTells_done _
  | succ left ih =>
    unfold follow
    refine Procedure.onlyTells_ask fun a => ?_
    split
    · exact Procedure.onlyTells_done _
    split
    · exact Procedure.onlyTells_done _
    · exact Procedure.onlyTells_done _
    · exact ih _

theorem differInPrint_run {σ : Type} {p : Verbosity → Procedure Request (fun _ => Answer) α}
    (hp : Procedure.OnlyTells p) (net : Network σ) (st : σ) :
    Procedure.DifferInPrint (lib.run net st (p .silent)) (lib.run net st (p ⟨false, false⟩))
      (lib.run net st (p ⟨true, false⟩)) := by
  have hcarried := Procedure.onlyTells_through (lib.onlyTells_follow maxRedirects) hp
  exact hcarried.differInPrint net st

end Library

end LayerTransfer.Http
