import LayerTransfer.Bundle
import LayerTransfer.Image.Remote
import LayerTransfer.Proofs.Procedure.Muted

namespace LayerTransfer

open Name Transport
open Log (Verbosity)

theorem Transport.onlyTells_connect (r : Repository) : Task.OnlyTells fun _ => connect r :=
  Procedure.onlyTells_ask Procedure.onlyTells_done

theorem Transport.onlyTells_fetch (r : Repository) (q : BlobRequest) :
    Task.OnlyTells fun _ => fetch r q :=
  Procedure.onlyTells_ask Procedure.onlyTells_done

namespace Layer

theorem onlyTells_size (l : Layer) : Task.OnlyTells fun _ => l.size := by
  obtain ⟨b, origin, handle⟩ := l
  cases b with
  | held content d t => exact Task.onlyTells_pure _
  | remote r d listed => exact Procedure.onlyTells_ask Procedure.onlyTells_done

theorem onlyTells_content (l : Layer) : Task.OnlyTells fun _ => l.content := by
  obtain ⟨b, origin, handle⟩ := l
  cases b with
  | held content d t => exact Task.onlyTells_pure _
  | remote r d listed => exact onlyTells_fetch r (.layer d)

theorem onlyTells_ofPinned (p : Pinned) : Task.OnlyTells fun _ => ofPinned p := by
  refine Task.onlyTells_bind ?_ fun l => Task.onlyTells_pure (l.wrap (.pinned p))
  exact Task.onlyTells_bind (onlyTells_connect p.repository) fun _ => Task.onlyTells_pure _

end Layer

theorem RemoteImage.onlyTells_read (r : Repository) (raw : Bytes) :
    Task.OnlyTells fun _ => RemoteImage.read r raw := by
  refine Task.onlyTells_ofOutcome_bind fun m => ?_
  refine Task.onlyTells_bind (onlyTells_fetch r (configRequest m)) fun s => ?_
  refine Task.onlyTells_ofOutcome_bind fun config => ?_
  exact Task.onlyTells_ofOutcome_bind fun parsed => Task.onlyTells_pure _

namespace Bundle

theorem onlyTells_readLayer (p : Pinned) : Task.OnlyTells fun v => readLayer v p := by
  refine Task.onlyTells_bind (Layer.onlyTells_ofPinned p) fun l => ?_
  refine Task.onlyTells_bind l.onlyTells_size fun size => ?_
  refine Task.onlyTells_tell_bind ?_
  exact Task.onlyTells_bind l.onlyTells_content fun s => Task.onlyTells_pure _

theorem onlyTells_addLayer (p : Pinned) (a : Archive) :
    Procedure.OnlyTells fun v => addLayer v p a := by
  refine Procedure.onlyTells_bind (onlyTells_readLayer p) fun o => ?_
  cases o with
  | error e => exact Procedure.onlyTells_done _
  | ok x => exact Procedure.onlyTells_done _

theorem onlyTells_addLayers (total : Nat) (ps : List Pinned) (index : Nat) (a : Archive) :
    Procedure.OnlyTells fun v => addLayers v total index ps a := by
  induction ps generalizing index a with
  | nil => exact Procedure.onlyTells_done _
  | cons p r ih =>
    refine Procedure.onlyTells_tell _ (Procedure.onlyTells_bind (onlyTells_addLayer p a) ?_)
    rintro ⟨b, o⟩
    cases o with
    | error e => exact Procedure.onlyTells_done _
    | ok d => exact Procedure.onlyTells_bind (ih (index + 1) b) fun _ => Procedure.onlyTells_done _

theorem onlyTells_addEntries (ps : List Pinned) (i : Image) (a : Archive) :
    Procedure.OnlyTells fun v => addEntries v ps i a := by
  refine Procedure.onlyTells_bind (onlyTells_addLayers ps.length ps 0 a) ?_
  rintro ⟨b, o⟩
  cases o with
  | error e => exact Procedure.onlyTells_done _
  | ok ds => exact Procedure.onlyTells_done _

theorem onlyTells_write (m : Machine) (ps : List Pinned) (path : String) (i : Image) :
    Procedure.OnlyTells fun v => write v m ps path i := by
  refine Procedure.onlyTells_tell _ (Procedure.onlyTells_tell _ ?_)
  cases Archive.create m path with
  | error e => exact Procedure.onlyTells_done _
  | ok a =>
    refine Procedure.onlyTells_bind (onlyTells_addEntries ps i a) ?_
    rintro ⟨b, o⟩
    cases o with
    | error e => exact Procedure.onlyTells_done _
    | ok ds => exact Procedure.onlyTells_tell _ (Procedure.onlyTells_done _)

end Bundle

end LayerTransfer
