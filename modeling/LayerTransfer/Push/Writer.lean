import LayerTransfer.Image.Basic

namespace LayerTransfer.Push

open Name

/-- The repository from which a registry can take over a layer. Registries only take over blobs of
their own, and taking a blob from where it should go is meaningless. -/
def mountSource (l : Layer) (destination : Repository) : Option Repository :=
  match l.origin with
  | none => none
  | some o =>
    let source := o.repository
    if source.registry.host ≠ destination.registry.host then none
    else if source.name = destination.name then none
    else some source

/-- What brings images and layers to a registry, with an account of it of type `ρ`. -/
structure Writer (m : Type → Type) (ρ : Type) where
  write : Reference → Image → m ρ
  writeLayer : Repository → Layer → m ρ

variable {m : Type → Type} {ρ : Type}

def push [Monad m] [MonadExceptOf TransferError m] (w : Writer m ρ) (i : Image)
    (destination : String) (o : Options) : m ρ :=
  match readName (Reference.parse destination o) with
  | .ok r => w.write r i
  | .error e => throw e

def upload [Monad m] [MonadExceptOf TransferError m] (w : Writer m ρ) (l : Layer)
    (destination : String) (o : Options) : m ρ :=
  match readName (Repository.parse destination o) with
  | .ok r => w.writeLayer r l
  | .error e => throw e

end LayerTransfer.Push
