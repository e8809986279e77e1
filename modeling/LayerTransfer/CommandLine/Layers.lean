import LayerTransfer.TransferError

namespace LayerTransfer.CommandLine

def resolveLayer (o : Name.Options) (image : Name.Reference) (layer : String) :
    Outcome Name.Pinned :=
  if '@' ∈ layer.toList then readName (Name.Pinned.parse layer o)
  else (readDigest layer).map fun d => ⟨image.repository, d⟩

def resolveLayers (o : Name.Options) (image : Name.Reference) (layers : List String) :
    Outcome (List Name.Pinned) :=
  layers.mapM (resolveLayer o image)

end LayerTransfer.CommandLine
