import LayerTransfer.Push.Writer

namespace LayerTransfer.Push

open Name

inductive Step
  | layer (digest : Digest) (destination : Repository) (mountFrom : Option Repository)
  | manifest (reference : Reference) (mediaType : MediaType)
deriving DecidableEq, Repr

def planLayer (r : Repository) (l : Layer) : Step :=
  .layer l.digest r (mountSource l r)

def planImage (r : Reference) (i : Image) : Outcome (List Step) := do
  let layers ← i.layers
  let config ← i.configLayer
  let mediaType ← i.mediaType
  return (layers ++ [config]).map (planLayer r.repository) ++ [.manifest r mediaType]

def planner : Writer Outcome (List Step) where
  write := planImage
  writeLayer r l := .ok [planLayer r l]

end LayerTransfer.Push
