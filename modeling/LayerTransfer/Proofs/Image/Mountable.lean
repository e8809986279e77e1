import LayerTransfer.Image.Basic
import LayerTransfer.Proofs.Outcome
import Mathlib.Data.List.Forall2

namespace LayerTransfer

open Name

namespace Layer

/-- Whether `l'` is the layer `l`, which comes from `r` unless it has an origin of its own. -/
structure RootedAt (r : Reference) (l l' : Layer) : Prop where
  origin : l'.origin = some (l.origin.getD r)
  handle : l'.handle = l.handle
  digest : l'.digest = l.digest
  mediaType : l'.mediaType = l.mediaType
  size : l'.size = l.size
  content : l'.content = l.content
  isPresent : l'.isPresent = l.isPresent
  descriptor : l'.descriptor = l.descriptor

variable (r s : Reference) (l : Layer)

theorem rootedAt_wrap : RootedAt r l (l.wrap r) where
  origin := rfl
  handle := rfl
  digest := rfl
  mediaType := rfl
  size := rfl
  content := rfl
  isPresent := rfl
  descriptor := rfl

@[simp] theorem wrap_wrap : (l.wrap r).wrap s = l.wrap r := rfl

theorem rootedAt_map (ls : List Layer) : List.Forall₂ (RootedAt r) ls (ls.map (·.wrap r)) := by
  rw [List.forall₂_map_right_iff, List.forall₂_same]
  exact fun l _ => rootedAt_wrap r l

end Layer

namespace Image

/-- Whether `j` answers as `i` does, with layers that come from `r` unless they have an origin. -/
structure RootedAt (r : Reference) (i j : Image) : Prop where
  layers : Outcome.Alike (List.Forall₂ (Layer.RootedAt r)) i.layers j.layers
  layerByDigest (d : Digest) :
    Outcome.Alike (Layer.RootedAt r) (i.layerByDigest d) (j.layerByDigest d)
  layerByDiffId (d : Digest) :
    Outcome.Alike (Layer.RootedAt r) (i.layerByDiffId d) (j.layerByDiffId d)
  configLayer : Outcome.Alike (Layer.RootedAt r) i.configLayer j.configLayer
  rawManifest : j.rawManifest = i.rawManifest
  rawConfig : j.rawConfig = i.rawConfig
  configName : j.configName = i.configName
  mediaType : j.mediaType = i.mediaType
  descriptor : j.descriptor = i.descriptor

theorem rootedAt_mountable (r : Reference) (i : Image) : RootedAt r i (i.mountable r) where
  layers := Outcome.alike_map (Layer.rootedAt_map r) i.layers
  layerByDigest d := Outcome.alike_map (Layer.rootedAt_wrap r) (i.layerByDigest d)
  layerByDiffId d := Outcome.alike_map (Layer.rootedAt_wrap r) (i.layerByDiffId d)
  configLayer := Outcome.alike_map (Layer.rootedAt_wrap r) i.configLayer
  rawManifest := rfl
  rawConfig := rfl
  configName := rfl
  mediaType := rfl
  descriptor := rfl

theorem map_wrap_wrap (r s : Reference) (o : Outcome Layer) :
    (o.map (·.wrap r)).map (·.wrap s) = o.map (·.wrap r) := by
  cases o with
  | error e => rfl
  | ok l => rfl

theorem mountable_mountable (r s : Reference) (i : Image) :
    (i.mountable r).mountable s = i.mountable r := by
  have hlayers : (i.layers.map fun ls => ls.map (·.wrap r)).map (fun ls => ls.map (·.wrap s)) =
      i.layers.map fun ls => ls.map (·.wrap r) := by
    cases i.layers with
    | error e => rfl
    | ok ls => simp [Except.map]
  simp only [mountable, hlayers, map_wrap_wrap]

/-- The image with an origin given to it time and again, the first one at the head of the list. -/
def nested (i : Image) (rs : List Reference) : Image :=
  rs.foldl mountable i

theorem nested_mountable (r : Reference) (rs : List Reference) (i : Image) :
    (i.mountable r).nested rs = i.mountable r := by
  induction rs with
  | nil => rfl
  | cons s rs ih =>
    have hstep : (i.mountable r).nested (s :: rs) = ((i.mountable r).mountable s).nested rs := rfl
    rw [hstep, mountable_mountable, ih]

/-- Of all the origins that an image is given the first one counts, for those of its layers that
have none of their own, and all else stays as it is. The others might as well not be there. -/
theorem first_origin_wins (i : Image) (r : Reference) (rs : List Reference) :
    RootedAt r i (i.nested (r :: rs)) ∧ i.nested (r :: rs) = i.nested [r] := by
  have h : i.nested (r :: rs) = i.mountable r := nested_mountable r rs i
  rw [h]
  exact ⟨rootedAt_mountable r i, rfl⟩

end Image

end LayerTransfer
