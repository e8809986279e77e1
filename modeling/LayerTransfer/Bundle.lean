import LayerTransfer.Archive.Basic
import LayerTransfer.Image.Basic
import LayerTransfer.Log.Amount
import LayerTransfer.Machine

namespace LayerTransfer.Bundle

open Name Transport

def manifestEntry : String := "manifest.json"

def indexEntry : String := "digests.json"

def layerEntry (d : Digest) : String := d.hex ++ ".tar.gz"

def configEntry (d : Digest) : String := d.hex ++ ".json"

structure Exported where
  file : Option Bytes
  result : Outcome (List Descriptor)

def readLayer (v : Log.Verbosity) (p : Pinned) : Reading (Descriptor × Blob.Stream) := do
  let layer ← Layer.ofPinned p
  let size ← layer.size
  let d : Descriptor := ⟨layer.mediaType, size, layer.digest⟩
  Task.tell v (.detail
    (d.digest.text ++ " (" ++ d.mediaType.text ++ ", " ++ Log.sizeText d.size ++ ")"))
  let content ← layer.content
  return (d, content)

def addLayer (v : Log.Verbosity) (p : Pinned) (a : Archive) :
    Procedure Call Call.Reply (Archive × Outcome Descriptor) :=
  (readLayer v p).run.bind fun
    | .error e => .done (a, .error e)
    | .ok (d, content) =>
      let (a, o) := a.append (layerEntry d.digest) d.size content.chunks
      .done (a, o.map fun _ => d)

def addLayers (v : Log.Verbosity) (total : Nat) :
    Nat → List Pinned → Archive → Procedure Call Call.Reply (Archive × Outcome (List Descriptor))
  | _, [], a => .done (a, .ok [])
  | index, p :: r, a =>
    .tell v (.step ("Layer " ++ toString (index + 1) ++ "/" ++ toString total ++ ": " ++ p.text))
      ((addLayer v p a).bind fun
        | (a, .error e) => .done (a, .error (e.forLayer p.text))
        | (a, .ok d) =>
          (addLayers v total (index + 1) r a).bind fun (a, o) => .done (a, o.map (d :: ·)))

def documents (i : Image) (ds : List Descriptor) : List (Outcome (String × Bytes)) :=
  [i.rawManifest.map (manifestEntry, ·),
    i.configName.bind fun d => i.rawConfig.map (configEntry d, ·),
    .ok (indexEntry, Descriptor.printIndex ds)]

def addDocuments : List (Outcome (String × Bytes)) → Archive → Archive × Outcome Unit
  | [], a => (a, .ok ())
  | .error e :: _, a => (a, .error e)
  | .ok (name, content) :: r, a =>
    match a.appendBytes name content with
    | (a, .error e) => (a, .error e)
    | (a, .ok _) => addDocuments r a

def addEntries (v : Log.Verbosity) (ps : List Pinned) (i : Image) (a : Archive) :
    Procedure Call Call.Reply (Archive × Outcome (List Descriptor)) :=
  (addLayers v ps.length 0 ps a).bind fun
    | (a, .error e) => .done (a, .error e)
    | (a, .ok ds) =>
      let (a, o) := addDocuments (documents i ds) a
      .done (a, o.map fun _ => ds)

/-- Writes the bundle of layers of an image to a path. Its manifest may list layers that it leaves
out. After a failure the file is closed, too, but holds no index. -/
def write (v : Log.Verbosity) (m : Machine) (ps : List Pinned) (path : String) (i : Image) :
    Procedure Call Call.Reply Exported :=
  .tell v (.heading "Exporting bundle")
    (.tell v (.info (toString ps.length ++ " layers to " ++ path))
      (match Archive.create m path with
        | .error e => .done ⟨none, .error e⟩
        | .ok a =>
          (addEntries v ps i a).bind fun (a, o) =>
            match o with
            | .error e => .done ⟨some (a.ended .abandoned), .error e⟩
            | .ok ds =>
              .tell v (.success
                ("Bundle written to " ++ path ++ " in " ++ Log.durationText m.elapsedMillis))
                (.done ⟨some (a.ended .finished), .ok ds⟩)))

end LayerTransfer.Bundle
