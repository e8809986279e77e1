import LayerTransfer.Image.Basic

namespace LayerTransfer

open Name Transport

/-- A manifest and a config with their raw octets, and the repository that serves the blobs. -/
structure RemoteImage where
  repository : Repository
  rawManifest : Bytes
  manifest : Manifest
  rawConfig : Bytes
  config : ImageConfig
deriving DecidableEq, Repr

namespace RemoteImage

def configRequest (m : Manifest) : BlobRequest :=
  { digest := m.config.digest, sizeHint := some m.config.size }

def read (r : Repository) (rawManifest : Bytes) : Reading RemoteImage := do
  let manifest ← Task.ofOutcome (Manifest.parse rawManifest)
  let stream ← fetch r (configRequest manifest)
  let rawConfig ← Task.ofOutcome <| stream.readAll.mapError fun text =>
    .manifest ("reading config blob " ++ manifest.config.digest.text ++ ": " ++ text)
  let config ← Task.ofOutcome (ImageConfig.parse rawConfig)
  return ⟨r, rawManifest, manifest, rawConfig, config⟩

def layer (i : RemoteImage) (d : Descriptor) : Layer :=
  { blob := .ofDescriptor i.repository d }

/-- The config lives in the registry, too, and can be mounted like a layer. -/
def configLayer (i : RemoteImage) : Layer := i.layer i.manifest.config

def layerByDigest (i : RemoteImage) (d : Digest) : Outcome Layer :=
  if d = i.manifest.config.digest then .ok i.configLayer
  else
    match i.manifest.layers.find? (·.digest = d) with
    | some l => .ok (i.layer l)
    | none =>
      .error (.manifest
        ("layer " ++ d.text ++ " not found in manifest of " ++ i.repository.text))

def layerByDiffId (i : RemoteImage) (d : Digest) : Outcome Layer :=
  match i.config.diffIds.idxOf? d with
  | none => .error (.manifest ("diff id " ++ d.text ++ " not found in image config"))
  | some n =>
    match i.manifest.layers[n]? with
    | some l => .ok (i.layer l)
    | none =>
      .error (.manifest
        ("config lists " ++ toString i.config.diffIds.length ++ " diff ids but manifest has " ++
          toString i.manifest.layers.length ++ " layers"))

def toImage (i : RemoteImage) : Image where
  layers := .ok (i.manifest.layers.map i.layer)
  layerByDigest := i.layerByDigest
  layerByDiffId := i.layerByDiffId
  rawManifest := .ok i.rawManifest
  rawConfig := .ok i.rawConfig
  configName := .ok i.manifest.config.digest
  mediaType := .ok i.manifest.mediaType
  configLayer := .ok i.configLayer
  descriptor := .ok none

end RemoteImage

end LayerTransfer
