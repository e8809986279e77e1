import LayerTransfer.Image.Manifest
import LayerTransfer.Layer

namespace LayerTransfer

open Name

structure Image where
  layers : Outcome (List Layer)
  layerByDigest : Digest → Outcome Layer
  layerByDiffId : Digest → Outcome Layer
  rawManifest : Outcome Bytes
  rawConfig : Outcome Bytes
  configName : Outcome Digest
  mediaType : Outcome MediaType
  configLayer : Outcome Layer
  descriptor : Outcome (Option Descriptor)

namespace Image

def declaredType (rawManifest : Outcome Bytes) : Outcome MediaType := do
  let raw ← rawManifest
  let m ← Manifest.parse raw
  return m.mediaType

def heldConfig (rawManifest rawConfig : Outcome Bytes) (name : Outcome Digest) : Outcome Layer := do
  let config ← rawConfig
  let d ← name
  let raw ← rawManifest
  let m ← Manifest.parse raw
  return { blob := .held config d m.config.mediaType }

/-- The image with an origin for each of its layers that has none. -/
def mountable (i : Image) (origin : Reference) : Image :=
  { i with
    layers := i.layers.map fun ls => ls.map (·.wrap origin)
    layerByDigest := fun d => (i.layerByDigest d).map (·.wrap origin)
    layerByDiffId := fun d => (i.layerByDiffId d).map (·.wrap origin)
    configLayer := i.configLayer.map (·.wrap origin) }

end Image

structure HeldImage where
  layers : List Layer
  diffIds : List Digest
  rawManifest : Bytes
  rawConfig : Option Bytes
  configName : Digest
  descriptor : Option Descriptor

namespace HeldImage

def layerByDigest (i : HeldImage) (d : Digest) : Outcome Layer :=
  match i.layers.find? (·.digest = d) with
  | some l => .ok l
  | none => .error (.manifest ("layer " ++ d.text ++ " not found"))

def layerByDiffId (i : HeldImage) (d : Digest) : Outcome Layer :=
  match (i.diffIds.idxOf? d).bind (i.layers[·]?) with
  | some l => .ok l
  | none => .error (.manifest ("diff id " ++ d.text ++ " not found"))

def config (i : HeldImage) : Outcome Bytes :=
  match i.rawConfig with
  | some c => .ok c
  | none => .error (.manifest "no config")

def toImage (i : HeldImage) : Image where
  layers := .ok i.layers
  layerByDigest := i.layerByDigest
  layerByDiffId := i.layerByDiffId
  rawManifest := .ok i.rawManifest
  rawConfig := i.config
  configName := .ok i.configName
  mediaType := Image.declaredType (.ok i.rawManifest)
  configLayer := Image.heldConfig (.ok i.rawManifest) i.config (.ok i.configName)
  descriptor := .ok i.descriptor

end HeldImage

end LayerTransfer
