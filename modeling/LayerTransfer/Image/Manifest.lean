import LayerTransfer.Descriptor

namespace LayerTransfer

structure Manifest where
  declared : Option MediaType
  config : Descriptor
  layers : List Descriptor
deriving DecidableEq, Repr

namespace Manifest

def schemaVersion : Nat := 2

structure Members where
  schemaVersion : Option Nat := none
  mediaType : Option (Option MediaType) := none
  config : Option Descriptor := none
  layers : Option (List Descriptor) := none

def shape : Json.Shape Members (Nat × Manifest) where
  title := "struct Manifest"
  fields :=
    [{ key := "schemaVersion"
       isSet := fun p => p.schemaVersion.isSome
       read := fun p ts =>
        (Json.readNatural UInt32.size "u32" ts).map fun (n, r) =>
          ({ p with schemaVersion := some n }, r) },
     { key := "mediaType"
       isSet := fun p => p.mediaType.isSome
       hasDefault := true
       read := fun p ts =>
        (Json.readOption Descriptor.readMediaType ts).map fun (m, r) =>
          ({ p with mediaType := some m }, r) },
     { key := "config"
       isSet := fun p => p.config.isSome
       read := fun p ts =>
        (Descriptor.read ts).map fun (d, r) => ({ p with config := some d }, r) },
     { key := "layers"
       isSet := fun p => p.layers.isSome
       hasDefault := true
       read := fun p ts =>
        (Json.readList Descriptor.read ts).map fun (ds, r) => ({ p with layers := some ds }, r) }]
  start := {}
  finish := fun p => do
    let version ← Json.required "schemaVersion" p.schemaVersion
    let config ← Json.required "config" p.config
    return (version, ⟨p.mediaType.getD none, config, p.layers.getD []⟩)

def parse (raw : Bytes) : Outcome Manifest :=
  match Json.readDocument (Json.readRecord shape) raw with
  | .error f => .error (.manifest ("parsing image manifest: " ++ f.message))
  | .ok (version, m) =>
    if version = schemaVersion then .ok m
    else .error (.manifest ("unsupported manifest schemaVersion " ++ toString version))

/-- The declared media type; Docker's where none is declared. -/
def mediaType (m : Manifest) : MediaType :=
  m.declared.getD .dockerManifest

end Manifest

structure ImageConfig where
  diffIds : List Digest
deriving DecidableEq, Repr

namespace ImageConfig

def rootfsShape : Json.Shape (Option (List Digest)) (List Digest) where
  title := "struct RootFs"
  fields :=
    [{ key := "diff_ids"
       isSet := Option.isSome
       hasDefault := true
       read := fun _ ts => (Json.readList Json.readDigest ts).map fun (ds, r) => (some ds, r) }]
  start := none
  finish := fun p => .ok (p.getD [])

def shape : Json.Shape (Option (List Digest)) ImageConfig where
  title := "struct ConfigFile"
  fields :=
    [{ key := "rootfs"
       isSet := Option.isSome
       hasDefault := true
       read := fun _ ts => (Json.readRecord rootfsShape ts).map fun (ds, r) => (some ds, r) }]
  start := none
  finish := fun p => .ok ⟨p.getD []⟩

def parse (raw : Bytes) : Outcome ImageConfig :=
  (Json.readDocument (Json.readRecord shape) raw).mapError fun f =>
    .manifest ("parsing image config: " ++ f.message)

end ImageConfig

end LayerTransfer
