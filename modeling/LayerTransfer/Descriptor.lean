import LayerTransfer.Json.Printer
import LayerTransfer.Json.Reader
import LayerTransfer.MediaType
import LayerTransfer.TransferError

namespace LayerTransfer

structure Descriptor where
  mediaType : MediaType
  size : UInt64
  digest : Digest
deriving DecidableEq, Repr

namespace Descriptor

structure Members where
  mediaType : Option MediaType := none
  size : Option UInt64 := none
  digest : Option Digest := none

def readMediaType : Json.Reader MediaType := fun ts =>
  (Json.readText ts).map fun (s, r) => (⟨s⟩, r)

def readSize : Json.Reader UInt64 := fun ts =>
  (Json.readNatural UInt64.size "u64" ts).map fun (n, r) => (UInt64.ofNat n, r)

def mediaTypeField : Json.Field Members where
  key := "mediaType"
  isSet := fun p => p.mediaType.isSome
  read := fun p ts => (readMediaType ts).map fun (m, r) => ({ p with mediaType := some m }, r)

def sizeField : Json.Field Members where
  key := "size"
  isSet := fun p => p.size.isSome
  read := fun p ts => (readSize ts).map fun (n, r) => ({ p with size := some n }, r)

def digestField : Json.Field Members where
  key := "digest"
  isSet := fun p => p.digest.isSome
  read := fun p ts => (Json.readDigest ts).map fun (d, r) => ({ p with digest := some d }, r)

def shape : Json.Shape Members Descriptor where
  title := "struct Descriptor"
  fields := [mediaTypeField, sizeField, digestField]
  start := {}
  finish := fun p => do
    let mediaType ← Json.required "mediaType" p.mediaType
    let size ← Json.required "size" p.size
    let digest ← Json.required "digest" p.digest
    return { mediaType, size, digest }

def read : Json.Reader Descriptor := Json.readRecord shape

def print (d : Descriptor) : Bytes :=
  Json.printObject
    [("mediaType", Json.printText d.mediaType.text),
     ("size", Json.printNatural d.size.toNat),
     ("digest", Json.printText d.digest.text)]

def printIndex (ds : List Descriptor) : Bytes :=
  Json.printList (ds.map print)

def jsonError (f : Json.Fault) : TransferError :=
  .manifest ("JSON error: " ++ f.message)

def parseIndex (raw : Bytes) : Outcome (List Descriptor) :=
  (Json.readDocument (Json.readList read) raw).mapError jsonError

def parse (raw : Bytes) : Outcome Descriptor :=
  (Json.readDocument read raw).mapError jsonError

end Descriptor

end LayerTransfer
