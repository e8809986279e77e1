import LayerTransfer.Descriptor
import LayerTransfer.Transport.Call

namespace LayerTransfer

open Name Transport

/-- A blob at hand, or one that a registry is asked for whenever it is needed. -/
inductive Blob
  | held (content : Bytes) (digest : Digest) (mediaType : MediaType)
  | remote (repository : Repository) (digest : Digest) (descriptor : Option Descriptor)
deriving DecidableEq, Repr

namespace Blob

/-- The digest that a blob was given; content is never hashed. -/
def digest : Blob → Digest
  | held _ d _ => d
  | remote _ d _ => d

def mediaType : Blob → MediaType
  | held _ _ m => m
  | remote .. => .dockerLayer

def size : Blob → Reading UInt64
  | held b _ _ => pure (UInt64.ofNat b.length)
  | remote r d _ => Transport.size r d

/-- The content, which is fetched anew each time. -/
def content : Blob → Reading Stream
  | held b _ _ => pure (.ofBytes b)
  | remote r d _ => fetch r (.layer d)

def isPresent : Blob → Reading Bool
  | held .. => pure true
  | remote r d _ => present r d

def listed? : Blob → Option Descriptor
  | held .. => none
  | remote _ _ d => d

/-- The listed descriptor or, without one, what the blob says of itself. -/
def descriptor (b : Blob) : Reading Descriptor :=
  match b.listed? with
  | some d => pure d
  | none => do
    let size ← b.size
    return ⟨b.mediaType, size, b.digest⟩

def ofDescriptor (r : Repository) (d : Descriptor) : Blob :=
  remote r d.digest (some d)

end Blob

/-- A blob with its origin, if it has one. Layers with the same handle are the same object. -/
structure Layer where
  blob : Blob
  origin : Option Reference := none
  handle : Option Nat := none
deriving DecidableEq, Repr

namespace Layer

/-- The layer with an origin. One that it already has stays: it is where a mount can succeed. -/
def wrap (l : Layer) (origin : Reference) : Layer :=
  { l with origin := some (l.origin.getD origin) }

def bare (l : Layer) : Layer :=
  { l with origin := none }

def same (a b : Layer) : Bool :=
  a.handle.isSome && a.handle == b.handle && a.origin == b.origin

def digest (l : Layer) : Digest := l.blob.digest

def mediaType (l : Layer) : MediaType := l.blob.mediaType

def size (l : Layer) : Reading UInt64 := l.blob.size

def content (l : Layer) : Reading Blob.Stream := l.blob.content

def isPresent (l : Layer) : Reading Bool := l.blob.isPresent

def descriptor (l : Layer) : Reading Descriptor := l.blob.descriptor

def describe (l : Layer) : String :=
  match l.origin with
  | none => "Layer::Plain"
  | some r =>
    "Layer::Mountable(MountableLayer \x7b reference: " ++ Text.Quoted.quote r.text ++ ", .. \x7d)"

def plain (p : Pinned) : Reading Layer := do
  connect p.repository
  return { blob := .remote p.repository p.digest none }

def ofPinned (p : Pinned) : Reading Layer := do
  let l ← plain p
  return l.wrap (.pinned p)

end Layer

end LayerTransfer
