import LayerTransfer.Digest
import LayerTransfer.Name.Repository

namespace LayerTransfer.Name

def defaultTag : String := "latest"

def isTagStart (c : Char) : Bool := c.isAlphanum || c == '_'

def isTagChar (c : Char) : Bool := c.isAlphanum || c == '_' || c == '.' || c == '-'

def isTag (cs : List Char) : Bool :=
  cs.head?.any isTagStart && cs.length ≤ 128 && cs.tail.all isTagChar

/-- A repository and a tag, written `repository:tag`. -/
structure Tagged where
  repository : Repository
  tag : String
  tag_valid : isTag tag.toList = true
deriving DecidableEq, Repr

/-- A repository and a digest, written `repository@algorithm:hex`; also points at a single blob. -/
structure Pinned where
  repository : Repository
  digest : Digest
deriving DecidableEq, Repr

/-- The name and the tag. The tag starts after the last colon behind the last slash, so the port of
a host is never taken for a tag. -/
def splitTag (cs : List Char) : List Char × Option (List Char) :=
  match Text.Cut.atLast ':' cs with
  | some (name, tag) => if '/' ∈ tag then (cs, none) else (name, some tag)
  | none => (cs, none)

namespace Tagged

/-- What is wrong with the repository is told of the whole reference. -/
def parse (s : String) (o : Options) : Except Rejection Tagged :=
  let input := Text.Blank.trim s.toList
  let parts := splitTag input
  let tag := parts.2.getD defaultTag.toList
  if h : isTag tag = true then
    let name := Repository.parse (String.ofList parts.1) o
    (name.mapError (Rejection.rename input)).map fun repository =>
      ⟨repository, String.ofList tag, by rw [String.toList_ofList]; exact h⟩
  else .error ⟨String.ofList input, .tag⟩

def text (t : Tagged) : String :=
  t.repository.text ++ ":" ++ t.tag

end Tagged

namespace Pinned

/-- A tag beside the digest is allowed and ignored. What is wrong with the digest or the repository
is told of the whole reference. -/
def parse (s : String) (o : Options) : Except Rejection Pinned :=
  let input := Text.Blank.trim s.toList
  match Text.Cut.atLast '@' input with
  | none => .error ⟨String.ofList input, .missingDigest⟩
  | some (front, digest) =>
    match Digest.parse (String.ofList digest) with
    | .error _ => .error ⟨String.ofList input, .digest⟩
    | .ok d =>
      let name := Repository.parse (String.ofList (splitTag front).1) o
      (name.mapError (Rejection.rename input)).map fun repository => ⟨repository, d⟩

def text (p : Pinned) : String :=
  p.repository.text ++ "@" ++ p.digest.text

end Pinned

inductive Reference
  | tagged (t : Tagged)
  | pinned (p : Pinned)
deriving DecidableEq, Repr

namespace Reference

def parse (s : String) (o : Options) : Except Rejection Reference :=
  if '@' ∈ s.toList then (Pinned.parse s o).map .pinned else (Tagged.parse s o).map .tagged

def repository : Reference → Repository
  | tagged t => t.repository
  | pinned p => p.repository

def identifier : Reference → String
  | tagged t => t.tag
  | pinned p => p.digest.text

def text : Reference → String
  | tagged t => t.text
  | pinned p => p.text

end Reference

end LayerTransfer.Name
