import LayerTransfer.Name.Registry

namespace LayerTransfer.Name

def isPathChar (c : Char) : Bool :=
  c.isLower || c.isDigit || c == '.' || c == '_' || c == '-'

def hasDoubleDot : List Char → Bool
  | a :: b :: r => (a == '.' && b == '.') || hasDoubleDot (b :: r)
  | _ => false

def isComponent (cs : List Char) : Bool :=
  cs.head?.any Char.isAlphanum && cs.getLast?.any Char.isAlphanum && cs.all isPathChar &&
    !hasDoubleDot cs

def isPath (cs : List Char) : Bool :=
  (Text.Cut.pieces '/' cs).all isComponent

/-- Whether a first component is a registry host rather than part of the path. -/
def looksLikeHost (cs : List Char) : Bool :=
  cs.contains '.' || cs.contains ':' || cs == "localhost".toList

/-- A path within a registry, with at least two components on Docker Hub. -/
structure Repository where
  registry : Registry
  name : String
  name_valid : isPath name.toList = true
  name_qualified : registry.isDockerHub = true → '/' ∈ name.toList
deriving DecidableEq, Repr

theorem isPath_library (cs : List Char) (h : isPath cs = true) :
    isPath ("library/".toList ++ cs) = true := by
  have hs : "library/".toList ++ cs = "library".toList ++ '/' :: cs := rfl
  rw [isPath, hs, Text.Cut.pieces_append _ (by decide), List.all_cons, Bool.and_eq_true]
  exact ⟨by decide, h⟩

namespace Repository

def split (cs : List Char) (o : Options) : List Char × List Char :=
  match Text.Cut.atFirst '/' cs with
  | some (first, rest) =>
    if looksLikeHost first then (first, rest) else (o.defaultRegistry.toList, cs)
  | none => (o.defaultRegistry.toList, cs)

def within (r : Registry) (path : List Char) (h : isPath path = true) : Repository :=
  if hq : r.isDockerHub = true ∧ '/' ∉ path then
    { registry := r
      name := String.ofList ("library/".toList ++ path)
      name_valid := by rw [String.toList_ofList]; exact isPath_library path h
      name_qualified := by intro; rw [String.toList_ofList]; simp }
  else
    { registry := r
      name := String.ofList path
      name_valid := by rw [String.toList_ofList]; exact h
      name_qualified := by
        intro hr
        rw [String.toList_ofList]
        exact Classical.byContradiction fun hn => hq ⟨hr, hn⟩ }

/-- What is wrong with the host is told of the whole name. -/
def parse (s : String) (o : Options) : Except Rejection Repository :=
  let input := Text.Blank.trim s.toList
  if input = [] then .error ⟨String.ofList input, .empty⟩
  else
    let parts := split input o
    match Registry.parse (String.ofList parts.1) o with
    | .error _ => .error ⟨String.ofList input, .registry⟩
    | .ok r =>
      if h : isPath parts.2 = true then .ok (within r parts.2 h)
      else .error ⟨String.ofList input, .repository⟩

def text (r : Repository) : String :=
  r.registry.text ++ "/" ++ r.name

end Repository

end LayerTransfer.Name
