import LayerTransfer.Bytes
import LayerTransfer.Text.Cut

namespace LayerTransfer.Archive

def nameWidth : Nat := 100

inductive NameFault
  | absolute
  | parent
  | nothing
  | nul
  | tooLong
deriving DecidableEq, Repr

def NameFault.message : NameFault → String
  | absolute => "paths in archives must be relative"
  | parent => "paths in archives must not have " ++ "`..`"
  | nothing => "paths in archives must have at least one component"
  | nul => "provided value contains a nul byte"
  | tooLong => "provided value is too long"

inductive Component
  | root
  | current
  | parent
  | normal (octets : Bytes)
deriving DecidableEq, Repr

namespace Component

def octets : Component → Bytes
  | root => [0x2f]
  | current => [0x2e]
  | parent => [0x2e, 0x2e]
  | normal b => b

/-- The component that a part between slashes stands for; a lone dot counts at the start only. -/
def ofPart (b : Bytes) : Option Component :=
  if b = [] ∨ b = [0x2e] then none
  else if b = [0x2e, 0x2e] then some parent
  else some (normal b)

def ofPath (name : Bytes) : List Component :=
  match Text.Cut.pieces 0x2f name with
  | [] => []
  | first :: parts =>
    let rest := parts.filterMap ofPart
    if name.head? = some 0x2f then root :: rest
    else if first = [0x2e] then current :: rest
    else ((ofPart first).toList ++ rest)

end Component

structure NameField where
  octets : Bytes := Bytes.zeros nameWidth
  used : Nat := 0
  length_eq : octets.length = nameWidth := by simp
  used_le : used ≤ nameWidth := by decide

namespace NameField

theorem length_insert {b piece : Bytes} {used : Nat} (hb : b.length = nameWidth)
    (h : used + piece.length ≤ nameWidth) :
    (b.take used ++ (piece ++ [0] ++ b.drop (used + piece.length + 1)).take
      (nameWidth - used)).length = nameWidth := by
  simp only [List.length_append, List.length_take, List.length_drop, List.length_cons,
    List.length_nil, hb]
  omega

def place (f : NameField) (piece : Bytes) : Except NameFault NameField :=
  if h : f.used + piece.length ≤ nameWidth then
    if (0 : UInt8) ∈ piece then .error .nul
    else
      .ok
        { octets := f.octets.take f.used ++
            (piece ++ [0] ++ f.octets.drop (f.used + piece.length + 1)).take (nameWidth - f.used)
          used := f.used + piece.length
          length_eq := length_insert f.length_eq h
          used_le := h }
  else .error .tooLong

def restart (f : NameField) : NameField := { f with used := 0, used_le := Nat.zero_le _ }

/-- Where a name is being written: whether a slash is due, whether anything has been written, and
whether the name is the cut front of a longer one. -/
structure Progress where
  field : NameField
  slash : Bool := false
  cut : Bool

def piece? (p : Progress) (alone last : Bool) (c : Component) : Except NameFault (Option Bytes) :=
  match c with
  | .root => .error .absolute
  | .parent => if p.cut && last then .ok (some c.octets) else .error .parent
  | .current => .ok (if alone then some c.octets else none)
  | .normal b => .ok (some b)

def write (alone : Bool) : List Component → Progress → Progress × Option NameFault
  | [], p => (p, none)
  | c :: r, p =>
    match piece? p alone r.isEmpty c with
    | .error e => (p, some e)
    | .ok none => write alone r p
    | .ok (some b) =>
      match (if p.slash then p.field.place [0x2f] else .ok p.field) with
      | .error e => (p, some e)
      | .ok f =>
        match f.place b with
        | .error e => ({ p with field := f }, some e)
        | .ok f => write alone r { p with field := f, slash := true }

/-- Writes a path. One slash at its end is kept. -/
def setPath (f : NameField) (cut : Bool) (path : Bytes) : NameField × Option NameFault :=
  let components := Component.ofPath path
  let (p, fault) := write (components.length = 1) components { field := f.restart, cut }
  match fault with
  | some e => (p.field, some e)
  | none =>
    if !p.slash then (p.field, some .nothing)
    else if path.getLast? = some 0x2f then
      match p.field.place [0x2f] with
      | .ok f => (f, none)
      | .error e => (p.field, some e)
    else (p.field, none)

def shown (f : NameField) : String :=
  (Bytes.text? (f.octets.takeWhile (· ≠ 0))).getD ""

end NameField

def boundary (name : Bytes) : Nat → Nat
  | 0 => 0
  | k + 1 =>
    match name[k + 1]? with
    | none => k + 1
    | some b => if 0x80 ≤ b ∧ b < 0xc0 then boundary name k else k + 1

def front (name : Bytes) : Bytes :=
  name.take (boundary name nameWidth)

structure HeaderName where
  field : NameField
  isFront : Bool

/-- The header's form of a name. A name that does not fit is cut, unless it is short and so was
refused for another reason. -/
def headerName (name : Bytes) : Except String HeaderName :=
  let refuse (f : NameField) (e : NameFault) : String :=
    e.message ++ " when setting path for " ++ f.shown
  match NameField.setPath {} false name with
  | (f, none) => .ok ⟨f, false⟩
  | (f, some e) =>
    if name.length < nameWidth then .error (refuse f e)
    else
      match f.setPath true (front name) with
      | (g, none) => .ok ⟨g, true⟩
      | (g, some e) => .error (refuse g e)

end LayerTransfer.Archive
