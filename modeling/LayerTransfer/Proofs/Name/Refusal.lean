import LayerTransfer.TransferError

namespace LayerTransfer.Name

open Text.Blank (trim)

namespace Rejection

variable {α β : Type} {input : List Char} {x : Except Fault α}

@[simp]
theorem attach_eq_ok {a : α} : attach input x = .ok a ↔ x = .ok a := by
  constructor
  · exact Outcome.ok_of_mapError
  · rintro rfl
    rfl

theorem rename_attach (whole : List Char) :
    (attach input x).mapError (rename whole) = attach whole x := by
  cases x with
  | error fault => rfl
  | ok a => rfl

theorem map_attach (f : α → β) : (attach input x).map f = attach input (x.map f) := by
  cases x with
  | error fault => rfl
  | ok a => rfl

end Rejection

namespace Repository

def read (cs : List Char) (o : Options) : Except Fault Repository :=
  let cs := trim cs
  if cs = [] then .error .empty
  else
    let parts := split cs o
    match Registry.read parts.1 o with
    | .error _ => .error .registry
    | .ok r => if h : isPath parts.2 = true then .ok (within r parts.2 h) else .error .repository

theorem parse_eq (s : String) (o : Options) :
    parse s o = Rejection.attach (trim s.toList) (read s.toList o) := by
  unfold parse read
  dsimp only
  split
  · rfl
  · rw [Registry.parse, String.toList_ofList]
    cases Registry.read (split (trim s.toList) o).1 o with
    | error fault => rfl
    | ok r =>
      dsimp only [Rejection.attach, Except.mapError]
      split
      · rfl
      · rfl

theorem parse_eq_ok {s : String} {o : Options} {r : Repository} :
    parse s o = .ok r ↔ read s.toList o = .ok r := by
  rw [parse_eq, Rejection.attach_eq_ok]

theorem parse_renamed (whole cs : List Char) (o : Options) :
    (parse (String.ofList cs) o).mapError (Rejection.rename whole) =
      Rejection.attach whole (read cs o) := by
  rw [parse_eq, Rejection.rename_attach, String.toList_ofList]

end Repository

namespace Tagged

def read (cs : List Char) (o : Options) : Except Fault Tagged :=
  let parts := splitTag (trim cs)
  let tag := parts.2.getD defaultTag.toList
  if h : isTag tag = true then
    (Repository.read parts.1 o).map fun repository =>
      ⟨repository, String.ofList tag, by rw [String.toList_ofList]; exact h⟩
  else .error .tag

theorem parse_eq (s : String) (o : Options) :
    parse s o = Rejection.attach (trim s.toList) (read s.toList o) := by
  unfold parse read
  dsimp only
  split
  · rw [Repository.parse_renamed, Rejection.map_attach]
  · rfl

theorem parse_eq_ok {s : String} {o : Options} {t : Tagged} :
    parse s o = .ok t ↔ read s.toList o = .ok t := by
  rw [parse_eq, Rejection.attach_eq_ok]

end Tagged

namespace Pinned

def read (cs : List Char) (o : Options) : Except Fault Pinned :=
  match Text.Cut.atLast '@' (trim cs) with
  | none => .error .missingDigest
  | some (name, digest) =>
    match Digest.parse (String.ofList digest) with
    | .error _ => .error .digest
    | .ok d => (Repository.read (splitTag name).1 o).map fun repository => ⟨repository, d⟩

theorem parse_eq (s : String) (o : Options) :
    parse s o = Rejection.attach (trim s.toList) (read s.toList o) := by
  unfold parse read
  dsimp only
  cases Text.Cut.atLast '@' (trim s.toList) with
  | none => rfl
  | some parts =>
    dsimp only
    cases Digest.parse (String.ofList parts.2) with
    | error fault => rfl
    | ok d =>
      dsimp only
      rw [Repository.parse_renamed, Rejection.map_attach]

theorem parse_eq_ok {s : String} {o : Options} {p : Pinned} :
    parse s o = .ok p ↔ read s.toList o = .ok p := by
  rw [parse_eq, Rejection.attach_eq_ok]

end Pinned

namespace Reference

def read (cs : List Char) (o : Options) : Except Fault Reference :=
  if '@' ∈ cs then (Pinned.read cs o).map .pinned else (Tagged.read cs o).map .tagged

theorem parse_eq (s : String) (o : Options) :
    parse s o = Rejection.attach (trim s.toList) (read s.toList o) := by
  unfold parse read
  split
  · rw [Pinned.parse_eq, Rejection.map_attach]
  · rw [Tagged.parse_eq, Rejection.map_attach]

theorem parse_eq_ok {s : String} {o : Options} {r : Reference} :
    parse s o = .ok r ↔ read s.toList o = .ok r := by
  rw [parse_eq, Rejection.attach_eq_ok]

end Reference

/-- What is refused is refused as a name, and the refusal tells the whole text without the blanks
around it. -/
def RefusesWhole {α : Type} (parse : String → Options → Except Rejection α) : Prop :=
  ∀ s o e, readName (parse s o) = .error e →
    ∃ fault, e = .reference ⟨Text.Blank.trimText s, fault⟩

theorem refusesWhole_of_attach {α : Type} {parse : String → Options → Except Rejection α}
    {read : List Char → Options → Except Fault α}
    (h : ∀ s o, parse s o = Rejection.attach (trim s.toList) (read s.toList o)) :
    RefusesWhole parse := by
  intro s o e he
  rw [h] at he
  cases hr : read s.toList o with
  | error fault =>
    rw [hr] at he
    cases he
    exact ⟨fault, rfl⟩
  | ok a =>
    rw [hr] at he
    cases he

end LayerTransfer.Name
