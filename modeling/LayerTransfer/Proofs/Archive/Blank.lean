import LayerTransfer.Archive.Basic

namespace LayerTransfer

/-- Zeros in place of all octets. -/
def Bytes.blank (b : Bytes) : Bytes := b.map fun _ => 0

namespace Bytes

@[simp] theorem length_blank (b : Bytes) : b.blank.length = b.length := List.length_map _

@[simp] theorem blank_append (b b' : Bytes) : blank (b ++ b') = b.blank ++ b'.blank :=
  List.map_append

@[simp] theorem blank_take (b : Bytes) (n : Nat) : blank (b.take n) = b.blank.take n :=
  List.map_take

@[simp] theorem blank_blank (b : Bytes) : b.blank.blank = b.blank := by
  simp [blank]

theorem blank_eq_iff {b b' : Bytes} : b.blank = b'.blank ↔ b.length = b'.length := by
  constructor
  · intro h
    rw [← length_blank b, h, length_blank]
  · intro h
    simp [blank, List.map_const', h]

end Bytes

namespace Blob

def Chunk.blank : Chunk → Chunk
  | data b => .data b.blank
  | failure text => .failure text
  | interrupted text => .interrupted text

def Stream.blank (s : Stream) : Stream :=
  { s with chunks := s.chunks.map Chunk.blank }

end Blob

namespace Archive

def blank (a : Archive) : Archive :=
  { a with written := a.written.blank }

theorem copy_blank (declared done : Nat) (cs : List Blob.Chunk) :
    copy declared done (cs.map Blob.Chunk.blank) =
      ((copy declared done cs).1.blank, (copy declared done cs).2) := by
  induction cs generalizing done with
  | nil => rfl
  | cons c r ih =>
    cases c with
    | failure text => rfl
    | interrupted text => exact ih done
    | data b =>
      simp only [List.map_cons, Blob.Chunk.blank, copy, Bytes.length_blank]
      split
      · rw [ih, Bytes.blank_append]
      · rw [Bytes.blank_take]

theorem entry_blank (order : RecordOrder) (name : String) (size : UInt64) (cs : List Blob.Chunk) :
    (entry order name size (cs.map Blob.Chunk.blank)).1.blank =
        (entry order name size cs).1.blank ∧
      (entry order name size (cs.map Blob.Chunk.blank)).2 = (entry order name size cs).2 := by
  unfold entry
  cases headerName (Bytes.ofText name) with
  | error text => exact ⟨rfl, rfl⟩
  | ok h =>
    simp only [copy_blank]
    cases hc : copy size.toNat 0 cs with
    | mk body fault =>
      cases fault with
      | none => exact ⟨by simp, rfl⟩
      | some f => exact ⟨by simp, rfl⟩

/-- The outcome of an addition, and the length of what is written, do not depend on octets. -/
theorem append_congr {a a' : Archive} (name : String) (size : UInt64) {cs cs' : List Blob.Chunk}
    (ha : a.blank = a'.blank) (hc : cs.map Blob.Chunk.blank = cs'.map Blob.Chunk.blank) :
    (a.append name size cs).1.blank = (a'.append name size cs').1.blank ∧
      (a.append name size cs).2 = (a'.append name size cs').2 := by
  have hpath : a.path = a'.path := congrArg (fun b => b.path) ha
  have horder : a.order = a'.order := congrArg (fun b => b.order) ha
  have hwritten : a.written.blank = a'.written.blank := congrArg written ha
  have hoctets : (entry a'.order name size cs).1.blank = (entry a'.order name size cs').1.blank := by
    rw [← (entry_blank a'.order name size cs).1, hc, (entry_blank a'.order name size cs').1]
  have hfault : (entry a'.order name size cs).2 = (entry a'.order name size cs').2 := by
    rw [← (entry_blank a'.order name size cs).2, hc, (entry_blank a'.order name size cs').2]
  constructor
  · simp only [append, blank, hpath, horder, Bytes.blank_append, hwritten, hoctets]
  · simp only [append, hpath, horder, hfault]

theorem ended_congr {a a' : Archive} (ha : a.blank = a'.blank) (e : Ending) :
    (a.ended e).blank = (a'.ended e).blank := by
  have hwritten : a.written.blank = a'.written.blank := congrArg written ha
  rw [ended_eq_closed, ended_eq_closed, closed, closed, Bytes.blank_append, hwritten,
    Bytes.blank_append]

end Archive

end LayerTransfer
