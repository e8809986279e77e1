import LayerTransfer.Proofs.Archive.RoundTrip
import Mathlib.Data.List.InsertIdx

namespace LayerTransfer.Archive

open Text.Cut (pieces)

theorem longName_ne_nil (name : Bytes) : longName name ≠ [] := by
  intro h
  have hl := congrArg List.length h
  have hb : 0 < blockSize := by decide
  simp only [longName, List.length_append, length_header, List.length_nil] at hl
  omega

theorem leftover_eq_nil_iff {order : RecordOrder} {name : Bytes} :
    order.leftover name = [] ↔ order = .checkFirst ∨ name.length < nameWidth := by
  cases order with
  | checkFirst => simp [RecordOrder.leftover]
  | recordFirst => simp [RecordOrder.leftover, longName_ne_nil]

theorem blockSize_le_headers (name : Bytes) (size : UInt64) (k : HeaderName) :
    blockSize ≤ (headers name size k).length := by
  rw [headers, List.length_append, length_header]
  omega

theorem entry_ne_nil {name : String} {k : HeaderName} (h : headerName (Bytes.ofText name) = .ok k)
    (order : RecordOrder) (size : UInt64) (cs : List Blob.Chunk) :
    (entry order name size cs).1 ≠ [] := by
  have hk := blockSize_le_headers (Bytes.ofText name) size k
  have hb : 0 < blockSize := by decide
  rw [← List.length_pos_iff, entry, h]
  dsimp only
  split
  · simp only [List.length_append]
    omega
  · simp only [List.length_append]
    omega

def Addition.entry (order : RecordOrder) : Addition → Bytes × Option String
  | held name content => Archive.entry order name (UInt64.ofNat content.length) [.data content]
  | streamed name size content => Archive.entry order name size content

def Addition.outcome (a : Archive) (x : Addition) : Outcome Unit :=
  match (x.entry a.order).2 with
  | none => .ok ()
  | some text => .error (.archive a.path (some x.name) text)

theorem add_eq (a : Archive) (x : Addition) :
    a.add x = (a.extended (x.entry a.order).1, x.outcome a) := by
  cases x <;> rfl

theorem entry_of_refused {x : Addition} {text : String}
    (h : headerName (Bytes.ofText x.name) = .error text) (order : RecordOrder) :
    x.entry order = (order.leftover (Bytes.ofText x.name), some text) := by
  cases x with
  | held name content => simp only [Addition.entry, entry, Addition.name] at h ⊢; rw [h]
  | streamed name size cs => simp only [Addition.entry, entry, Addition.name] at h ⊢; rw [h]

theorem add_of_refused {x : Addition} {text : String}
    (h : headerName (Bytes.ofText x.name) = .error text) (a : Archive) :
    a.add x = (a.extended (a.order.leftover (Bytes.ofText x.name)),
      .error (.archive a.path (some x.name) text)) := by
  rw [add_eq, Addition.outcome, entry_of_refused h]

theorem extended_eq_self_iff {a : Archive} {b : Bytes} : a.extended b = a ↔ b = [] := by
  constructor
  · intro h
    exact List.append_right_eq_self.1 (congrArg written h)
  · rintro rfl
    exact a.extended_nil

theorem add_eq_self_iff (a : Archive) (x : Addition) :
    (a.add x).1 = a ↔ IsRefused (Bytes.ofText x.name) ∧
      (a.order = .checkFirst ∨ (Bytes.ofText x.name).length < nameWidth) := by
  rw [← headerName_refuses_iff, add_eq, extended_eq_self_iff]
  cases h : headerName (Bytes.ofText x.name) with
  | error text => simp [entry_of_refused h, leftover_eq_nil_iff]
  | ok k =>
    have hne : (x.entry a.order).1 ≠ [] := by
      cases x with
      | held name content => exact entry_ne_nil h a.order _ _
      | streamed name size cs => exact entry_ne_nil h a.order size cs
    simp [hne]

/-- What is added does not depend on what has been written. -/
theorem addAll_agree {a c : Archive} (hp : c.path = a.path) (ho : c.order = a.order)
    (xs : List Addition) :
    (c.addAll xs).2 = (a.addAll xs).2 ∧
      ∃ rest, (a.addAll xs).1.written = a.written ++ rest ∧
        (c.addAll xs).1.written = c.written ++ rest := by
  induction xs generalizing a c with
  | nil => exact ⟨rfl, [], (List.append_nil _).symm, (List.append_nil _).symm⟩
  | cons x r ih =>
    have hax := add_eq a x
    have hcx : c.add x = (c.extended (x.entry a.order).1, x.outcome a) := by
      rw [add_eq, Addition.outcome, Addition.outcome, ho, hp]
    obtain ⟨hos, rest, ha, hc⟩ :=
      @ih (a.extended (x.entry a.order).1) (c.extended (x.entry a.order).1) hp ho
    refine ⟨?_, (x.entry a.order).1 ++ rest, ?_, ?_⟩
    · simp only [addAll, hax, hcx, hos]
    · simp only [addAll, hax, ha]
      exact List.append_assoc ..
    · simp only [addAll, hcx, hc]
      exact List.append_assoc ..

/-- The outcome of a refused addition stands between those of the additions around it, which are the
same as without it. So does what is left of it. -/
theorem addAll_of_refused {x : Addition} {text : String}
    (h : headerName (Bytes.ofText x.name) = .error text) (a : Archive)
    (earlier later : List Addition) :
    (a.addAll (earlier ++ x :: later)).2 = (a.addAll (earlier ++ later)).2.insertIdx earlier.length
        (.error (.archive a.path (some x.name) text)) ∧
      ∃ rest, (a.addAll (earlier ++ later)).1.written = (a.addAll earlier).1.written ++ rest ∧
        (a.addAll (earlier ++ x :: later)).1.written =
          (a.addAll earlier).1.written ++ a.order.leftover (Bytes.ofText x.name) ++ rest := by
  induction earlier generalizing a with
  | nil =>
    have hx := add_of_refused h a
    obtain ⟨ho, rest, hrest, hadded⟩ :=
      addAll_agree (a := a) (c := a.extended (a.order.leftover (Bytes.ofText x.name))) rfl rfl later
    refine ⟨?_, rest, hrest, ?_⟩
    · simp [addAll, hx, ho]
    · simp only [List.nil_append, addAll, hx, hadded]
      rfl
  | cons y r ih =>
    obtain ⟨ho, rest, hrest, hadded⟩ := ih (a.add y).1
    have hp : (a.add y).1.path = a.path := by rw [add_eq]; rfl
    have horder : (a.add y).1.order = a.order := by rw [add_eq]; rfl
    rw [hp] at ho
    rw [horder] at hadded
    exact ⟨by simp [addAll, ho], rest, hrest, hadded⟩

/-- An addition leaves the archive as it is exactly if its name is refused, and is short or looked
at before anything is written. A refused addition fails and names the entry, and what it leaves is
the record of its long name at most. All additions before and after it end as they would without it,
and so does the file, but for what is left in its place. -/
theorem refused_name_leaves_archive (a : Archive) (x : Addition) :
    ((a.add x).1 = a ↔ IsRefused (Bytes.ofText x.name) ∧
      (a.order = .checkFirst ∨ (Bytes.ofText x.name).length < nameWidth)) ∧
      (IsRefused (Bytes.ofText x.name) → ∃ text,
        a.add x = (a.extended (a.order.leftover (Bytes.ofText x.name)),
          .error (.archive a.path (some x.name) text)) ∧
        ∀ earlier later : List Addition,
          (a.addAll (earlier ++ x :: later)).2 =
            (a.addAll (earlier ++ later)).2.insertIdx earlier.length
              (.error (.archive a.path (some x.name) text)) ∧
          ∀ e, ∃ rest,
            (a.addAll (earlier ++ later)).1.ended e = (a.addAll earlier).1.written ++ rest ∧
            (a.addAll (earlier ++ x :: later)).1.ended e =
              (a.addAll earlier).1.written ++ a.order.leftover (Bytes.ofText x.name) ++ rest ∧
            ((a.add x).1 = a → (a.addAll (earlier ++ x :: later)).1.ended e =
              (a.addAll (earlier ++ later)).1.ended e)) := by
  refine ⟨add_eq_self_iff a x, fun hx => ?_⟩
  obtain ⟨text, h⟩ := (headerName_refuses_iff x.name).2 hx
  refine ⟨text, add_of_refused h a, fun earlier later => ?_⟩
  obtain ⟨ho, rest, hrest, hadded⟩ := addAll_of_refused h a earlier later
  refine ⟨ho, fun e => ⟨rest ++ endMarker, ?_, ?_, fun hself => ?_⟩⟩
  · rw [ended_eq_closed, closed, hrest, List.append_assoc]
  · rw [ended_eq_closed, closed, hadded, List.append_assoc]
  · have hnone : a.order.leftover (Bytes.ofText x.name) = [] :=
      leftover_eq_nil_iff.2 ((add_eq_self_iff a x).1 hself).2
    rw [ended_eq_closed, ended_eq_closed, closed, closed, hadded, hrest, hnone, List.append_nil]

def longRooted : Addition :=
  .streamed ("/" ++ String.ofList (List.replicate 120 'x')) 3 [.data [1, 2, 3]]

/-- A writer that records a long name before it looks at it leaves the two blocks of the record. -/
theorem longRooted_leaves_record :
    IsRefused (Bytes.ofText longRooted.name) ∧
      (({ path := "b.tar" } : Archive).add longRooted).1 = { path := "b.tar" } ∧
      ∃ text, (add { path := "b.tar", order := .recordFirst } longRooted) =
          (extended { path := "b.tar", order := .recordFirst }
            (longName (Bytes.ofText longRooted.name)),
            .error (.archive "b.tar" (some longRooted.name) text)) := by
  have h : IsRefused (Bytes.ofText longRooted.name) := by decide +kernel
  have hlong : RecordOrder.recordFirst.leftover (Bytes.ofText longRooted.name) =
      longName (Bytes.ofText longRooted.name) := by
    rw [RecordOrder.leftover, if_neg (by decide +kernel)]
  obtain ⟨text, hadd, -⟩ :=
    (refused_name_leaves_archive { path := "b.tar", order := .recordFirst } longRooted).2 h
  refine ⟨h, (refused_name_leaves_archive { path := "b.tar" } longRooted).1.2 ⟨h, .inl rfl⟩, text, ?_⟩
  rw [hadd, hlong]

/-- A step up behind the part of a name that a header holds, and a null octet there. -/
def deepStepUp : String := String.ofList (List.replicate 101 'x') ++ "/../b"

def deepNul : String := String.ofList (List.replicate 101 'x') ++ "\x00b"

/-- Neither keeps an entry from being added. -/
theorem deep_faults_are_taken :
    [0x2e, 0x2e] ∈ pieces 0x2f (Bytes.ofText deepStepUp) ∧
      (add { path := "b.tar" } (.held deepStepUp (Bytes.ofText "data"))).2 = .ok () ∧
      (add { path := "b.tar" } (.held deepStepUp (Bytes.ofText "data"))).1 ≠ { path := "b.tar" } ∧
      0 ∈ Bytes.ofText deepNul ∧
      (add { path := "b.tar" } (.held deepNul (Bytes.ofText "data"))).2 = .ok () ∧
      (add { path := "b.tar" } (.held deepNul (Bytes.ofText "data"))).1 ≠ { path := "b.tar" } := by
  decide +kernel

end LayerTransfer.Archive
