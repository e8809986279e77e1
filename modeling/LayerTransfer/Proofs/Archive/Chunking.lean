import LayerTransfer.Proofs.Archive.RoundTrip
import LayerTransfer.Proofs.Blob.Chunks

namespace LayerTransfer.Archive

open Blob (Chunk)
open Blob.Stream (collect collect_cons_eq_ok collect_data collect_resumed collect_resumed_eq_ok_iff
  delivered_of_collect length_octets octets resumed resumed_data)

def lengthFault (declared found : Nat) : Option ContentFault :=
  if found < declared then some (.tooShort found declared)
  else if declared < found then some (.tooLong declared)
  else none

/-- Interrupted reads show neither in what is copied nor in why copying ended. -/
theorem copy_resumed (declared done : Nat) (cs : List Chunk) :
    copy declared done (resumed cs) = copy declared done cs := by
  induction cs generalizing done with
  | nil => rfl
  | cons c r ih =>
    cases c with
    | failure text => rfl
    | interrupted text => exact ih done
    | data d => rw [resumed_data, copy, copy, ih]

theorem copy_fault {declared done : Nat} {cs : List Chunk} {b : Bytes} (h : done ≤ declared)
    (hc : collect (resumed cs) = .ok b) :
    (copy declared done cs).2 = lengthFault declared (done + b.length) := by
  induction cs generalizing done b with
  | nil =>
    cases hc
    have hle : ¬declared < done := Nat.not_lt.2 h
    simp [copy, lengthFault, hle]
  | cons c r ih =>
    cases c with
    | failure text => cases hc
    | interrupted text => exact ih h hc
    | data d =>
      obtain ⟨t, hr, rfl⟩ := collect_cons_eq_ok.1 hc
      rw [copy, List.length_append, ← Nat.add_assoc]
      split
      next hd => exact ih hd hr
      next hd =>
        have hlong : declared < done + d.length + t.length := by omega
        simp [lengthFault, hlong, Nat.lt_asymm hlong]

def IsAccepted (name : String) : Prop :=
  ∃ k, headerName (Bytes.ofText name) = .ok k

theorem isAccepted_of_plain {name : String} (h : IsPlain (Bytes.ofText name)) : IsAccepted name := by
  obtain ⟨k, hk, -⟩ := headerName_of_plain h
  exact ⟨k, hk⟩

variable {a : Archive} {order : RecordOrder} {name : String} {size : UInt64} {cs : List Chunk}
  {b : Bytes}

theorem entry_fault (hn : IsAccepted name) (hc : collect (resumed cs) = .ok b) :
    (entry order name size cs).2 = (lengthFault size.toNat b.length).map ContentFault.message := by
  obtain ⟨k, hk⟩ := hn
  have hf := copy_fault (Nat.zero_le size.toNat) hc
  rw [Nat.zero_add] at hf
  simp only [entry, hk]
  rw [← hf]
  split
  next hcopy => simp [hcopy]
  next f hcopy => simp [hcopy]

theorem entry_of_short (hn : IsAccepted name) (hc : collect (resumed cs) = .ok b)
    (hl : b.length < size.toNat) :
    (entry order name size cs).1 = opening (Bytes.ofText name) size ++ b := by
  obtain ⟨k, hk⟩ := hn
  have hb := delivered_of_collect hc
  have hcopied : (copy size.toNat 0 cs).1 = b := by
    rw [copy_of_within, hb]
    rw [hb]
    omega
  have hfault := copy_fault (Nat.zero_le size.toNat) hc
  have hshort : lengthFault size.toNat (0 + b.length) =
      some (.tooShort (0 + b.length) size.toNat) := if_pos (by omega)
  have hcopy : copy size.toNat 0 cs = (b, some (.tooShort (0 + b.length) size.toNat)) :=
    Prod.ext hcopied (hfault.trans hshort)
  simp only [entry, opening, hk, hcopy]

theorem append_of_whole (hn : IsAccepted name) (hc : collect (resumed cs) = .ok b)
    (hl : b.length = size.toNat) :
    a.append name size cs = (a.extended (whole (Bytes.ofText name) b), .ok ()) := by
  obtain ⟨k, hk⟩ := hn
  simp only [append, entry_of_whole hk hc hl, extended]

theorem appendBytes_of_lt (hn : IsAccepted name) (hl : b.length < UInt64.size) :
    a.appendBytes name b = (a.extended (whole (Bytes.ofText name) b), .ok ()) :=
  append_of_whole hn (collect_data b) (Nat.mod_eq_of_lt hl).symm

theorem append_eq_ok_iff (hn : IsAccepted name) :
    (a.append name size cs).2 = .ok () ↔
      ∃ b, collect (resumed cs) = .ok b ∧ b.length = size.toNat := by
  constructor
  · intro h
    obtain ⟨b, hb, hl, -⟩ := append_of_ok h
    exact ⟨b, hb, hl⟩
  · rintro ⟨b, hb, hl⟩
    rw [append_of_whole hn hb hl]

theorem append_outcome {cs' : List Chunk} (hn : IsAccepted name)
    (hc : collect (resumed cs) = .ok b) (hc' : collect (resumed cs') = .ok b) :
    (a.append name size cs').2 = (a.append name size cs).2 := by
  simp only [append, entry_fault hn hc, entry_fault hn hc']

theorem append_resumed (a : Archive) (name : String) (size : UInt64) (cs : List Chunk) :
    a.append name size (resumed cs) = a.append name size cs := by
  simp only [append, entry, copy_resumed]

theorem append_of_short (hn : IsAccepted name) (hc : collect (resumed cs) = .ok b)
    (hl : b.length < size.toNat) :
    (a.append name size cs).1 = a.extended (opening (Bytes.ofText name) size ++ b) := by
  simp only [append, entry_of_short hn hc hl, extended]

def fiveInChunks : List Chunk :=
  [.data [1, 2], .data [], .interrupted "interrupted", .data [3, 4, 5]]

end LayerTransfer.Archive
