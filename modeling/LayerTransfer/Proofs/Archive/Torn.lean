import LayerTransfer.Proofs.Archive.RoundTrip

namespace LayerTransfer.Archive

open Blob (Chunk)
open Blob.Stream (delivered resumed)

/-- The entry that failed, as it is read back. -/
def Member.torn (name : Bytes) (size : UInt64) (cs : List Chunk) : Member :=
  ⟨.plain name size.toNat, (copied size cs ++ endMarker).take size.toNat⟩

theorem Member.isWhole_torn (name : Bytes) (size : UInt64) (cs : List Chunk) :
    (Member.torn name size cs).isWhole = true ↔ size.toNat ≤ (copied size cs).length + 1024 := by
  have he : endMarker.length = 1024 := by simp [endMarker, blockSize]
  simp only [isWhole, torn, Label.plain, List.length_take, List.length_append, he, beq_iff_eq]
  omega

theorem Addition.Makes.isWhole {x : Addition} {m : Member} (h : x.Makes m) :
    m.isWhole = true := by
  rw [h.2]
  simp [Member.isWhole, Member.plain, Label.plain]

theorem isWhole_of_forall₂ {xs : List Addition} {ms : List Member}
    (h : List.Forall₂ Addition.Makes xs ms) : ∀ m ∈ ms, m.isWhole = true := by
  induction h with
  | nil => simp
  | cons hm _ ih =>
    intro m hmem
    rcases List.mem_cons.1 hmem with rfl | hmem
    · exact hm.isWhole
    · exact ih m hmem

theorem filter_isWhole_append {ms : List Member} {m : Member}
    (h : ∀ n ∈ ms, n.isWhole = true) :
    (ms ++ [m]).filter Member.isWhole = ms ↔ m.isWhole = false := by
  rw [List.filter_append, List.filter_eq_self.2 h]
  simp

variable {m : Machine} {path : String} {a : Archive} {xs : List Addition} {name : String}
  {size : UInt64} {cs : List Chunk} {e : TransferError}

theorem members?_of_failed (hc : Archive.create m path = .ok a)
    (hn : ∀ x ∈ xs, IsPlain (Bytes.ofText x.name) ∧ (Bytes.ofText x.name).length < maxText)
    (ho : ∀ o ∈ (a.addAll xs).2, o = .ok ()) (hp : IsPlain (Bytes.ofText name))
    (hl : (Bytes.ofText name).length < maxText)
    (he : ((a.addAll xs).1.append name size cs).2 = .error e) (ending : Ending) :
    ∃ ms k, List.Forall₂ Addition.Makes xs ms ∧
      members? (((a.addAll xs).1.append name size cs).1.ended ending) =
        some (ms ++ [.torn (Bytes.ofText name) size cs], Bytes.zeros k) := by
  obtain ⟨ms, body, hm, hw, hs⟩ := spells_addAll hn ho
  obtain ⟨ht, -⟩ := append_of_error hp he
  obtain ⟨k, hk⟩ := members?_of_torn hs hp hl (length_copied_le size cs)
  refine ⟨ms, k, hm, ?_⟩
  -- abandoning writes the end marker as every ending does
  rw [ended_eq_closed, closed, ht, hw, written_of_create hc, Member.torn]
  simpa [extended] using hk

/-- Additions that succeed and one that fails are read back as so many whole members and one more.
The last one holds what was copied, which is everything that arrived within the declared size, and
zeros behind it. It is short, and the whole members are the entries that were completed, exactly if
more than two blocks are missing. -/
theorem abandoned_reads_back (hc : Archive.create m path = .ok a)
    (hn : ∀ x ∈ xs, IsPlain (Bytes.ofText x.name) ∧ (Bytes.ofText x.name).length < maxText)
    (ho : ∀ o ∈ (a.addAll xs).2, o = .ok ()) (hp : IsPlain (Bytes.ofText name))
    (hl : (Bytes.ofText name).length < maxText)
    (he : ((a.addAll xs).1.append name size cs).2 = .error e) :
    ∃ ms k, members? (((a.addAll xs).1.append name size cs).1.ended .abandoned) =
        some (ms ++ [.torn (Bytes.ofText name) size cs], Bytes.zeros k) ∧
      List.Forall₂ Addition.Makes xs ms ∧
      copied size cs <+: delivered (resumed cs) ∧
      ((delivered (resumed cs)).length ≤ size.toNat → copied size cs = delivered (resumed cs)) ∧
      ((ms ++ [Member.torn (Bytes.ofText name) size cs]).filter Member.isWhole = ms ↔
        (copied size cs).length + 1024 < size.toNat) := by
  obtain ⟨ms, k, hm, hk⟩ := members?_of_failed hc hn ho hp hl he .abandoned
  refine ⟨ms, k, hk, hm, copied_prefix size cs, copied_of_within, ?_⟩
  have hw := Member.isWhole_torn (Bytes.ofText name) size cs
  rw [filter_isWhole_append (isWhole_of_forall₂ hm), ← Bool.not_eq_true, hw, Nat.not_le]

def shortContent : List Chunk := [.data (Bytes.ofText "abc")]

def twoAndShort : Archive × Outcome Unit := twoAdded.append "torn" 10 shortContent

theorem twoAndShort_reads_back :
    Archive.create usedMachine "b.tar" = .ok { path := "b.tar" } ∧
      (∀ x ∈ twoAdditions,
        IsPlain (Bytes.ofText x.name) ∧ (Bytes.ofText x.name).length < maxText) ∧
      (∀ o ∈ (addAll { path := "b.tar" } twoAdditions).2, o = .ok ()) ∧
      (∃ e, twoAndShort.2 = .error e) ∧
      ∃ ms k, members? (twoAndShort.1.ended .abandoned) =
          some (ms ++ [.torn (Bytes.ofText "torn") 10 shortContent], Bytes.zeros k) ∧
        List.Forall₂ Addition.Makes twoAdditions ms ∧
        copied 10 shortContent <+: delivered (resumed shortContent) ∧
        ((delivered (resumed shortContent)).length ≤ 10 →
          copied 10 shortContent = delivered (resumed shortContent)) ∧
        ((ms ++ [Member.torn (Bytes.ofText "torn") 10 shortContent]).filter Member.isWhole = ms ↔
          (copied 10 shortContent).length + 1024 < 10) := by
  have hc : Archive.create usedMachine "b.tar" = .ok { path := "b.tar" } := rfl
  have hn : ∀ x ∈ twoAdditions,
      IsPlain (Bytes.ofText x.name) ∧ (Bytes.ofText x.name).length < maxText := by
    decide +kernel
  have ho : ∀ o ∈ (addAll { path := "b.tar" } twoAdditions).2, o = .ok () := by
    decide +kernel
  have he : twoAndShort.2 = .error (.archive "b.tar" (some "torn")
      (ContentFault.tooShort 3 10).message) := by
    decide +kernel
  exact ⟨hc, hn, ho, ⟨_, he⟩, abandoned_reads_back hc hn ho (by decide) (by decide) he⟩

/-- The entry that failed is read in full, seven zeros included. -/
theorem short_entry_reads_whole :
    (append { path := "b.tar" } "torn" 10 shortContent).2 =
        .error (.archive "b.tar" (some "torn") (ContentFault.tooShort 3 10).message) ∧
      ∃ x k, members? ((append { path := "b.tar" } "torn" 10 shortContent).1.ended .abandoned) =
          some ([x], Bytes.zeros k) ∧
        x.label.name = Bytes.ofText "torn" ∧ x.isWhole = true ∧
        x.content = Bytes.ofText "abc" ++ Bytes.zeros 7 := by
  have he : (append { path := "b.tar" } "torn" 10 shortContent).2 =
      .error (.archive "b.tar" (some "torn") (ContentFault.tooShort 3 10).message) := by
    decide +kernel
  have hc : Archive.create usedMachine "b.tar" = .ok { path := "b.tar" } := rfl
  have ho : ∀ o ∈ (addAll { path := "b.tar" } []).2, o = .ok () := by simp [addAll]
  obtain ⟨ms, k, hm, hk⟩ :=
    members?_of_failed hc (by simp) ho (by decide) (by decide) he .abandoned
  cases hm
  exact ⟨he, _, k, hk, rfl, by decide, by decide⟩

end LayerTransfer.Archive
