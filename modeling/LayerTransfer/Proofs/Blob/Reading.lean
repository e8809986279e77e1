import LayerTransfer.Proofs.Blob.Chunks

namespace LayerTransfer.Blob

def Chunk.failure? : Chunk → Option String
  | data _ => none
  | failure text | interrupted text => some text

theorem Buffer.room_forHint_le (hint : Option UInt64) :
    (forHint hint).room ≤ maxPreallocation.toNat := by
  cases hint with
  | none => exact Nat.zero_le _
  | some n => exact toNat_granted_le n

namespace Stream

theorem collect_eq_findSome? (cs : List Chunk) :
    collect cs = match cs.findSome? Chunk.failure? with
      | none => .ok (octets cs)
      | some text => .error text := by
  induction cs with
  | nil => rfl
  | cons c r ih =>
    cases c with
    | failure text | interrupted text => rfl
    | data b =>
      rw [collect, ih, List.findSome?_cons]
      simp only [Chunk.failure?]
      -- the error is the same one in the rest, and the octets come in front of those of the rest
      cases r.findSome? Chunk.failure? with
      | none => rfl
      | some text => rfl

theorem nexts_succ (n : Nat) (s : Stream) :
    s.nexts (n + 1) = (s.next.1 :: (s.next.2.nexts n).1, (s.next.2.nexts n).2) := rfl

theorem nexts_eq (n : Nat) (s : Stream) :
    s.nexts n = ((s.chunks.take n).map some ++ List.replicate (n - s.chunks.length) none,
      { s with chunks := s.chunks.drop n }) := by
  induction n generalizing s with
  | zero => simp [nexts]
  | succ n ih =>
    obtain ⟨chunks, hint, redaction⟩ := s
    rw [nexts_succ, ih]
    cases chunks with
    | nil => simp [next, List.replicate_succ]
    | cons c r => simp [next]

/-- Of a stream with any promise beside it, the first chunks are delivered one by one, each once and
in order, with nothing behind the last. What is read to the end from there is the octets of exactly
the chunks that are left, or the first error among them. The promise has no part in this, and no
promise makes the buffer larger than a fixed size. -/
theorem chunks_delivered_once (cs : List Chunk) (hint : Option UInt64)
    (redaction : Option Log.Redaction) (n : Nat) :
    ((⟨cs, hint, redaction⟩ : Stream).nexts n).1 =
        (cs.take n).map some ++ List.replicate (n - cs.length) none ∧
      ((⟨cs, hint, redaction⟩ : Stream).nexts n).2.readAll =
        (match (cs.drop n).findSome? Chunk.failure? with
          | none => .ok (octets (cs.drop n))
          | some text => .error text) ∧
      (Buffer.forHint hint).room ≤ Buffer.maxPreallocation.toNat := by
  refine ⟨?_, ?_, Buffer.room_forHint_le hint⟩
  · rw [nexts_eq]
  · rw [nexts_eq, readAll_eq, collect_eq_findSome?]

example :
    ((⟨[.data [1], .data [], .data [2], .failure "reset", .data [3]], some (2 ^ 64 - 1), none⟩ :
      Stream).nexts 1).2.readAll = .error "reset" := by
  rfl

end Stream

end LayerTransfer.Blob
