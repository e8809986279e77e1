import LayerTransfer.Blob.Stream
import Mathlib.Algebra.GroupWithZero.Nat

namespace LayerTransfer.Blob

namespace Chunk

def octets : Chunk → Bytes
  | data b => b
  | failure _ | interrupted _ => []

/-- Whether a chunk is an error that ends the reading. -/
def isFailure : Chunk → Bool
  | failure _ => true
  | data _ | interrupted _ => false

end Chunk

namespace Stream

def octets (cs : List Chunk) : Bytes := cs.flatMap Chunk.octets

theorem length_octets (cs : List Chunk) :
    (octets cs).length = (cs.map fun c => c.octets.length).sum :=
  List.length_flatMap

/-- Chunks are collected across interruptions if none of them is a failure. -/
theorem collect_resumed_eq_ok_iff {cs : List Chunk} {b : Bytes} :
    collect (resumed cs) = .ok b ↔ (∀ c ∈ cs, c.isFailure = false) ∧ octets cs = b := by
  induction cs generalizing b with
  | nil => simp [collect, octets]
  | cons c r ih =>
    cases c with
    | failure text => simp [collect, Chunk.isFailure]
    | interrupted text => simp [ih, octets, Chunk.isFailure, Chunk.octets]
    | data d =>
      rw [resumed_data, collect_cons_eq_ok]
      simp [ih, octets, Chunk.isFailure, Chunk.octets, and_assoc]

theorem collect_resumed {cs : List Chunk} (h : ∀ c ∈ cs, c.isFailure = false) :
    collect (resumed cs) = .ok (octets cs) :=
  collect_resumed_eq_ok_iff.2 ⟨h, rfl⟩

end Stream

end LayerTransfer.Blob
