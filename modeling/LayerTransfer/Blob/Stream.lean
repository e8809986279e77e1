import LayerTransfer.Log.Message
import LayerTransfer.Text.Quoted

namespace LayerTransfer.Blob

/-- Some octets, or the text of an error. An interrupted read may be made again, and goes on with
what comes next. -/
inductive Chunk
  | data (octets : Bytes)
  | failure (text : String)
  | interrupted (text : String)
deriving DecidableEq, Repr

def Chunk.isInterrupted : Chunk → Bool
  | interrupted _ => true
  | _ => false

/-- Content with what travels beside it: the length its source promises, and a marker that keeps it
out of the log. -/
structure Stream where
  chunks : List Chunk
  sizeHint : Option UInt64 := none
  redaction : Option Log.Redaction := none
deriving DecidableEq, Repr

def maxAllocation : Nat := 9223372036854775807

structure Buffer where
  octets : Bytes := []
  room : Nat := 0
  room_le : room ≤ maxAllocation := by decide

namespace Buffer

/-- The most room that a promised length is granted: it comes from the remote side. -/
def maxPreallocation : UInt64 := 1048576

theorem toNat_granted_le (n : UInt64) :
    (min n maxPreallocation).toNat ≤ maxPreallocation.toNat :=
  UInt64.le_iff_toNat_le.1 (Std.min_le_right)

theorem granted_le (n : UInt64) : (min n maxPreallocation).toNat ≤ maxAllocation :=
  Nat.le_trans (toNat_granted_le n) (by decide)

def forHint : Option UInt64 → Buffer
  | some n => { room := (min n maxPreallocation).toNat, room_le := granted_le n }
  | none => {}

def push (b : Buffer) (octets : Bytes) : Buffer :=
  { b with octets := b.octets ++ octets }

@[simp] theorem octets_forHint (hint : Option UInt64) : (forHint hint).octets = [] := by
  cases hint <;> rfl

@[simp] theorem octets_push (b : Buffer) (d : Bytes) : (b.push d).octets = b.octets ++ d := rfl

end Buffer

namespace Stream

def ofBytes (b : Bytes) : Stream :=
  ⟨[.data b], some (UInt64.ofNat b.length), none⟩

def next (s : Stream) : Option Chunk × Stream :=
  (s.chunks.head?, { s with chunks := s.chunks.tail })

def nexts : Nat → Stream → List (Option Chunk) × Stream
  | 0, s => ([], s)
  | n + 1, s =>
    let (c, s) := s.next
    let (cs, s) := nexts n s
    (c :: cs, s)

def collect : List Chunk → Except String Bytes
  | [] => .ok []
  | .data b :: r => (collect r).map (b ++ ·)
  | .failure text :: _ | .interrupted text :: _ => .error text

def drain : Buffer → List Chunk → Except String Bytes
  | buffer, [] => .ok buffer.octets
  | buffer, .data b :: r => drain (buffer.push b) r
  | _, .failure text :: _ | _, .interrupted text :: _ => .error text

def readAll (s : Stream) : Except String Bytes :=
  drain (.forHint s.sizeHint) s.chunks

theorem drain_eq (buffer : Buffer) (cs : List Chunk) :
    drain buffer cs = (collect cs).map (buffer.octets ++ ·) := by
  induction cs generalizing buffer with
  | nil => simp [drain, collect, Except.map]
  | cons c r ih =>
    cases c with
    | failure text | interrupted text => rfl
    | data b =>
      rw [drain, ih, collect]
      cases collect r <;> simp [Except.map]

theorem readAll_eq (s : Stream) : s.readAll = collect s.chunks := by
  rw [readAll, drain_eq]
  cases collect s.chunks <;> simp [Except.map]

def delivered : List Chunk → Bytes
  | [] => []
  | .data b :: r => b ++ delivered r
  | .failure _ :: _ | .interrupted _ :: _ => []

/-- The chunks for a reader who makes interrupted reads again. -/
def resumed (cs : List Chunk) : List Chunk := cs.filter fun c => !c.isInterrupted

section

variable (b : Bytes) (text : String) (r : List Chunk)

@[simp] theorem resumed_nil : resumed [] = [] := rfl

@[simp] theorem resumed_data : resumed (.data b :: r) = .data b :: resumed r := rfl

@[simp] theorem resumed_failure : resumed (.failure text :: r) = .failure text :: resumed r := rfl

@[simp] theorem resumed_interrupted : resumed (.interrupted text :: r) = resumed r := rfl

end

theorem collect_cons_eq_ok {d b : Bytes} {r : List Chunk} :
    collect (.data d :: r) = .ok b ↔ ∃ t, collect r = .ok t ∧ d ++ t = b := by
  rw [collect]
  cases collect r <;> simp [Except.map]

theorem delivered_of_collect {cs : List Chunk} {b : Bytes} (h : collect cs = .ok b) :
    delivered cs = b := by
  induction cs generalizing b with
  | nil =>
    cases h
    rfl
  | cons c r ih =>
    cases c with
    | failure text | interrupted text => cases h
    | data d =>
      obtain ⟨t, hr, rfl⟩ := collect_cons_eq_ok.1 h
      rw [delivered, ih hr]

theorem collect_data (b : Bytes) : collect [.data b] = .ok b := by
  simp [collect, Except.map]

theorem readAll_ofBytes (b : Bytes) : (ofBytes b).readAll = .ok b :=
  (readAll_eq _).trans (collect_data b)

def describe (s : Stream) : String :=
  let hint := match s.sizeHint with
    | some n => "Known(" ++ toString n.toNat ++ ")"
    | none => "Unknown"
  let redaction := match s.redaction with
    | some r => "Some(Redaction \x7b reason: " ++ Text.Quoted.quote r.reason ++ " \x7d)"
    | none => "None"
  "BlobStream \x7b size_hint: " ++ hint ++ ", redaction: " ++ redaction ++ ", .. \x7d"

end Stream

end LayerTransfer.Blob
