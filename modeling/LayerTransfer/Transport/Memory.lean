import LayerTransfer.Transport.Call

namespace LayerTransfer.Transport

open Name

/-- A blob of a registry in memory, and how the calls about it go. -/
structure StoredBlob where
  digest : Digest
  chunks : List Blob.Chunk
  hint : Option UInt64
  size : UInt64
  absent : Bool := false
  sizeFailure : Option String := none
  fetchFailure : Option String := none
  presenceFailure : Option String := none
deriving DecidableEq, Repr

structure Memory where
  blobs : List StoredBlob := []
  denied : List String := []
deriving DecidableEq, Repr

namespace Memory

def find? (m : Memory) (d : Digest) : Option StoredBlob :=
  m.blobs.find? (·.digest = d)

def erase (m : Memory) (d : Digest) : Memory :=
  { m with blobs := m.blobs.filter (·.digest ≠ d) }

def insert (m : Memory) (b : StoredBlob) : Memory :=
  let others := m.erase b.digest
  { others with blobs := others.blobs ++ [b] }

def answerFor {α : Type} (operation : String) (d : Digest) (failure : Option String) (value : α) :
    Outcome α :=
  match failure with
  | some text => .error (.registry operation d.text text)
  | none => .ok value

def answer (m : Memory) : (c : Call) → c.Reply
  | .connect r =>
    if r.text ∈ m.denied then .error (.registry "connecting to" r.text "denied") else .ok ()
  | .size _ d =>
    match m.find? d with
    | none => .error (.registry "reading size of blob" d.text "not found")
    | some b => answerFor "reading size of blob" d b.sizeFailure b.size
  | .present _ d =>
    match m.find? d with
    | none => .ok false
    | some b => answerFor "checking existence of blob" d b.presenceFailure !b.absent
  | .fetch _ q =>
    match m.find? q.digest with
    | none => .error (.registry "fetching blob" q.digest.text "not found")
    | some b => answerFor "fetching blob" q.digest b.fetchFailure ⟨b.chunks, b.hint, q.redaction⟩

def server : Server Call Call.Reply Memory := fun m c => (m.answer c, m)

end Memory

end LayerTransfer.Transport
