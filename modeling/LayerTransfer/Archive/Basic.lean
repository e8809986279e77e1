import LayerTransfer.Archive.Entry
import LayerTransfer.Machine
import LayerTransfer.TransferError

namespace LayerTransfer

structure Archive where
  path : String
  written : Bytes := []
  order : Archive.RecordOrder := .checkFirst
deriving DecidableEq, Repr

namespace Archive

/-- Starts an archive. A file that is there already is emptied. -/
def create (m : Machine) (path : String) : Outcome Archive :=
  match m.createFault path with
  | some text => .error (.archive path none text)
  | none => .ok ⟨path, m.truncated path 0, m.recordOrder⟩

def append (a : Archive) (name : String) (size : UInt64) (content : List Blob.Chunk) :
    Archive × Outcome Unit :=
  let (octets, fault) := entry a.order name size content
  ({ a with written := a.written ++ octets },
    match fault with
    | none => .ok ()
    | some text => .error (.archive a.path (some name) text))

def appendBytes (a : Archive) (name : String) (content : Bytes) : Archive × Outcome Unit :=
  a.append name (UInt64.ofNat content.length) [.data content]

inductive Addition
  | held (name : String) (content : Bytes)
  | streamed (name : String) (size : UInt64) (content : List Blob.Chunk)
deriving DecidableEq, Repr

namespace Addition

def name : Addition → String
  | held name _ => name
  | streamed name _ _ => name

def content : Addition → Except String Bytes
  | held _ content => .ok content
  | streamed _ _ chunks => Blob.Stream.collect (Blob.Stream.resumed chunks)

end Addition

def add (a : Archive) : Addition → Archive × Outcome Unit
  | .held name content => a.appendBytes name content
  | .streamed name size content => a.append name size content

/-- Adds entries one after the other. One that fails does not keep the next from being added. -/
def addAll (a : Archive) : List Addition → Archive × List (Outcome Unit)
  | [] => (a, [])
  | x :: r =>
    let (a, o) := a.add x
    let (a, os) := a.addAll r
    (a, o :: os)

def endMarker : Bytes := Bytes.zeros (2 * blockSize)

def closed (a : Archive) : Bytes :=
  a.written ++ endMarker

inductive Ending
  | finished
  | abandoned
  | dropped
deriving DecidableEq, Repr

structure Ended where
  octets : Bytes
  isMarked : Bool := false
deriving DecidableEq, Repr

def Ended.mark (e : Ended) : Ended :=
  if e.isMarked then e else ⟨e.octets ++ endMarker, true⟩

/-- The file that an ending leaves. An archive that is let go of is marked, be it for the second
time. -/
def ended (a : Archive) : Ending → Bytes
  | .finished => (Ended.mark ⟨a.written, false⟩).mark.octets
  | .abandoned | .dropped => (Ended.mark ⟨a.written, false⟩).octets

@[simp] theorem ended_eq_closed (a : Archive) (e : Ending) : a.ended e = a.closed := by
  cases e <;> rfl

end Archive

end LayerTransfer
