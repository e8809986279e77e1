import LayerTransfer.Archive.Header
import LayerTransfer.Blob.Stream

namespace LayerTransfer.Archive

inductive ContentFault
  | tooLong (declared : Nat)
  | tooShort (found declared : Nat)
  | broken (text : String)
deriving DecidableEq, Repr

def ContentFault.message : ContentFault → String
  | tooLong declared =>
    "content is longer than the declared " ++ toString declared ++ " bytes"
  | tooShort found declared =>
    "content ended after " ++ toString found ++ " of " ++ toString declared ++ " bytes"
  | broken text => text

def copySize : Nat := 8192

/-- Copies chunks behind `done` octets, and passes over interruptions. A piece that would exceed the
declared size is not written, and neither is anything behind it. -/
def copy (declared : Nat) : Nat → List Blob.Chunk → Bytes × Option ContentFault
  | done, [] => ([], if done < declared then some (.tooShort done declared) else none)
  | _, .failure text :: _ => ([], some (.broken text))
  | done, .interrupted _ :: r => copy declared done r
  | done, .data b :: r =>
    if done + b.length ≤ declared then
      let rest := copy declared (done + b.length) r
      (b ++ rest.1, rest.2)
    else (b.take ((declared - done) / copySize * copySize), some (.tooLong declared))

def gap (n : Nat) : Nat :=
  (blockSize - n % blockSize) % blockSize

def padding (n : Nat) : Bytes :=
  Bytes.zeros (gap n)

def longNameField : NameField where
  octets := Bytes.ofText "././@LongLink" ++ Bytes.zeros 87
  length_eq := rfl
  used_le := Nat.zero_le _

def longName (name : Bytes) : Bytes :=
  let content := name ++ [0]
  Header.bytes ⟨longNameField, UInt64.ofNat content.length, .longName⟩ ++ content ++
    padding content.length

def headers (name : Bytes) (size : UInt64) (h : HeaderName) : Bytes :=
  (if h.isFront then longName name else []) ++ Header.bytes ⟨h.field, size, .file⟩

/-- When the record of a long name is written: behind the check of the front that goes into the
header, or ahead of it. -/
inductive RecordOrder
  | checkFirst
  | recordFirst
deriving DecidableEq, Repr

def RecordOrder.leftover (order : RecordOrder) (name : Bytes) : Bytes :=
  match order with
  | .checkFirst => []
  | .recordFirst => if name.length < nameWidth then [] else longName name

/-- What is written for an entry, and why it failed if it did. Failed content stays as far as it
got, without padding. -/
def entry (order : RecordOrder) (name : String) (size : UInt64) (content : List Blob.Chunk) :
    Bytes × Option String :=
  match headerName (Bytes.ofText name) with
  | .error text => (order.leftover (Bytes.ofText name), some text)
  | .ok h =>
    let front := headers (Bytes.ofText name) size h
    match copy size.toNat 0 content with
    | (body, none) => (front ++ body ++ padding body.length, none)
    | (body, some f) => (front ++ body, some f.message)

end LayerTransfer.Archive
