import LayerTransfer.Blob.Stream
import LayerTransfer.Procedure

namespace LayerTransfer.Transport

open Name

/-- A request for the content of a blob. -/
structure BlobRequest where
  digest : Digest
  sizeHint : Option UInt64 := none
  redaction : Option Log.Redaction := none
deriving DecidableEq, Repr

namespace BlobRequest

def describe (r : BlobRequest) (location : String) : String :=
  let size := match r.sizeHint with
    | some n => toString n.toNat ++ " bytes"
    | none => "size unknown"
  let body := match r.redaction with
    | some m => ", body <omitted: " ++ m.reason ++ ">"
    | none => ""
  "GET " ++ location ++ " (" ++ size ++ body ++ ")"

/-- The request for the content of a layer: of unknown size, and never shown. -/
def layer (d : Digest) : BlobRequest :=
  { digest := d, redaction := some .binaryBlob }

end BlobRequest

inductive Call
  | connect (repository : Repository)
  | size (repository : Repository) (digest : Digest)
  | present (repository : Repository) (digest : Digest)
  | fetch (repository : Repository) (request : BlobRequest)
deriving DecidableEq, Repr

namespace Call

abbrev Reply : Call → Type
  | connect _ => Outcome Unit
  | size .. => Outcome UInt64
  | present .. => Outcome Bool
  | fetch .. => Outcome Blob.Stream

def text? : Call → Option String
  | connect _ => none
  | size r d => some (r.text ++ " HEAD " ++ d.text)
  | present r d => some (r.text ++ " EXISTS " ++ d.text)
  | fetch r q => some (r.text ++ " " ++ q.describe q.digest.text)

end Call

abbrev Reading (α : Type) := Task Call Call.Reply α

def connect (r : Repository) : Reading Unit :=
  ExceptT.mk (.ask (.connect r) .done)

def size (r : Repository) (d : Digest) : Reading UInt64 :=
  ExceptT.mk (.ask (.size r d) .done)

def present (r : Repository) (d : Digest) : Reading Bool :=
  ExceptT.mk (.ask (.present r d) .done)

def fetch (r : Repository) (q : BlobRequest) : Reading Blob.Stream :=
  ExceptT.mk (.ask (.fetch r q) .done)

end LayerTransfer.Transport
