import LayerTransfer.Decimal.Whole
import LayerTransfer.Http.Endpoint
import LayerTransfer.Http.Message
import LayerTransfer.Image.Remote
import LayerTransfer.Text.Base64
import LayerTransfer.Text.Lossy

namespace LayerTransfer.Http

open Name Transport

/-- A client with the bearer token that it sends along, and whom it tells what it does. -/
structure Client where
  token : Option String := none
  logger : Log.Verbosity := {}
deriving DecidableEq, Repr

def basic (user : String) (password : Option String) : String :=
  "Basic " ++ String.ofList (Text.Base64.encode (Bytes.ofText (user ++ ":" ++ password.getD "")))

/-- The user and the password in a URL. A user that is no text hides both, and a password that is
no text counts as none. -/
def credentials? (u : Url) : Option (String × Option String) :=
  let decoded? (s : String) : Option String := (Url.Encode.decode s.toList : Bytes).text?
  (decoded? u.username).bind fun user =>
    let password := if u.password = "" then none else decoded? u.password
    if user = "" ∧ password.isNone then none else some (user, password)

namespace Client

def request (c : Client) (method : Method) (u : Url) : Request :=
  let bearer := (c.token.map ("Bearer " ++ ·)).toList
  match credentials? u with
  | none => { method, url := u, authorization := bearer }
  | some (user, password) =>
    { method
      url := { u with username := "", password := "" }
      authorization := basic user password :: bearer }

end Client

def explanation (r : Response) : String :=
  if r.complete then Text.Lossy.decode r.chunks.flatten else "failed to read error response"

def refusal (operation target : String) (r : Response) : TransferError :=
  Status.refusal r.status (explanation r) operation target

def expect (wanted : Status → Bool) (operation target : String) (r : Response) :
    Exchange Response :=
  if wanted r.status then pure r else Task.fail (refusal operation target r)

def brokenBody : String := "error decoding response body"

def bodyChunks (r : Response) : List Blob.Chunk :=
  r.chunks.map .data ++ (if r.complete then [] else [.failure brokenBody])

namespace Client

def fetchManifest (c : Client) (r : Reference) : Exchange Bytes := do
  let operation := "fetching manifest"
  let url ← Task.ofOutcome (endpoint r.repository (manifestPath r))
  Task.tell c.logger (.detail ("GET " ++ url.text))
  let sent ← send operation r.text
    { c.request .get url with accept := some MediaType.manifestAccept }
  let response ← expect Status.isSuccess operation r.text sent
  if !response.complete then
    Task.fail (.registry operation r.text ("reading response body: " ++ brokenBody))
  else
    let body := response.chunks.flatten
    Task.tell c.logger (.body "manifest" body none)
    return body

def head (c : Client) (operation : String) (r : Repository) (d : Digest) : Exchange Response := do
  let url ← Task.ofOutcome (endpoint r (blobPath d))
  Task.tell c.logger (.detail ("HEAD " ++ url.text))
  send operation d.text (c.request .head url)

def size (c : Client) (r : Repository) (d : Digest) : Exchange UInt64 := do
  let operation := "reading size of blob"
  let sent ← c.head operation r d
  let response ← expect Status.isSuccess operation d.text sent
  match (response.text? "content-length").bind Decimal.parseU64 with
  | some n => return n
  | none => Task.fail (.registry operation d.text "response has no Content-Length")

/-- A blob is absent only if the registry says so. -/
def present (c : Client) (r : Repository) (d : Digest) : Exchange Bool := do
  let operation := "checking existence of blob"
  let sent ← c.head operation r d
  let response ← expect (fun s => Status.isSuccess s || s == 404) operation d.text sent
  return Status.isSuccess response.status

/-- The content of a blob. An announced length wins over the one that was expected. -/
def fetch (c : Client) (r : Repository) (q : BlobRequest) : Exchange Blob.Stream := do
  let operation := "fetching blob"
  let url ← Task.ofOutcome (endpoint r (blobPath q.digest))
  Task.tell c.logger (.detail (q.describe url.text))
  let sent ← send operation q.digest.text (c.request .get url)
  let response ← expect Status.isSuccess operation q.digest.text sent
  return ⟨bodyChunks response, response.length.or q.sizeHint, q.redaction⟩

/-- Answers a call with requests. Opening a repository takes none. -/
def serve (c : Client) : (q : Call) → Procedure Request (fun _ => Answer) q.Reply
  | .connect _ => .done (.ok ())
  | .size r d => (c.size r d).run
  | .present r d => (c.present r d).run
  | .fetch r q => (c.fetch r q).run

def reading {α : Type} (c : Client) (t : Reading α) : Exchange α :=
  t.through c.serve

def image (c : Client) (r : Reference) : Exchange RemoteImage := do
  let raw ← c.fetchManifest r
  c.reading do
    connect r.repository
    RemoteImage.read r.repository raw

end Client

end LayerTransfer.Http
