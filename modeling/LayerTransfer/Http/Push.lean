import LayerTransfer.Http.Client
import LayerTransfer.Log.Amount
import LayerTransfer.Push.Writer

namespace LayerTransfer.Http

open Name Push

inductive MountOutcome
  | mounted
  | session (location : Url)
deriving DecidableEq, Repr

def location (base : Url) (target : Repository) (r : Response) : Outcome Url :=
  let operation := "starting upload to"
  match r.text? "location" with
  | none => .error (.registry operation target.text "response has no Location header")
  | some text =>
    (base.join text).mapError fun f => .registry operation target.text f.message

namespace Client

def post (c : Client) (u : Url) : Request :=
  { c.request .post u with contentLength := some 0 }

def mount (c : Client) (destination source : Repository) (d : Digest) : Exchange MountOutcome := do
  let operation := "mounting blob"
  let base ← Task.ofOutcome (endpoint destination uploadsPath)
  let url := (base.addPair "mount" d.text).addPair "from" source.name
  let sent ← send operation d.text (c.post url)
  let response ← expect (fun s => s == 201 || s == 202) operation d.text sent
  if response.status = 201 then return .mounted
  else
    let url ← Task.ofOutcome (location base destination response)
    return .session url

def startUpload (c : Client) (destination : Repository) : Exchange Url := do
  let operation := "starting upload to"
  let base ← Task.ofOutcome (endpoint destination uploadsPath)
  let sent ← send operation destination.text (c.post base)
  let response ← expect (· == 202) operation destination.text sent
  Task.ofOutcome (location base destination response)

def uploadBlob (c : Client) (start : Url) (l : Layer) : Exchange Unit := do
  let operation := "uploading blob"
  let size ← c.reading l.size
  let content ← c.reading l.content
  Task.tell c.logger (.info ("Uploading " ++ l.digest.short ++ " (" ++ Log.sizeText size ++ ")"))
  let request : Request :=
    { c.request .put (start.addPair "digest" l.digest.text) with
      contentType := some "application/octet-stream"
      contentLength := some size
      body := .streamed content.chunks }
  let sent ← send operation l.digest.text request
  let _ ← expect Status.isSuccess operation l.digest.text sent

def openUpload (c : Client) (r : Repository) (l : Layer) : Exchange (Option Url) :=
  match mountSource l r with
  | none => do
    let url ← c.startUpload r
    return some url
  | some source => do
    match ← c.mount r source l.digest with
    | .mounted =>
      Task.tell c.logger (.success ("Mounted " ++ l.digest.short ++ " from " ++ source.text))
      return none
    | .session url =>
      Task.tell c.logger (.note
        ("Mount of " ++ l.digest.short ++ " from " ++ source.text ++ " declined, uploading"))
      return some url

/-- Brings a layer into a repository: nothing is sent if it is there. -/
def writeLayer (c : Client) (r : Repository) (l : Layer) : Exchange Unit := do
  if ← c.present r l.digest then
    Task.tell c.logger (.detail (l.digest.short ++ " already exists in " ++ r.text))
  else
    match ← c.openUpload r l with
    | none => return ()
    | some url => c.uploadBlob url l

def putManifest (c : Client) (r : Reference) (raw : Bytes) (mediaType : MediaType) :
    Exchange Unit := do
  let operation := "putting manifest"
  let url ← Task.ofOutcome (endpoint r.repository (manifestPath r))
  let request : Request :=
    { c.request .put url with
      contentType := some mediaType.text
      contentLength := some (UInt64.ofNat raw.length)
      body := .held raw }
  let sent ← send operation r.text request
  let _ ← expect Status.isSuccess operation r.text sent
  Task.tell c.logger (.success ("Manifest pushed to " ++ r.text))

def writeLayers (c : Client) (r : Repository) (total : Nat) : Nat → List Layer → Exchange Unit
  | _, [] => return ()
  | index, l :: more => do
    Task.tell c.logger (.step
      ("Layer " ++ toString (index + 1) ++ "/" ++ toString total ++ ": " ++ l.digest.short))
    Task.forLayer l.digest.text (c.writeLayer r l)
    writeLayers c r total (index + 1) more

/-- Brings an image to a reference: the layers, the config, and then the manifest. -/
def write (c : Client) (r : Reference) (i : Image) : Exchange Unit := do
  let layers ← Task.ofOutcome i.layers
  Task.tell c.logger (.info ("Pushing " ++ toString layers.length ++ " layers to " ++ r.text))
  c.writeLayers r.repository layers.length 0 layers
  let config ← Task.ofOutcome i.configLayer
  Task.forLayer config.digest.text (c.writeLayer r.repository config)
  let raw ← Task.ofOutcome i.rawManifest
  let mediaType ← Task.ofOutcome i.mediaType
  c.putManifest r raw mediaType

def writer (c : Client) : Writer Exchange Unit where
  write := c.write
  writeLayer := c.writeLayer

end Client

end LayerTransfer.Http
