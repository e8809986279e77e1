import LayerTransfer.Blob.Stream
import LayerTransfer.Http.Status
import LayerTransfer.Procedure
import LayerTransfer.Url.Basic

namespace LayerTransfer.Http

inductive Method
  | get
  | head
  | post
  | put
deriving DecidableEq, Repr

/-- Octets at hand, or chunks that come while they are sent and so can be sent only once. -/
inductive Body
  | held (octets : Bytes)
  | streamed (chunks : List Blob.Chunk)
deriving DecidableEq, Repr

namespace Body

def chunks : Body → List Blob.Chunk
  | held b => [.data b]
  | streamed cs => cs

def isHeld : Body → Bool
  | held _ => true
  | streamed _ => false

end Body

/-- A request as it is sent. A user in its URL has become an authorization where it can. -/
structure Request where
  method : Method
  url : Url
  authorization : List String := []
  accept : Option String := none
  contentType : Option String := none
  contentLength : Option UInt64 := none
  body : Body := .held []
deriving DecidableEq, Repr

/-- A response: header fields with lower-case names, the announced length of the body, and the body
as far as it arrived. -/
structure Response where
  status : Status
  headers : List (String × Bytes) := []
  length : Option UInt64 := none
  chunks : List Bytes := []
  complete : Bool := true
deriving DecidableEq, Repr

inductive Failure
  | unreachable
  | timedOut
  | broken
deriving DecidableEq, Repr

def Failure.message : Failure → String → String
  | unreachable, text => "connection error: " ++ text
  | timedOut, text => "timed out: " ++ text
  | broken, text => "network error: " ++ text

inductive Answer
  | response (r : Response)
  | failed (f : Failure) (text : String)
deriving DecidableEq, Repr

abbrev Exchange (α : Type) := Task Request (fun _ => Answer) α

abbrev Network (σ : Type) := Server Request (fun _ => Answer) σ

def Request.sendingFault (q : Request) : String :=
  "error sending request for url (" ++ q.url.text ++ ")"

namespace Network

def offline : Network Unit := fun s q => (.failed .unreachable q.sendingFault, s)

/-- A network that gives prepared answers in their order, and none after the last. -/
def scripted : Network (List Answer) := fun s q =>
  (s.headD (.failed .broken q.sendingFault), s.tail)

end Network

namespace Response

def header? (r : Response) (name : String) : Option Bytes :=
  (r.headers.find? (·.1 = name)).map (·.2)

/-- The text of a header field; none unless it is visible ASCII. -/
def text? (r : Response) (name : String) : Option String :=
  (r.header? name).bind fun b =>
    if b.all (fun c => (0x20 ≤ c && c < 0x7f) || c == 0x09) then b.text? else none

end Response

namespace Request

def isFieldText (s : String) : Bool :=
  (Bytes.ofText s).all fun c => (0x20 ≤ c && c != 0x7f) || c == 0x09

def fieldTexts (r : Request) : List String :=
  r.authorization ++ r.accept.toList ++ r.contentType.toList

/-- Whether the URL can be asked over HTTP: it is short enough, and its host has none of the
characters that domain names may hold but requests may not. -/
def isWeb (r : Request) : Bool :=
  (r.url.scheme == "http" || r.url.scheme == "https") &&
    (r.url.host.getD "").toList.all (fun c => !"\"\x60\x7b\x7d".toList.contains c) &&
    r.url.text.utf8ByteSize < UInt16.size - 1

end Request

/-- Has a request sent. Whatever keeps a response from arriving is the error of the operation. -/
def send (operation target : String) (r : Request) : Exchange Response :=
  let fail {α : Type} (f : Failure) (text : String) : Exchange α :=
    Task.fail (.registry operation target (f.message text))
  if !r.fieldTexts.all Request.isFieldText then fail .broken "builder error"
  else if !r.isWeb then fail .broken ("builder error for url (" ++ r.url.text ++ ")")
  else
    ExceptT.mk <| .ask r fun
      | .failed f text => (fail f text).run
      | .response s => .done (.ok s)

end LayerTransfer.Http
