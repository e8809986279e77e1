import LayerTransfer.Bytes

namespace LayerTransfer.Log

structure Redaction where
  reason : String
deriving DecidableEq, Repr

def Redaction.binaryBlob : Redaction := ⟨"omitting binary blobs from logs"⟩

/-- The longest body shown in full, in octets, and the longest part shown of a longer one, in
characters. -/
def bodyLimit : Nat := 512

/-- What is shown of a body: nothing under a redaction, nothing of binary data, the first
characters of a long text. -/
def renderBody (content : Bytes) : Option Redaction → String
  | some r => "<omitted: " ++ r.reason ++ ">"
  | none =>
    match content.text? with
    | none => "<" ++ toString content.length ++ " bytes of binary data>"
    | some text =>
      if content.length ≤ bodyLimit then text
      else
        String.ofList (text.toList.take bodyLimit) ++
          "... (" ++ toString content.length ++ " bytes)"

/-- Something to tell the user. -/
inductive Message
  | heading (title : String)
  | subheading (title : String)
  | note (text : String)
  | info (text : String)
  | success (text : String)
  | warning (text : String)
  | error (text : String)
  | step (text : String)
  | detail (text : String)
  | body (label : String) (content : Bytes) (redaction : Option Redaction)
  | summary (title : String) (items : List (String × String))
deriving DecidableEq, Repr

inductive Channel
  | output
  | errors
deriving DecidableEq, Repr

namespace Message

def channel : Message → Channel
  | error _ => .errors
  | _ => .output

def text : Message → String
  | heading t => "\n=== " ++ t ++ " ==="
  | subheading t => "\n--- " ++ t ++ " ---"
  | note t => "📝 " ++ t
  | info t => "ℹ️  " ++ t
  | success t => "✅ " ++ t
  | warning t => "⚠️  WARNING: " ++ t
  | error t => "❌ ERROR: " ++ t
  | step t => "▶️  " ++ t
  | detail t => "   " ++ t
  | body label content redaction => "   " ++ label ++ ": " ++ renderBody content redaction
  | summary title items =>
    "\n--- " ++ title ++ " ---" ++ String.join (items.map fun i => "\n  " ++ i.1 ++ ": " ++ i.2)

def isMinor : Message → Bool
  | note _ | detail _ | body .. => true
  | _ => false

end Message

/-- How much the user wants to read. Quiet wins over verbose. -/
structure Verbosity where
  verbose : Bool := false
  quiet : Bool := false
deriving DecidableEq, Repr

namespace Verbosity

def silent : Verbosity := ⟨false, true⟩

/-- Errors are always shown; the rest never to a quiet reader, and minor messages only to a verbose
one. -/
def shows (v : Verbosity) (m : Message) : Bool :=
  m.channel = .errors || (!v.quiet && (v.verbose || !m.isMinor))

def written (v : Verbosity) (c : Channel) (ms : List Message) : List String :=
  (ms.filter fun m => v.shows m && m.channel = c).map Message.text

end Verbosity

end LayerTransfer.Log
