import LayerTransfer.Bundle
import LayerTransfer.CommandLine.Arguments
import LayerTransfer.CommandLine.Layers
import LayerTransfer.Http.Push

namespace LayerTransfer.CommandLine

open Name Http

structure Written where
  path : String
  content : Bytes
deriving DecidableEq, Repr

/-- A procedure over requests that may fail and may leave a file even then. -/
abbrev Run := Procedure Request (fun _ => Answer) (Option Written × Outcome Unit)

def noFile (t : Exchange Unit) : Run :=
  t.run.bind fun o => .done (none, o)

def totalSize (ds : List Descriptor) : UInt64 :=
  ds.foldl (fun n d => n + d.size) 0

def readSource (c : Client) (o : Options) (image : String) (layers : List String) :
    Exchange (RemoteImage × List Pinned) := do
  let r ← Task.ofOutcome (readName (Reference.parse image o))
  let ps ← Task.ofOutcome (resolveLayers o r layers)
  Task.tell c.logger (.subheading "Reading image")
  let source ← c.image r
  Task.tell c.logger (.info (r.text ++ " has " ++ toString source.manifest.layers.length ++
    " layers, exporting " ++ toString ps.length))
  return (source, ps)

def bundleSummary (path : String) (ds : List Descriptor) : Log.Message :=
  .summary "Bundle"
    [("Path", path), ("Layers", toString ds.length), ("Layer bytes", Log.sizeText (totalSize ds))]

def runExport (c : Client) (m : Machine) (o : Options) (image : String) (layers : List String)
    (path : String) : Run :=
  (readSource c o image layers).run.bind fun
    | .error e => .done (none, .error e)
    | .ok (source, ps) =>
      ((Bundle.write c.logger m ps path source.toImage).through c.serve).bind fun exported =>
        let file := exported.file.map fun content => (⟨path, content⟩ : Written)
        match exported.result with
        | .error e => .done (file, .error e)
        | .ok ds => .tell c.logger (bundleSummary path ds) (.done (file, .ok ()))

def runCopy (c : Client) (o : Options) (source destination : String) : Exchange Unit := do
  let r ← Task.ofOutcome (readName (Reference.parse source o))
  Task.tell c.logger (.subheading "Reading image")
  let image ← c.image r
  Task.tell c.logger (.subheading ("Copying " ++ r.text ++ " to " ++ destination))
  Push.push c.writer (image.toImage.mountable r) destination o

def runUpload (c : Client) (o : Options) (source destination : String) : Exchange Unit := do
  let p ← Task.ofOutcome (readName (Pinned.parse source o))
  let layer ← c.reading (Layer.ofPinned p)
  Task.tell c.logger (.subheading ("Copying " ++ p.text ++ " to " ++ destination))
  Push.upload c.writer layer destination o

def runCommand (c : Client) (m : Machine) (o : Options) : Command → Run
  | .export image layers output => runExport c m o image layers output
  | .copy source destination => noFile (runCopy c o source destination)
  | .upload source destination => noFile (runUpload c o source destination)

def client (s : Settings) : Client where
  token := s.token
  logger := s.verbosity

def session (c : Client) (m : Machine) (s : Settings) (command : Command) : Run :=
  .tell c.logger (.heading "Layer Mount")
    (.tell c.logger (.detail ("default registry " ++ s.defaultRegistry ++ ", timeout " ++
        toString s.timeoutSeconds.toNat ++ "s"))
      ((runCommand c m s.nameOptions command).bind fun
        | (file, .error e) => .done (file, .error e)
        | (file, .ok ()) =>
          .tell c.logger (.success ("Operation completed successfully in " ++
              Log.durationText m.elapsedMillis))
            (.done (file, .ok ()))))

def run (m : Machine) (s : Settings) (command : Command) : Run :=
  session (client s) m s command

def closing : Outcome Unit → List Log.Message
  | .ok _ => []
  | .error e => [.error e.message]

def exitCode : Outcome Unit → Nat
  | .ok _ => 0
  | .error _ => 1

end LayerTransfer.CommandLine
