import LayerTransfer.CommandLine.Parser
import LayerTransfer.CommandLine.Runner
import LayerTransfer.Http.Library

namespace LayerTransfer.CommandLine

def usageText : String :=
  "Usage: layer-mount [OPTIONS] COMMAND\n\n" ++
  "  export -i IMAGE -l LAYER... -o PATH\n" ++
  "  copy SOURCE DESTINATION\n" ++
  "  upload SOURCE DESTINATION\n\n" ++
  "Options: -v --verbose, -q --quiet, -k --skip-tls, --insecure, -t --timeout SECONDS,\n" ++
  "  --token TOKEN, --default-registry HOST, -h --help, -V --version"

def versionText : String := "layer-mount 0.1.0"

def readVariables : IO (List (String × String)) := do
  let mut found := []
  for setting in ["DEFAULT_REGISTRY", "INSECURE", "SKIP_TLS", "TIMEOUT", "TOKEN"] do
    let name := Settings.variableName setting
    if let some value ← IO.getEnv name then
      found := found ++ [(name, value)]
  return found

def report (ms : List Log.Message) : IO Unit := do
  for m in ms do
    match m.channel with
    | .output => IO.println m.text
    | .errors => IO.eprintln m.text

def refuse (u : Usage) : IO UInt32 := do
  match u with
  | .version => IO.println versionText
  | .help => IO.println usageText
  | _ => IO.eprintln usageText
  return UInt32.ofNat u.exitCode

def finish (o : Outcome Unit) : IO UInt32 := do
  report (closing o)
  return UInt32.ofNat (exitCode o)

/-- Runs a command under settings. No connection is opened, so that every registry counts as one
that cannot be reached. What keeps a file from being written shows when it is written. -/
def perform (s : Settings) (command : Command) : IO UInt32 := do
  let machine : Machine := { createFault := fun _ => none }
  let ((file, o), events, _) :=
    Http.Library.usual.run Http.Network.offline () (run machine s command)
  report (Event.messages events)
  if let some written := file then
    IO.FS.writeBinFile written.path ⟨written.content.toArray⟩
  finish o

end LayerTransfer.CommandLine

open LayerTransfer CommandLine in
def main (words : List String) : IO UInt32 := do
  match parse words with
  | .error u => refuse u
  | .ok a =>
    let known ← readVariables
    match a.settings fun name => List.lookup name known with
    | .error e => finish (.error e)
    | .ok s => perform s a.command
