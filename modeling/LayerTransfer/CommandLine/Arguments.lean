import LayerTransfer.Settings

namespace LayerTransfer.CommandLine

inductive Command
  | export (image : String) (layers : List String) (output : String)
  | copy (source destination : String)
  | upload (source destination : String)
deriving DecidableEq, Repr

structure Arguments where
  command : Command
  verbose : Bool := false
  quiet : Bool := false
  insecure : Bool := false
  skipTls : Bool := false
  timeout : Option UInt64 := none
  token : Option String := none
  defaultRegistry : Option String := none
deriving DecidableEq, Repr

namespace Arguments

def validate (a : Arguments) : Outcome Unit :=
  if a.verbose ∧ a.quiet then
    .error (.config "--verbose and --quiet cannot be used together")
  else
    match a.command with
    | .export _ _ output =>
      if output = "" then .error (.config "--output cannot be empty") else .ok ()
    | _ => .ok ()

/-- The settings with those of the command line on top. A switch is on if either turns it on. -/
def applyTo (a : Arguments) (s : Settings) : Settings where
  defaultRegistry := a.defaultRegistry.getD s.defaultRegistry
  insecure := s.insecure || a.insecure
  skipTls := s.skipTls || a.skipTls
  timeoutSeconds := a.timeout.getD s.timeoutSeconds
  token := if a.token.isSome then a.token else s.token
  verbose := s.verbose || a.verbose
  quiet := s.quiet || a.quiet

def configure (a : Arguments) (s : Settings) : Outcome Settings := do
  a.validate
  let s := a.applyTo s
  s.validate
  return s

def settings (a : Arguments) (lookup : String → Option String) : Outcome Settings :=
  (Settings.ofEnvironment lookup).bind a.configure

end Arguments

end LayerTransfer.CommandLine
