import LayerTransfer.Decimal.Whole
import LayerTransfer.Descriptor
import LayerTransfer.Log.Message

namespace LayerTransfer

structure Settings where
  defaultRegistry : String := Name.dockerHub
  insecure : Bool := false
  skipTls : Bool := false
  timeoutSeconds : UInt64 := 300
  token : Option String := none
  verbose : Bool := false
  quiet : Bool := false
deriving DecidableEq, Repr

namespace Settings

def maxTimeout : UInt64 := 86400

def validate (s : Settings) : Outcome Unit :=
  if Text.Blank.trim s.defaultRegistry.toList = [] then
    .error (.config "default registry cannot be empty")
  else if s.timeoutSeconds = 0 then .error (.config "timeout must be greater than 0")
  else if maxTimeout < s.timeoutSeconds then
    .error (.config "timeout cannot exceed 24 hours (86400 seconds)")
  else .ok ()

def nameOptions (s : Settings) : Name.Options :=
  ⟨s.defaultRegistry, s.insecure⟩

def verbosity (s : Settings) : Log.Verbosity :=
  if s.quiet then .silent else ⟨s.verbose, false⟩

def variableName (setting : String) : String := "LAYER_MOUNT_" ++ setting

def readSwitch (name value : String) : Outcome Bool :=
  let v := String.ofList ((Text.Blank.trim value.toList).map Char.toLower)
  if v = "1" ∨ v = "true" ∨ v = "yes" then .ok true
  else if v = "0" ∨ v = "false" ∨ v = "no" ∨ v = "" then .ok false
  else
    .error (.config (name ++ " must be true or false, got " ++ Text.Quoted.quote v))

def lookupSwitch (lookup : String → Option String) (setting : String) : Outcome Bool :=
  match lookup (variableName setting) with
  | some v => readSwitch (variableName setting) v
  | none => .ok false

def readTimeout (name value : String) : Outcome UInt64 :=
  match Decimal.parseU64 (Text.Blank.trimText value) with
  | some n => .ok n
  | none =>
    .error (.config (name ++ " must be a number of seconds, got " ++ Text.Quoted.quote value))

def lookupTimeout (lookup : String → Option String) : Outcome UInt64 :=
  match lookup (variableName "TIMEOUT") with
  | some v => readTimeout (variableName "TIMEOUT") v
  | none => .ok 300

/-- Settings from environment variables, which override the defaults. An empty token is none. -/
def ofEnvironment (lookup : String → Option String) : Outcome Settings := do
  let defaultRegistry := (lookup (variableName "DEFAULT_REGISTRY")).getD Name.dockerHub
  let insecure ← lookupSwitch lookup "INSECURE"
  let skipTls ← lookupSwitch lookup "SKIP_TLS"
  let timeoutSeconds ← lookupTimeout lookup
  let token := (lookup (variableName "TOKEN")).filter (· ≠ "")
  let s : Settings := { defaultRegistry, insecure, skipTls, timeoutSeconds, token }
  s.validate
  return s

structure Members where
  defaultRegistry : Option String := none
  insecure : Option Bool := none
  skipTls : Option Bool := none
  timeoutSeconds : Option UInt64 := none
  token : Option (Option String) := none
  verbose : Option Bool := none
  quiet : Option Bool := none

def shape : Json.Shape Members Settings where
  title := "struct TransferConfig"
  fields :=
    [{ key := "default_registry"
       isSet := fun p => p.defaultRegistry.isSome
       read := fun p ts =>
        (Json.readText ts).map fun (v, r) => ({ p with defaultRegistry := some v }, r) },
     { key := "insecure"
       isSet := fun p => p.insecure.isSome
       read := fun p ts =>
        (Json.readBool ts).map fun (v, r) => ({ p with insecure := some v }, r) },
     { key := "skip_tls"
       isSet := fun p => p.skipTls.isSome
       read := fun p ts => (Json.readBool ts).map fun (v, r) => ({ p with skipTls := some v }, r) },
     { key := "timeout_secs"
       isSet := fun p => p.timeoutSeconds.isSome
       read := fun p ts =>
        (Descriptor.readSize ts).map fun (v, r) => ({ p with timeoutSeconds := some v }, r) },
     { key := "token"
       isSet := fun p => p.token.isSome
       read := fun p ts =>
        (Json.readOption Json.readText ts).map fun (v, r) => ({ p with token := some v }, r) },
     { key := "verbose"
       isSet := fun p => p.verbose.isSome
       read := fun p ts => (Json.readBool ts).map fun (v, r) => ({ p with verbose := some v }, r) },
     { key := "quiet"
       isSet := fun p => p.quiet.isSome
       read := fun p ts => (Json.readBool ts).map fun (v, r) => ({ p with quiet := some v }, r) }]
  start := {}
  finish := fun p => do
    let defaultRegistry ← Json.required "default_registry" p.defaultRegistry
    let insecure ← Json.required "insecure" p.insecure
    let skipTls ← Json.required "skip_tls" p.skipTls
    let timeoutSeconds ← Json.required "timeout_secs" p.timeoutSeconds
    let verbose ← Json.required "verbose" p.verbose
    let quiet ← Json.required "quiet" p.quiet
    let token := p.token.getD none
    return { defaultRegistry, insecure, skipTls, timeoutSeconds, token, verbose, quiet }

/-- Settings from JSON text, all members but the token mandatory. -/
def parse (raw : Bytes) : Outcome Settings := do
  let s ← (Json.readDocument (Json.readRecord shape) raw).mapError Descriptor.jsonError
  s.validate
  return s

end Settings

end LayerTransfer
