import LayerTransfer.CommandLine.Arguments
import LayerTransfer.Text.Cut

namespace LayerTransfer.CommandLine

inductive Usage
  | help
  | version
  | helpForNothing
  | missingSubcommand
  | invalidSubcommand
  | missingArgument
  | unknownArgument
  | conflict
  | tooManyValues
  | invalidValue
  | unreadableValue
deriving DecidableEq, Repr

namespace Usage

def exitCode : Usage → Nat
  | help | version => 0
  | _ => 2

end Usage

inductive Verb
  | export
  | copy
  | upload
deriving DecidableEq, Repr

def Verb.ofName? (s : String) : Option Verb :=
  if s = "export" then some .export
  else if s = "copy" then some .copy
  else if s = "upload" then some .upload
  else none

abbrev Level := Option Verb

inductive Switch
  | verbose
  | quiet
  | insecure
  | skipTls
deriving DecidableEq, Repr

inductive Slot
  | timeout
  | token
  | defaultRegistry
  | image
  | layer
  | output
deriving DecidableEq, Repr

inductive Opt
  | switch (s : Switch)
  | slot (s : Slot)
  | help
  | version
deriving DecidableEq, Repr

def onlyAt (level : Level) (v : Verb) (o : Opt) : Option Opt :=
  if level = some v then some o else none

/-- The option with a long name. The version is asked for at the program's level only. -/
def longOption? (level : Level) (name : String) : Option Opt :=
  if name = "verbose" then some (.switch .verbose)
  else if name = "quiet" then some (.switch .quiet)
  else if name = "insecure" then some (.switch .insecure)
  else if name = "skip-tls" then some (.switch .skipTls)
  else if name = "timeout" then some (.slot .timeout)
  else if name = "token" then some (.slot .token)
  else if name = "default-registry" then some (.slot .defaultRegistry)
  else if name = "help" then some .help
  else if name = "version" then (if level = none then some .version else none)
  else if name = "image" then onlyAt level .export (.slot .image)
  else if name = "layer" then onlyAt level .export (.slot .layer)
  else if name = "output" then onlyAt level .export (.slot .output)
  else none

def shortOption? (level : Level) : Char → Option Opt
  | 'v' => some (.switch .verbose)
  | 'q' => some (.switch .quiet)
  | 'k' => some (.switch .skipTls)
  | 't' => some (.slot .timeout)
  | 'h' => some .help
  | 'V' => if level = none then some .version else none
  | 'i' => onlyAt level .export (.slot .image)
  | 'l' => onlyAt level .export (.slot .layer)
  | 'o' => onlyAt level .export (.slot .output)
  | _ => none

/-- What has been read at one level. An option that waits for its value, or whose value has just
been read, is pending: the next option settles it, or the next positional word, or the end of the
level. -/
structure Scan where
  switches : List Switch := []
  values : List (Slot × String) := []
  positionals : List String := []
  pending : Option (Slot × Option String) := none
  trailing : Bool := false
deriving DecidableEq, Repr

namespace Scan

def awaits (s : Scan) : Bool :=
  match s.pending with
  | some (_, none) => true
  | _ => false

def valuesOf (s : Scan) (slot : Slot) : List String :=
  (s.values.filter (·.1 = slot)).map (·.2)

/-- Enters a value. Only layers may be given more than once. -/
def store (s : Scan) (slot : Slot) (value : String) : Except Usage Scan :=
  if slot ≠ .layer ∧ s.valuesOf slot ≠ [] then .error .conflict
  else if slot = .timeout ∧ (Decimal.parseU64 value).isNone then .error .unreadableValue
  else if slot = .output ∧ value = "" then .error .invalidValue
  else .ok { s with values := s.values ++ [(slot, value)] }

def settle (s : Scan) : Except Usage Scan :=
  match s.pending with
  | none => .ok s
  | some (_, none) => .error .invalidValue
  | some (slot, some value) => { s with pending := none }.store slot value

def turnOn (s : Scan) (w : Switch) : Except Usage Scan :=
  s.settle.bind fun s =>
    if w ∈ s.switches then .error .conflict else .ok { s with switches := s.switches ++ [w] }

def give (s : Scan) (slot : Slot) : Option String → Except Usage Scan
  | some value => s.settle.bind fun s => s.store slot value
  | none => s.settle.map fun s => { s with pending := some (slot, none) }

def apply (s : Scan) (o : Opt) (value : Option String) : Except Usage Scan :=
  match o with
  | .slot slot => s.give slot value
  | .switch w => if value.isSome then .error .tooManyValues else s.turnOn w
  | .help => if value.isSome then .error .tooManyValues else s.settle.bind fun _ => .error .help
  | .version =>
    if value.isSome then .error .tooManyValues else s.settle.bind fun _ => .error .version

def long (level : Level) (s : Scan) (word : List Char) : Except Usage Scan :=
  let (name, value) := match Text.Cut.atFirst '=' word with
    | some (n, v) => (n, some (String.ofList v))
    | none => (word, none)
  match longOption? level (String.ofList name) with
  | some o => s.apply o value
  | none => .error .unknownArgument

/-- Letters behind one dash. The rest of the word behind an option with a value is that value. -/
def short (level : Level) (s : Scan) : List Char → Except Usage Scan
  | [] => .ok s
  | c :: r =>
    match shortOption? level c with
    | none => .error .unknownArgument
    | some (.slot slot) =>
      match r with
      | [] => s.give slot none
      | '=' :: v => s.give slot (some (String.ofList v))
      | v => s.give slot (some (String.ofList v))
    | some o => (s.apply o none).bind fun s => s.short level r

def positional (level : Level) (s : Scan) (word : String) : Except Usage Scan :=
  match level with
  | none =>
    if s.trailing ∧ ((Verb.ofName? word).isSome ∨ word = "help") then .error .unknownArgument
    else .error .invalidSubcommand
  | some .export => .error .unknownArgument
  | some _ =>
    if s.positionals.length < 2 then
      s.settle.map fun s => { s with positionals := s.positionals ++ [word] }
    else .error .unknownArgument

def word (level : Level) (s : Scan) (w : String) : Except Usage Scan :=
  if s.trailing then s.positional level w
  else
    match w.toList with
    | ['-', '-'] => .ok { s with trailing := true }
    | '-' :: '-' :: r => s.long level r
    | '-' :: c :: r => s.short level (c :: r)
    | _ =>
      match s.pending with
      | some (slot, none) => .ok { s with pending := some (slot, some w) }
      | _ => s.positional level w

def words (level : Level) : Scan → List String → Except Usage Scan
  | s, [] => s.settle
  | s, w :: r => (s.word level w).bind fun s => words level s r

end Scan

def helpOn : List String → Usage
  | [] => .help
  | [w] => if (Verb.ofName? w).isSome ∨ w = "help" then .help else .invalidSubcommand
  | _ => .invalidSubcommand

def Scan.takesCommand (s : Scan) : Bool := !s.trailing && !s.awaits

def command? (v : Verb) (s : Scan) : Except Usage Command :=
  match v, s.positionals with
  | .export, _ =>
    match s.valuesOf .image, s.valuesOf .layer, s.valuesOf .output with
    | [image], layer :: more, [output] => .ok (.export image (layer :: more) output)
    | _, _, _ => .error .missingArgument
  | .copy, [source, destination] => .ok (.copy source destination)
  | .upload, [source, destination] => .ok (.upload source destination)
  | _, _ => .error .missingArgument

/-- The command with the options of both levels; a value at the command's level wins. -/
def combine (program own : Scan) (command : Command) : Arguments :=
  let on (w : Switch) : Bool := program.switches.contains w || own.switches.contains w
  let value (slot : Slot) : Option String :=
    (own.valuesOf slot).head?.or (program.valuesOf slot).head?
  { command
    verbose := on .verbose
    quiet := on .quiet
    insecure := on .insecure
    skipTls := on .skipTls
    timeout := (value .timeout).bind Decimal.parseU64
    token := value .token
    defaultRegistry := value .defaultRegistry }

def read : Scan → List String → Except Usage Arguments
  | s, [] =>
    s.settle.bind fun s =>
      if s.switches = [] ∧ s.values = [] then .error .helpForNothing else .error .missingSubcommand
  | s, w :: r =>
    if s.takesCommand then
      match Verb.ofName? w with
      | some v =>
        (Scan.words (some v) {} r).bind fun own =>
          (command? v own).bind fun command =>
            s.settle.map fun program => combine program own command
      | none =>
        if w = "help" then .error (helpOn r) else (s.word none w).bind fun s => read s r
    else (s.word none w).bind fun s => read s r

def parse (words : List String) : Except Usage Arguments :=
  read {} words

end LayerTransfer.CommandLine
