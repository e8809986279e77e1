import LayerTransfer.Digest
import LayerTransfer.Json.Token

namespace LayerTransfer.Json

inductive Fault
  | endOfValue
  | endOfList
  | endOfObject
  | endOfString
  | expectedColon
  | expectedCommaOrBracket
  | expectedCommaOrBrace
  | expectedIdent
  | expectedValue
  | invalidEscape
  | invalidNumber
  | numberOutOfRange
  | invalidCodePoint
  | controlCharacter
  | keyNotString
  | loneSurrogate
  | unfinishedSurrogate
  | trailingComma
  | trailingCharacters
  | invalidType (found expected : String)
  | invalidValue (found expected : String)
  | invalidLength (length : Nat) (expected : String)
  | missingField (name : String)
  | duplicateField (name : String)
  | digest (input : String) (fault : Digest.Fault)
deriving DecidableEq, Repr

def Fault.message : Fault → String
  | endOfValue => "EOF while parsing a value"
  | endOfList => "EOF while parsing a list"
  | endOfObject => "EOF while parsing an object"
  | endOfString => "EOF while parsing a string"
  | expectedColon => "expected " ++ "`:`"
  | expectedCommaOrBracket => "expected " ++ "`,` or `]`"
  | expectedCommaOrBrace => "expected " ++ "`,` or `\x7d`"
  | expectedIdent => "expected ident"
  | expectedValue => "expected value"
  | invalidEscape => "invalid escape"
  | invalidNumber => "invalid number"
  | numberOutOfRange => "number out of range"
  | invalidCodePoint => "invalid unicode code point"
  | controlCharacter =>
    "control character (\\u0000-\\u001F) found while parsing a string"
  | keyNotString => "key must be a string"
  | loneSurrogate => "lone leading surrogate in hex escape"
  | unfinishedSurrogate => "unexpected end of hex escape"
  | trailingComma => "trailing comma"
  | trailingCharacters => "trailing characters"
  | invalidType found expected => "invalid type: " ++ found ++ ", expected " ++ expected
  | invalidValue found expected => "invalid value: " ++ found ++ ", expected " ++ expected
  | invalidLength n expected => "invalid length " ++ toString n ++ ", expected " ++ expected
  | missingField name => "missing field " ++ "`" ++ name ++ "`"
  | duplicateField name => "duplicate field " ++ "`" ++ name ++ "`"
  | digest input fault =>
    "parsing digest " ++ Text.Quoted.quote input ++ ": " ++ fault.message

/-- Takes a value from the front of the tokens. -/
abbrev Reader (α : Type) := List Token → Except Fault (α × List Token)

/-! ### Strings -/

def StringFault.fault : StringFault → Fault
  | endOfInput => .endOfString
  | control => .controlCharacter
  | escape => .invalidEscape
  | hex => .invalidEscape

def isLeading (u : Nat) : Bool := 0xd800 ≤ u && u < 0xdc00

def isTrailing (u : Nat) : Bool := 0xdc00 ≤ u && u < 0xe000

def unfinished : Option StringFault → Fault
  | some .endOfInput => .endOfString
  | some .hex => .invalidEscape
  | _ => .unfinishedSurrogate

def octets (ending : Option StringFault) : List Piece → Except Fault Bytes
  | [] =>
    match ending with
    | none => .ok []
    | some f => .error f.fault
  | .octet b :: r => (octets ending r).map (b :: ·)
  | .unit u :: r =>
    if isTrailing u then .error .loneSurrogate
    else if isLeading u then
      match r with
      | [] => .error (unfinished ending)
      | .octet _ :: _ => .error .unfinishedSurrogate
      | .unit v :: r =>
        if isTrailing v then
          let c := Char.ofNat (0x10000 + (u - 0xd800) * 0x400 + (v - 0xdc00))
          (octets ending r).map (String.utf8EncodeChar c ++ ·)
        else .error .loneSurrogate
    else (octets ending r).map (String.utf8EncodeChar (Char.ofNat u) ++ ·)

def string (ending : Option StringFault) (pieces : List Piece) : Except Fault String :=
  (octets ending pieces).bind fun b =>
    match b.text? with
    | some s => .ok s
    | none => .error .invalidCodePoint

/-! ### Single values -/

def Breakage.fault : Breakage → Fault
  | stray => .expectedValue
  | word ended => if ended then .endOfValue else .expectedIdent
  | number ended => if ended then .endOfValue else .invalidNumber
  | text pieces f =>
    match string (some f) pieces with
    | .error e => e
    | .ok _ => f.fault

def Word.text : Word → String
  | null => "null"
  | true => "boolean " ++ "`true`"
  | false => "boolean " ++ "`false`"

def unexpected (expected : String) : List Token → Fault
  | [] => .endOfValue
  | .word w :: _ => .invalidType w.text expected
  | .number n :: _ =>
    match n.number with
    | some v => .invalidType v.text expected
    | none => .numberOutOfRange
  | .text ps :: _ =>
    match string none ps with
    | .ok s => .invalidType ("string " ++ Text.Quoted.quote s) expected
    | .error e => e
  | .bracketOpen :: _ => .invalidType "sequence" expected
  | .braceOpen :: _ => .invalidType "map" expected
  | .broken b :: _ => b.fault
  | _ => .expectedValue

def readText : Reader String
  | .text ps :: r => (string none ps).map (·, r)
  | ts => .error (unexpected "a string" ts)

def readBool : Reader Bool
  | .word .true :: r => .ok (true, r)
  | .word .false :: r => .ok (false, r)
  | ts => .error (unexpected "a boolean" ts)

def readNatural (bound : Nat) (expected : String) : Reader Nat
  | .number n :: r =>
    match n.number with
    | some (.natural v) =>
      if v < bound then .ok (v, r) else .error (.invalidValue (Number.natural v).text expected)
    | some (.minus v) => .error (.invalidValue (Number.minus v).text expected)
    | some v => .error (.invalidType v.text expected)
    | none => .error .numberOutOfRange
  | ts => .error (unexpected expected ts)

def readOption {α : Type} (value : Reader α) : Reader (Option α)
  | .word .null :: r => .ok (none, r)
  | ts => (value ts).map fun p => (some p.1, p.2)

def readDigest : Reader Digest := fun ts =>
  (readText ts).bind fun (s, r) =>
    match Digest.parse s with
    | .ok d => .ok (d, r)
    | .error f => .error (.digest s f)

/-! ### Values that nobody asked for -/

inductive Frame
  | list
  | object
deriving DecidableEq, Repr

/-- Where a value is passed over: before it, behind an opening bracket, behind a value, before a
key, behind a key. -/
inductive Gap
  | value
  | opened
  | after
  | key
  | colon
deriving DecidableEq, Repr

def Frame.ended : Frame → Fault
  | list => .endOfList
  | object => .endOfObject

/-- The fault of a broken token in a value that is passed over: only its outline is checked. -/
def Breakage.outline : Breakage → Fault
  | stray => .expectedValue
  | word ended => if ended then .endOfValue else .expectedIdent
  | number _ => .invalidNumber
  | text _ f => f.fault

def passValue (frames : List Frame) : Token → Except Fault (Gap × List Frame)
  | .word _ | .number _ | .text _ => .ok (.after, frames)
  | .bracketOpen => .ok (.opened, .list :: frames)
  | .braceOpen => .ok (.opened, .object :: frames)
  | .broken b => .error b.outline
  | _ => .error .expectedValue

def passKey (frames : List Frame) : Token → Except Fault (Gap × List Frame)
  | .text _ => .ok (.colon, frames)
  | .broken (.text _ f) => .error f.fault
  | _ => .error .keyNotString

def passToken (gap : Gap) (frames : List Frame) (t : Token) : Except Fault (Gap × List Frame) :=
  match gap, frames with
  | .value, _ => passValue frames t
  | .opened, .list :: outer => if t = .bracketClose then .ok (.after, outer) else passValue frames t
  | .opened, .object :: outer => if t = .braceClose then .ok (.after, outer) else passKey frames t
  | .after, .list :: outer =>
    if t = .bracketClose then .ok (.after, outer)
    else if t = .comma then .ok (.value, frames)
    else .error .expectedCommaOrBracket
  | .after, .object :: outer =>
    if t = .braceClose then .ok (.after, outer)
    else if t = .comma then .ok (.key, frames)
    else .error .expectedCommaOrBrace
  | .key, _ => passKey frames t
  | .colon, _ => if t = .colon then .ok (.value, frames) else .error .expectedColon
  | .opened, [] | .after, [] => .error .expectedValue

def passEnd (gap : Gap) (frames : List Frame) : Fault :=
  match gap, frames with
  | .value, _ => .endOfValue
  | .key, _ | .colon, _ => .endOfObject
  | _, f :: _ => f.ended
  | _, [] => .endOfValue

def pass (gap : Gap) (frames : List Frame) : Reader Unit
  | [] => if gap = .after ∧ frames = [] then .ok ((), []) else .error (passEnd gap frames)
  | t :: r =>
    if gap = .after ∧ frames = [] then .ok ((), t :: r)
    else (passToken gap frames t).bind fun (gap, frames) => pass gap frames r

def passAny : Reader Unit := pass .value []

/-! ### Lists -/

def nextElement (first : Bool) : List Token → Except Fault (Option (List Token))
  | [] => .error .endOfList
  | .bracketClose :: _ => .ok none
  | .comma :: r =>
    if first then .ok (some (.comma :: r))
    else
      match r with
      | [] => .error .endOfValue
      | .bracketClose :: _ => .error .trailingComma
      | _ => .ok (some r)
  | ts => if first then .ok (some ts) else .error .expectedCommaOrBracket

/-- The elements of a list behind its opening bracket. Every element takes a token at least, so
their number is bounded by that of the tokens. -/
def readElements {α : Type} (element : Reader α) : Nat → Bool → Reader (List α)
  | 0, _, _ => .error .endOfList
  | fuel + 1, first, ts =>
    (nextElement first ts).bind fun
      | none => .ok ([], ts.tail)
      | some ts =>
        (element ts).bind fun (a, r) =>
          (readElements element fuel false r).map fun (as, r) => (a :: as, r)

def readList {α : Type} (element : Reader α) : Reader (List α)
  | .bracketOpen :: r => readElements element (r.length + 1) true r
  | ts => .error (unexpected "a sequence" ts)

/-! ### Records -/

structure Field (σ : Type) where
  key : String
  isSet : σ → Bool
  read : σ → Reader σ
  hasDefault : Bool := false

/-- A record with a title for messages, its members, and what they make together. Other members are
passed over, and the record may also be written as the list of its values. -/
structure Shape (σ α : Type) where
  title : String
  fields : List (Field σ)
  start : σ
  finish : σ → Except Fault α

def nextKey (first : Bool) : List Token → Except Fault (Option (List Token))
  | [] => .error .endOfObject
  | .braceClose :: _ => .ok none
  | .comma :: r =>
    if first then .error .keyNotString
    else
      match r with
      | [] => .error .endOfValue
      | .braceClose :: _ => .error .trailingComma
      | _ => .ok (some r)
  | ts => if first then .ok (some ts) else .error .expectedCommaOrBrace

def readKey : Reader String
  | .text ps :: r => (string none ps).map (·, r)
  | .broken (.text ps f) :: _ => .error (Breakage.text ps f).fault
  | _ => .error .keyNotString

def readColon : Reader Unit
  | .colon :: r => .ok ((), r)
  | [] => .error .endOfObject
  | _ => .error .expectedColon

def readMember {σ : Type} (fields : List (Field σ)) (s : σ) (key : String) : Reader σ := fun ts =>
  match fields.find? (·.key = key) with
  | none => (readColon ts).bind fun (_, r) => (passAny r).map fun (_, r) => (s, r)
  | some f =>
    if f.isSet s then .error (.duplicateField f.key)
    else (readColon ts).bind fun (_, r) => f.read s r

def readMembers {σ : Type} (fields : List (Field σ)) : Nat → Bool → σ → Reader σ
  | 0, _, _, _ => .error .endOfObject
  | fuel + 1, first, s, ts =>
    (nextKey first ts).bind fun
      | none => .ok (s, ts.tail)
      | some ts =>
        (readKey ts).bind fun (key, r) =>
          (readMember fields s key r).bind fun (s, r) => readMembers fields fuel false s r

def endRecord : Reader Unit
  | .bracketClose :: r => .ok ((), r)
  | .comma :: .bracketClose :: _ => .error .trailingComma
  | [] => .error .endOfList
  | _ => .error .trailingCharacters

def readValues {σ : Type} (expected : String) :
    List (Field σ) → Nat → σ → Reader σ
  | [], _, s, ts => .ok (s, ts)
  | f :: fs, i, s, ts =>
    (nextElement (i = 0) ts).bind fun
      | some ts => (f.read s ts).bind fun (s, r) => readValues expected fs (i + 1) s r
      | none =>
        if f.hasDefault then readValues expected fs (i + 1) s ts
        else .error (.invalidLength i expected)

def readRecord {σ α : Type} (shape : Shape σ α) : Reader α
  | .bracketOpen :: r =>
    let expected := shape.title ++ " with " ++ toString shape.fields.length ++ " elements"
    (readValues expected shape.fields 0 shape.start r).bind fun (s, r) =>
      (shape.finish s).bind fun a => (endRecord r).map fun (_, r) => (a, r)
  | .braceOpen :: r =>
    (readMembers shape.fields (r.length + 1) true shape.start r).bind fun (s, r) =>
      (shape.finish s).map (·, r)
  | ts => .error (unexpected shape.title ts)

def required {α : Type} (key : String) : Option α → Except Fault α
  | some a => .ok a
  | none => .error (.missingField key)

/-! ### Documents -/

def readDocument {α : Type} (value : Reader α) (b : Bytes) : Except Fault α :=
  (value (Token.ofBytes b)).bind fun
    | (a, []) => .ok a
    | _ => .error .trailingCharacters

end LayerTransfer.Json
