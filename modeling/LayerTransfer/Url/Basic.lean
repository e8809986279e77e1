import LayerTransfer.Text.Cut
import LayerTransfer.Url.Host

namespace LayerTransfer

/-- A URL. Its parts are kept in their encoded form, so that its text is their concatenation. Where
there is no host, the path follows the scheme directly. -/
structure Url where
  scheme : String
  username : String := ""
  password : String := ""
  host : Option String := none
  port : Option Nat := none
  path : String
  query : Option String := none
  fragment : Option String := none
deriving DecidableEq, Repr

namespace Url

def userinfo (u : Url) : String :=
  if u.username = "" ∧ u.password = "" then ""
  else u.username ++ (if u.password = "" then "" else ":" ++ u.password) ++ "@"

def authority (u : Url) : String :=
  match u.host with
  | none => ""
  | some h =>
    "//" ++ u.userinfo ++ h ++
      (match u.port with
       | some p => ":" ++ toString p
       | none => "")

/-- What keeps a path that starts with two slashes from being read as a host. -/
def shield (u : Url) : String :=
  if u.host.isNone && "//".toList.isPrefixOf u.path.toList then "/." else ""

def text (u : Url) : String :=
  u.scheme ++ ":" ++ u.authority ++ u.shield ++ u.path ++
    (match u.query with
     | some q => "?" ++ q
     | none => "") ++
    (match u.fragment with
     | some f => "#" ++ f
     | none => "")

def defaultPort? (scheme : String) : Option Nat :=
  if scheme = "http" ∨ scheme = "ws" then some 80
  else if scheme = "https" ∨ scheme = "wss" then some 443
  else if scheme = "ftp" then some 21
  else none

def isSpecial (scheme : String) : Bool := (defaultPort? scheme).isSome || scheme == "file"

/-! ### Paths -/

abbrev Segments := List (List Char)

def isDot (s : List Char) : Bool :=
  s == ".".toList || s.map Char.toLower == "%2e".toList

def isDoubleDot (s : List Char) : Bool :=
  let l := s.map Char.toLower
  l == "..".toList || l == ".%2e".toList || l == "%2e.".toList || l == "%2e%2e".toList

/-- A letter with a colon or bar, which no step up leaves behind. -/
def isDrive : List Char → Bool
  | [a, b] => a.isAlpha && (b == ':' || b == '|')
  | _ => false

def stepUp : Segments → Segments
  | [] => []
  | s :: r => if isDrive s then s :: r else r

/-- Walks along segments. The last one leaves an empty segment when it is a step. -/
def walk : Segments → Segments → Segments
  | done, [] => done.reverse
  | done, [s] =>
    if isDoubleDot s then ([] :: stepUp done).reverse
    else if isDot s then ([] :: done).reverse
    else (Encode.percent Encode.inPath s :: done).reverse
  | done, s :: r =>
    if isDoubleDot s then walk (stepUp done) r
    else if isDot s then walk done r
    else walk (Encode.percent Encode.inPath s :: done) r

def pathText (segments : Segments) : String :=
  String.ofList (segments.flatMap ('/' :: ·))

def segments (special : Bool) (cs : List Char) : Segments :=
  Text.Cut.pieces '/' (if special then cs.map fun c => if c == '\\' then '/' else c else cs)

def resolvePath (special : Bool) (base : Segments) (cs : List Char) : String :=
  pathText (walk base.reverse (segments special cs))

/-! ### Other parts -/

/-- Without the controls and spaces at both ends, and without line ends and tabs anywhere. -/
def clean (cs : List Char) : List Char :=
  let outer (c : Char) : Bool := c.toNat ≤ 0x20
  let cs := ((cs.dropWhile outer).reverse.dropWhile outer).reverse
  cs.filter fun c => !(c == '\t' || c == '\n' || c == '\r')

def cutOff (c : Char) (cs : List Char) : List Char × Option (List Char) :=
  match Text.Cut.atFirst c cs with
  | some (a, b) => (a, some b)
  | none => (cs, none)

def cutScheme (cs : List Char) : Option (String × List Char) :=
  match Text.Cut.atFirst ':' cs with
  | some (a :: r, rest) =>
    if a.isAlpha ∧ r.all (fun c => c.isAlphanum || c == '+' || c == '-' || c == '.') then
      some (String.ofList ((a :: r).map Char.toLower), rest)
    else none
  | _ => none

def parseQuery (scheme : String) (cs : List Char) : String :=
  let set := if isSpecial scheme then Encode.inSpecialQuery else Encode.inQuery
  String.ofList (Encode.percent set cs)

def parseFragment (cs : List Char) : String :=
  String.ofList (Encode.percent Encode.inFragment cs)

/-- The host and the port text behind the first colon outside of brackets. -/
def cutPort (inside : Bool) : List Char → List Char × Option (List Char)
  | [] => ([], none)
  | c :: r =>
    if c = ':' ∧ !inside then ([], some r)
    else
      let inside := if c = '[' then true else if c = ']' then false else inside
      let p := cutPort inside r
      (c :: p.1, p.2)

def parsePort (scheme : String) : Option (List Char) → Except Fault (Option Nat)
  | none => .ok none
  | some cs =>
    if cs.all Char.isDigit then
      let n := cs.foldl (fun n c => 10 * n + (c.toNat - '0'.toNat)) 0
      if cs.isEmpty ∨ some n = defaultPort? scheme then .ok none
      else if n < UInt16.size then .ok (some n)
      else .error .port
    else .error .port

structure Split where
  body : List Char
  query : Option (List Char)
  fragment : Option (List Char)

def split (cs : List Char) : Split :=
  let (front, fragment) := cutOff '#' cs
  let (body, query) := cutOff '?' front
  ⟨body, query, fragment⟩

def withTail (u : Url) (s : Split) : Url :=
  { u with query := s.query.map (parseQuery u.scheme), fragment := s.fragment.map parseFragment }

/-- A URL with the host, port and user of an authority and nothing else. Whether a host may be
empty depends on the scheme, but a user or a port needs one. -/
def parseAuthority (scheme : String) (cs : List Char) : Except Fault Url :=
  let (user, place) := match Text.Cut.atLast '@' cs with
    | some (a, b) => (a, b)
    | none => ([], cs)
  let (name, password) := cutOff ':' user
  let (host, port) := cutPort false place
  let encode (cs : List Char) : String := String.ofList (Encode.percent Encode.inUserinfo cs)
  (if isSpecial scheme then Host.parse host else Host.verbatim host).bind fun host =>
    if host.isEmpty && port.isSome then .error .emptyHost
    else
      (parsePort scheme port).bind fun port =>
        let u : Url :=
          { scheme
            username := encode name
            password := encode (password.getD [])
            host := some (String.ofList host)
            port
            path := "" }
        if host.isEmpty && u.userinfo != "" then .error .emptyHost else .ok u

def endsAuthority (special : Bool) (c : Char) : Bool :=
  c == '/' || (special && c == '\\')

def parsePlace (scheme : String) (s : Split) : Except Fault Url :=
  let special := isSpecial scheme
  let place := s.body.takeWhile fun c => !endsAuthority special c
  let rest := s.body.dropWhile fun c => !endsAuthority special c
  let path := if special || !rest.isEmpty then resolvePath special [] (rest.drop 1) else ""
  let alone := rest.isEmpty && s.query.isNone && s.fragment.isNone
  if place = ['@'] ∧ ¬alone then .error .emptyHost
  else (parseAuthority scheme place).map fun u => withTail { u with path } s

/-! ### Local files -/

def hasDrive : Segments → Bool
  | s :: _ => isDrive s
  | [] => false

/-- The path of a local file: a drive at its start is written with a colon, and empty segments at
its start are dropped. -/
def filePath (path : Segments) : String :=
  match path with
  | [a, _] :: r => pathText (if hasDrive path then [a, ':'] :: r else path)
  | _ =>
    match path.dropWhile (·.isEmpty) with
    | [] => "/"
    | rest => pathText rest

def file (host cs : List Char) : Url :=
  let path := walk [] (segments true cs)
  { scheme := "file"
    host := some (if hasDrive path then "" else String.ofList host)
    path := filePath path }

def parseFilePlace (cs : List Char) : Except Fault Url :=
  let host := cs.takeWhile fun c => !endsAuthority true c
  let rest := (cs.dropWhile fun c => !endsAuthority true c).drop 1
  if isDrive host then .ok (file [] cs)
  else if host.isEmpty then .ok (file [] rest)
  else
    (Host.parse host).map fun host => file (if host = "localhost".toList then [] else host) rest

def parseFile (cs : List Char) : Except Fault Url :=
  match cs with
  | a :: b :: r =>
    if endsAuthority true a && endsAuthority true b then parseFilePlace r
    else .ok (file [] (if endsAuthority true a then b :: r else cs))
  | [a] => .ok (file [] (if endsAuthority true a then [] else [a]))
  | [] => .ok (file [] [])

/-! ### Whole URLs -/

def parseBody (scheme : String) (s : Split) : Except Fault Url :=
  if scheme = "file" then (parseFile s.body).map (withTail · s)
  else if isSpecial scheme then
    parsePlace scheme { s with body := s.body.dropWhile (endsAuthority true) }
  else
    match s.body with
    | '/' :: '/' :: place => parsePlace scheme { s with body := place }
    | '/' :: path => .ok (withTail { scheme, path := resolvePath false [] path } s)
    | path =>
      .ok (withTail { scheme, path := String.ofList (Encode.percent Encode.isControl path) } s)

def parse (raw : String) : Except Fault Url :=
  let s := split (clean raw.toList)
  match cutScheme s.body with
  | none => .error .noScheme
  | some (scheme, rest) => parseBody scheme { s with body := rest }

def directory (path : String) : Segments :=
  (Text.Cut.pieces '/' (path.toList.drop 1)).dropLast

/-- A reference without a scheme, resolved against a special URL. Behind two plain slashes comes
the host; a row of slashes with a backslash among the first two is skipped. -/
def resolve (base : Url) (s : Split) : Except Fault Url :=
  match s.body with
  | [] =>
    .ok
      { base with
        query := match s.query with
          | some q => some (parseQuery base.scheme q)
          | none => base.query
        fragment := s.fragment.map parseFragment }
  | '/' :: '/' :: r => parsePlace base.scheme { s with body := r }
  | c :: r =>
    if endsAuthority true c then
      match r with
      | d :: r =>
        if endsAuthority true d then
          parsePlace base.scheme { s with body := r.dropWhile (endsAuthority true) }
        else .ok (withTail { base with path := resolvePath true [] (d :: r) } s)
      | [] => .ok (withTail { base with path := "/" } s)
    else .ok (withTail { base with path := resolvePath true (directory base.path) (c :: r) } s)

def join (base : Url) (reference : String) : Except Fault Url :=
  let s := split (clean reference.toList)
  match cutScheme s.body with
  | none => resolve base s
  | some (scheme, rest) =>
    let slashes := (rest.takeWhile (endsAuthority true)).length
    if scheme = base.scheme ∧ slashes < 2 then resolve base { s with body := rest }
    else parseBody scheme { s with body := rest }

def addPair (u : Url) (key value : String) : Url :=
  let pair := Encode.form key ++ "=" ++ Encode.form value
  { u with
    query := match u.query with
      | none => some pair
      | some q => some (if q = "" then pair else q ++ "&" ++ pair) }

end Url

end LayerTransfer
