import LayerTransfer.Text.Blank
import LayerTransfer.Text.Cut

namespace LayerTransfer.Name

def dockerHub : String := "index.docker.io"

/-- What a name leaves open: the registry of names without one, and whether registries are reached
over plain http. -/
structure Options where
  defaultRegistry : String := dockerHub
  insecure : Bool := false
deriving DecidableEq, Repr

inductive Fault
  | empty
  | registry
  | repository
  | tag
  | missingDigest
  | digest
deriving DecidableEq, Repr

def Fault.message : Fault → String
  | empty => "empty reference"
  | registry => "invalid registry"
  | repository => "invalid repository name"
  | tag => "invalid tag"
  | missingDigest => "missing @digest"
  | digest => "invalid digest"

structure Rejection where
  input : String
  fault : Fault
deriving DecidableEq, Repr

def Rejection.attach {α : Type} (input : List Char) (answer : Except Fault α) :
    Except Rejection α :=
  answer.mapError (fun fault => ⟨String.ofList input, fault⟩)

def Rejection.rename (input : List Char) (r : Rejection) : Rejection :=
  ⟨String.ofList input, r.fault⟩

def isHostChar (c : Char) : Bool :=
  c.isAlphanum || c == '.' || c == '-' || c == ':' || c == '[' || c == ']'

def isHostInner (c : Char) : Bool :=
  c == '.' || c == '-' || c == ':'

/-- Whether `cs` is a host, optionally with a port. -/
def isHost (cs : List Char) : Bool :=
  !cs.isEmpty && cs.all isHostChar && !cs.head?.any isHostInner && !cs.getLast?.any isHostInner

/-- The other names of Docker Hub become its usual one. -/
def canonicalHost (host : String) : String :=
  if host = "docker.io" ∨ host = "registry-1.docker.io" then dockerHub else host

structure Registry where
  host : String
  insecure : Bool
  host_valid : isHost host.toList = true
  host_canonical : canonicalHost host = host
deriving DecidableEq, Repr

theorem isHost_canonicalHost (s : String) (h : isHost s.toList = true) :
    isHost (canonicalHost s).toList = true := by
  unfold canonicalHost
  split
  · decide
  · exact h

theorem canonicalHost_idem (s : String) :
    canonicalHost (canonicalHost s) = canonicalHost s := by
  by_cases h : s = "docker.io" ∨ s = "registry-1.docker.io"
  · simp only [canonicalHost, h, if_true]
    decide
  · simp [canonicalHost, h]

namespace Registry

def read (host : List Char) (o : Options) : Except Fault Registry :=
  if host = [] then .error .empty
  else if h : isHost host = true then
    .ok
      { host := canonicalHost (String.ofList host)
        insecure := o.insecure
        host_valid := isHost_canonicalHost _ (by rw [String.toList_ofList]; exact h)
        host_canonical := canonicalHost_idem _ }
  else .error .registry

/-- Unlike the other names, a host is taken as it stands, with its blanks. -/
def parse (host : String) (o : Options) : Except Rejection Registry :=
  Rejection.attach host.toList (read host.toList o)

def text (r : Registry) : String := r.host

def isDockerHub (r : Registry) : Bool := r.host == dockerHub

def bareHost (r : Registry) : List Char :=
  r.host.toList.takeWhile (· != ':')

def isLoopback (r : Registry) : Bool :=
  r.bareHost == "localhost".toList || r.bareHost == "127.0.0.1".toList ||
    "[::1]".toList.isPrefixOf r.host.toList

def scheme (r : Registry) : String :=
  if r.insecure || r.isLoopback then "http" else "https"

/-- Docker Hub serves its API from a host of its own. -/
def apiHost (r : Registry) : String :=
  if r.isDockerHub then "registry-1.docker.io" else r.host

def baseUrl (r : Registry) : String :=
  r.scheme ++ "://" ++ r.apiHost

end Registry

end LayerTransfer.Name
