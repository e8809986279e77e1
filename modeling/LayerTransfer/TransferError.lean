import LayerTransfer.Name.Reference

namespace LayerTransfer

inductive TransferError
  | reference (rejection : Name.Rejection)
  | digest (input : String) (fault : Digest.Fault)
  | registry (operation target message : String)
  | archive (path : String) (entry : Option String) (message : String)
  | manifest (message : String)
  | layer (name : String) (cause : TransferError)
  | config (message : String)
deriving DecidableEq, Repr

namespace TransferError

def message : TransferError → String
  | reference r =>
    "parsing reference " ++ Text.Quoted.quote r.input ++ ": " ++ r.fault.message
  | digest input fault =>
    "parsing digest " ++ Text.Quoted.quote input ++ ": " ++ fault.message
  | registry operation target message =>
    "registry error while " ++ operation ++ " " ++ target ++ ": " ++ message
  | archive path none message => "writing archive " ++ path ++ ": " ++ message
  | archive path (some entry) message =>
    "writing archive " ++ path ++ " (entry " ++ entry ++ "): " ++ message
  | manifest message => "manifest error: " ++ message
  | layer name cause => "layer " ++ name ++ ": " ++ cause.message
  | config message => "configuration error: " ++ message

def root : TransferError → TransferError
  | layer _ cause => cause.root
  | e => e

def forLayer (name : String) (e : TransferError) : TransferError :=
  layer name e

end TransferError

abbrev Outcome := Except TransferError

namespace Outcome

def forLayer {α : Type} (name : String) (answer : Outcome α) : Outcome α :=
  answer.mapError (TransferError.forLayer name)

variable {ε ε' α β : Type}

theorem ok_of_map {o : Except ε α} {f : α → β} {b : β} (h : o.map f = .ok b) :
    ∃ a, o = .ok a ∧ f a = b := by
  cases o with
  | error e => cases h
  | ok a => exact ⟨a, rfl, Except.ok.inj h⟩

theorem ok_of_bind {o : Except ε α} {f : α → Except ε β} {b : β} (h : o.bind f = .ok b) :
    ∃ a, o = .ok a ∧ f a = .ok b := by
  cases o with
  | error e => cases h
  | ok a => exact ⟨a, rfl, h⟩

theorem ok_of_mapError {o : Except ε α} {f : ε → ε'} {a : α} (h : o.mapError f = .ok a) :
    o = .ok a := by
  cases o with
  | error e => cases h
  | ok b => exact congrArg Except.ok (Except.ok.inj h)

end Outcome

def readDigest (s : String) : Outcome Digest :=
  (Digest.parse s).mapError (TransferError.digest s)

def readName {α : Type} (answer : Except Name.Rejection α) : Outcome α :=
  answer.mapError TransferError.reference

end LayerTransfer
