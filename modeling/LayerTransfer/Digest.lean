import LayerTransfer.Bytes
import LayerTransfer.Text.Cut
import LayerTransfer.Text.Quoted

namespace LayerTransfer

inductive Algorithm
  | sha256
  | sha512
deriving DecidableEq, Repr

namespace Algorithm

def name : Algorithm → String
  | sha256 => "sha256"
  | sha512 => "sha512"

def width : Algorithm → Nat
  | sha256 => 64
  | sha512 => 128

def ofName? (s : String) : Option Algorithm :=
  if s = "sha256" then some sha256 else if s = "sha512" then some sha512 else none

theorem name_of_ofName? {s : String} {a : Algorithm} (h : ofName? s = some a) : a.name = s := by
  unfold ofName? at h
  split at h
  next hs =>
    cases h
    exact hs.symm
  next =>
    split at h <;> cases h
    next hs => exact hs.symm

end Algorithm

def isHexDigit (c : Char) : Bool :=
  ('0' ≤ c && c ≤ '9') || ('a' ≤ c && c ≤ 'f')

def Algorithm.accepts (a : Algorithm) (cs : List Char) : Bool :=
  cs.length == a.width && cs.all isHexDigit

/-- An algorithm and as many lower-case hexadecimal digits as it yields. A digest is read and
compared, never computed from content. -/
structure Digest where
  algorithm : Algorithm
  hex : String
  hex_valid : algorithm.accepts hex.toList = true
deriving DecidableEq, Repr

namespace Digest

inductive Fault
  | separator
  | missingAlgorithm
  | unsupportedAlgorithm
  | uppercase
  | oddLength
  | character (octet : UInt8) (position : Nat)
  | length (expected found : Nat)
deriving DecidableEq, Repr

def Fault.message : Fault → String
  | separator => "expected algorithm:hex"
  | missingAlgorithm => "missing algorithm"
  | unsupportedAlgorithm => "unsupported algorithm"
  | uppercase => "hex must be lowercase"
  | oddLength => "Odd number of digits"
  | character octet position =>
    "Invalid character " ++ Text.Quoted.quoteChar (Char.ofNat octet.toNat) ++ " at position " ++
      toString position
  | length expected found =>
    "expected " ++ toString expected ++ " hex characters, got " ++ toString found

def firstStray : Nat → Bytes → Option (UInt8 × Nat)
  | _, [] => none
  | i, b :: r =>
    if isHexDigit (Char.ofNat b.toNat) then firstStray (i + 1) r else some (b, i)

def hexFault (a : Algorithm) (cs : List Char) : Fault :=
  let octets := Bytes.ofText (String.ofList cs)
  if cs.any Char.isUpper then .uppercase
  else if octets.length % 2 = 1 then .oddLength
  else
    match firstStray 0 octets with
    | some (b, i) => .character b i
    | none => .length a.width octets.length

def parse (s : String) : Except Fault Digest :=
  match Text.Cut.atFirst ':' s.toList with
  | none => .error .separator
  | some (name, hex) =>
    match Algorithm.ofName? (String.ofList name) with
    | none => .error (if name.isEmpty then .missingAlgorithm else .unsupportedAlgorithm)
    | some a =>
      if h : a.accepts hex = true then
        .ok ⟨a, String.ofList hex, by rw [String.toList_ofList]; exact h⟩
      else .error (hexFault a hex)

def text (d : Digest) : String :=
  d.algorithm.name ++ ":" ++ d.hex

theorem toList_text (d : Digest) : d.text.toList = d.algorithm.name.toList ++ ':' :: d.hex.toList := by
  simp [text]

theorem parse_text (d : Digest) : parse d.text = .ok d := by
  have hcolon : ':' ∉ d.algorithm.name.toList := by cases d.algorithm <;> decide
  have hname : Algorithm.ofName? (String.ofList d.algorithm.name.toList) = some d.algorithm := by
    cases d.algorithm <;> decide
  unfold parse
  rw [toList_text, Text.Cut.atFirst_append _ hcolon]
  simp only [hname]
  rw [dif_pos d.hex_valid]
  simp

theorem text_of_parse {s : String} {d : Digest} (h : parse s = .ok d) : d.text = s := by
  unfold parse at h
  split at h
  · cases h
  next name hex hcut =>
    obtain ⟨hs, -⟩ := Text.Cut.eq_of_atFirst hcut
    split at h
    · cases h
    next a ha =>
      split at h <;> cases h
      rw [← String.toList_inj, toList_text, String.toList_ofList, Algorithm.name_of_ofName? ha,
        String.toList_ofList, hs]

def short (d : Digest) : String :=
  d.algorithm.name ++ ":" ++ String.ofList (d.hex.toList.take 12)

/-- The order of digests: by algorithm name, then by digits. -/
instance : Ord Digest where
  compare a b := (compare a.algorithm.name b.algorithm.name).then (compare a.hex b.hex)

def sorted (ds : List Digest) : List Digest :=
  let rec once : List Digest → List Digest
    | a :: b :: r => if a = b then once (b :: r) else a :: once (b :: r)
    | ds => ds
  once (ds.mergeSort (fun a b => (compare a b).isLE))

end Digest

end LayerTransfer
