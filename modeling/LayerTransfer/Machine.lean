import LayerTransfer.Archive.Entry

namespace LayerTransfer

/-- The error with which a file cannot be created, what files hold before a run, the time that the
run has taken, and how archives are written there. -/
structure Machine where
  createFault : String → Option String
  held : String → Bytes := fun _ => []
  elapsedMillis : Nat := 0
  recordOrder : Archive.RecordOrder := .checkFirst

namespace Machine

def truncated (m : Machine) (path : String) (n : Nat) : Bytes := (m.held path).take n

def maxName : Nat := 255

def noSuchFile : String := "No such file or directory (os error 2)"
def isDirectory : String := "Is a directory (os error 21)"
def nameTooLong : String := "File name too long (os error 36)"

def isStep (part : List Char) : Bool :=
  part == [] || part == ".".toList || part == "..".toList

def tooLong (part : List Char) : Bool :=
  maxName < (String.ofList part).utf8ByteSize

def partsFault : List (List Char) → Option String
  | [] => some noSuchFile
  | [p] => if isStep p then some isDirectory else if tooLong p then some nameTooLong else none
  | p :: r =>
    if isStep p then partsFault r
    else if tooLong p then some nameTooLong
    else if r.all (· = []) then some isDirectory
    else some noSuchFile

/-- A machine whose working directory is empty: only files directly in it can be created. -/
def emptyDirectory : Machine where
  createFault path :=
    if path = "" then some noSuchFile else partsFault (Text.Cut.pieces '/' path.toList)

end Machine

end LayerTransfer
