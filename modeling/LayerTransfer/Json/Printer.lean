import LayerTransfer.Bytes

namespace LayerTransfer.Json

def escapeOctet (b : UInt8) : Bytes :=
  if b = 0x22 then [0x5c, 0x22]
  else if b = 0x5c then [0x5c, 0x5c]
  else if b = 0x08 then [0x5c, 0x62]
  else if b = 0x0c then [0x5c, 0x66]
  else if b = 0x0a then [0x5c, 0x6e]
  else if b = 0x0d then [0x5c, 0x72]
  else if b = 0x09 then [0x5c, 0x74]
  else if b < 0x20 then Bytes.ofText "\\u00" ++ Bytes.ofText (String.ofList (Bytes.hexByte b))
  else [b]

def printText (s : String) : Bytes :=
  0x22 :: (Bytes.ofText s).flatMap escapeOctet ++ [0x22]

def printNatural (n : Nat) : Bytes :=
  Bytes.ofText (toString n)

def printSeparated : List Bytes → Bytes
  | [] => []
  | [b] => b
  | b :: r => b ++ 0x2c :: printSeparated r

def printList (items : List Bytes) : Bytes :=
  0x5b :: printSeparated items ++ [0x5d]

def printObject (members : List (String × Bytes)) : Bytes :=
  0x7b :: printSeparated (members.map fun m => printText m.1 ++ 0x3a :: m.2) ++ [0x7d]

end LayerTransfer.Json
