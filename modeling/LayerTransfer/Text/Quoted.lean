import LayerTransfer.Text.Printable

namespace LayerTransfer.Text.Quoted

def hexDigits (n : Nat) : List Char :=
  Nat.toDigits 16 n

/-- The form of a character inside quotes. The quote itself is escaped with a backslash, and what
has no shape of its own is written as its code point. -/
def escape (quote : Char) (c : Char) : List Char :=
  if c = '\x00' then ['\\', '0']
  else if c = '\t' then ['\\', 't']
  else if c = '\r' then ['\\', 'r']
  else if c = '\n' then ['\\', 'n']
  else if c = '\\' then ['\\', '\\']
  else if c = quote then ['\\', quote]
  else if Printable.isPrintable c then [c]
  else ['\\', 'u', '\x7b'] ++ hexDigits c.toNat ++ ['\x7d']

def quote (s : String) : String :=
  String.ofList (['"'] ++ s.toList.flatMap (escape '"') ++ ['"'])

def quoteChar (c : Char) : String :=
  String.ofList (['\''] ++ escape '\'' c ++ ['\''])

end LayerTransfer.Text.Quoted
