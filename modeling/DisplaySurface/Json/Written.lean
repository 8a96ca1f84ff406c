import DisplaySurface.Text.Basic

/-!
Writing JSON text without blanks.
-/

namespace DisplaySurface.Json

def writeChar (c : Char) : List Char :=
  if c = '"' then ['\\', '"']
  else if c = '\\' then ['\\', '\\']
  else if c = '\x08' then ['\\', 'b']
  else if c = '\x0c' then ['\\', 'f']
  else if c = '\n' then ['\\', 'n']
  else if c = '\r' then ['\\', 'r']
  else if c = '\t' then ['\\', 't']
  else if c.toNat < 0x20 then
    ['\\', 'u', '0', '0', Nat.digitChar (c.toNat / 16), Nat.digitChar (c.toNat % 16)]
  else [c]

def writeString (s : String) : List Char :=
  '"' :: s.toList.flatMap writeChar ++ ['"']

def writeNat (n : Nat) : List Char :=
  Text.writeDigits 10 n

def writeOption {α : Type} (write : α → List Char) : Option α → List Char
  | none => ['n', 'u', 'l', 'l']
  | some a => write a

def writeMembers : List (String × List Char) → List Char
  | [] => []
  | [(key, value)] => writeString key ++ ':' :: value
  | (key, value) :: rest => writeString key ++ ':' :: value ++ ',' :: writeMembers rest

def writeObject (members : List (String × List Char)) : List Char :=
  '\x7b' :: writeMembers members ++ ['\x7d']

end DisplaySurface.Json
