import FleetExporter.Text.Printable

/-! Quoted text as it stands in messages: between double quotes, with a backslash before a quote
or a backslash, letters for the usual controls, and a hexadecimal code point for every other
character that has no visible form or would merge with the one before it. -/
namespace FleetExporter.Text

def hexadecimal (n : Nat) : List Char := Nat.toDigits 16 n

/-- The written form of one character inside the quotes. -/
def quotedChar (c : Char) : List Char :=
  if c = '"' then ['\\', '"']
  else if c = '\\' then ['\\', '\\']
  else if c = '\n' then ['\\', 'n']
  else if c = '\r' then ['\\', 'r']
  else if c = '\t' then ['\\', 't']
  else if c = Char.ofNat 0 then ['\\', '0']
  else if extendsGrapheme c || isHidden c then
    ['\\', 'u', '\x7b'] ++ hexadecimal c.toNat ++ ['\x7d']
  else [c]

def quotedChars (s : List Char) : List Char := '"' :: s.flatMap quotedChar ++ ['"']

def quoted (s : String) : String := String.ofList (quotedChars s.toList)

end FleetExporter.Text
