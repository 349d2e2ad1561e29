import Leasehold.Text.PrintTable

/-!
# Quoted text

`quoted` writes a text between double quotes and `quotedChar` a character between single quotes.
The quote itself, the backslash and the common control characters have short escapes; characters
that do not print, and marks that extend the character before them, are written by number.
-/

namespace Leasehold.Text

/-- The characters beyond ASCII that do not print. -/
def unprintableTable : Ranges := .ofRows unprintableRows

/-- The characters that extend the one before them. -/
def extendingTable : Ranges := .ofRows extendingRows

/-- Whether a character is shown as itself. -/
def isShown (c : Char) : Bool :=
  if c.toNat < 128 then 0x20 ≤ c.toNat && c.toNat < 0x7F
  else !(extendingTable.contains c || unprintableTable.contains c)

/-- A character written by its number. -/
def byNumber (c : Char) : List Char := ['\\', 'u', '\x7b'] ++ toHex c.toNat ++ ['\x7d']

/-- A character as it stands between two quotes `quote`. -/
def escaped (quote : Char) (c : Char) : List Char :=
  if c = '\x00' then ['\\', '0']
  else if c = '\t' then ['\\', 't']
  else if c = '\r' then ['\\', 'r']
  else if c = '\n' then ['\\', 'n']
  else if c = quote || c = '\\' then ['\\', c]
  else if isShown c then [c]
  else byNumber c

/-- A text between double quotes. -/
def quoted (s : String) : String :=
  String.ofList ('"' :: s.toList.flatMap (escaped '"') ++ ['"'])

/-- A character between single quotes. -/
def quotedChar (c : Char) : String :=
  String.ofList ('\'' :: escaped '\'' c ++ ['\''])

end Leasehold.Text
