import LinkLedger.Text.Hex
import LinkLedger.Unicode.Blank
import LinkLedger.Unicode.Invisible

/-!
# Quoted text

A text between double quotes, written so that every character of it can be seen: quotes,
backslashes, tabs, line ends and the null character have escapes of their own, and any other
character that does not show is written by its number between braces. Error messages quote urls
this way.
-/

set_option autoImplicit false

namespace LinkLedger.Text

open LinkLedger.Unicode

/-- A character by its number: `\u`, then the number in lower-case hexadecimal between braces. -/
def numberEscape (c : Char) : List Char := ['\\', 'u', '{'] ++ lowerHex c.toNat ++ ['}']

/-- How a character is written between quotes. -/
def quotedChar (c : Char) : List Char :=
  if c = '"' then ['\\', '"']
  else if c = '\\' then ['\\', '\\']
  else if c = '\n' then ['\\', 'n']
  else if c = '\r' then ['\\', 'r']
  else if c = '\t' then ['\\', 't']
  else if c = '\x00' then ['\\', '0']
  else if isControl c || isInvisible c then numberEscape c
  else [c]

def quoted (text : String) : String :=
  String.ofList ('"' :: text.toList.flatMap quotedChar ++ ['"'])

end LinkLedger.Text
