import VulnScan.Text.Printable
import VulnScan.Text.Hexadecimal

/-!
# Texts quoted in messages

A message that cites a text (a path, a JSON string of the wrong type) puts it between double
quotes. The quote and the backslash are escaped by a backslash, the usual control characters by a
letter, and every other character that is not printable by its code point in braces.
-/

set_option autoImplicit false

namespace VulnScan.Text

/-- How one character is shown inside quotes. -/
def quotedChar (c : Char) : List Char :=
  if c = '"' ∨ c = '\\' then ['\\', c]
  else if c = '\n' then ['\\', 'n']
  else if c = '\r' then ['\\', 'r']
  else if c = '\t' then ['\\', 't']
  else if c.toNat = 0 then ['\\', '0']
  else if isPrintable c then [c]
  else ['\\', 'u', '\x7b'] ++ hexDigits c.toNat ++ ['\x7d']

/-- The text between double quotes, with escapes. -/
def quoted (s : String) : String :=
  String.ofList (['"'] ++ s.toList.flatMap quotedChar ++ ['"'])

end VulnScan.Text
