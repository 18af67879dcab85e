import TodoLedger.Text.Printable

/-!
# Quoted text

The form in which messages show a path: between double quotes, with double quotes and backslashes
behind a backslash, and with characters that do not show by themselves as escapes.
-/

namespace TodoLedger.Text

/-- A number in hexadecimal, in small letters. -/
def hexadecimal (n : Nat) : String := String.ofList (Nat.toDigits 16 n)

/-- A character inside of quoted text. -/
def quotedChar (c : Char) : String :=
  if c = '"' || c = '\\' then String.ofList ['\\', c]
  else if c = '\n' then "\\n"
  else if c = '\r' then "\\r"
  else if c = '\t' then "\\t"
  else if c = '\x00' then "\\0"
  else if isPrintable c then c.toString
  else "\\u\x7b" ++ hexadecimal c.toNat ++ "\x7d"

/-- The quoted form of a text. -/
def quoted (text : String) : String :=
  "\"" ++ "".intercalate (text.toList.map quotedChar) ++ "\""

end TodoLedger.Text
