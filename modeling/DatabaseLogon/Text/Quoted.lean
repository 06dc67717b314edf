import DatabaseLogon.Text.Printable

namespace DatabaseLogon.Text

/-!
# Quoted text

A text or a character between quotes, such that what cannot be seen is escaped: NUL, tabulator, line
ends, the backslash and the enclosing quote by a letter or themselves, characters that have no
printed form or would be drawn on the quote by their number.
-/

/-- The quote around a text. -/
def doubleQuote : Char := '\x22'

/-- The quote around a character. -/
def singleQuote : Char := '\x27'

/-- The digits of a number in lower-case hexadecimal. -/
def hexadecimal (n : Nat) : List Char :=
  Nat.toDigits 16 n

/-- A character by its number, `\u` and the number in braces. -/
def numbered (c : Char) : List Char :=
  '\\' :: 'u' :: '\x7b' :: hexadecimal c.toNat ++ ['\x7d']

/-- A character as it is written between two of the given quotes. -/
def escapeWithin (quote c : Char) : List Char :=
  if c = '\x00' then ['\\', '0']
  else if c = '\t' then ['\\', 't']
  else if c = '\r' then ['\\', 'r']
  else if c = '\n' then ['\\', 'n']
  else if c = '\\' ∨ c = quote then ['\\', c]
  else if extendsGrapheme c || !isPrintable c then numbered c
  else [c]

/-- A text in double quotes. -/
def quoted (s : String) : String :=
  String.ofList (doubleQuote :: s.toList.flatMap (escapeWithin doubleQuote) ++ [doubleQuote])

/-- A character in single quotes. -/
def quotedChar (c : Char) : String :=
  String.ofList (singleQuote :: escapeWithin singleQuote c ++ [singleQuote])

end DatabaseLogon.Text
