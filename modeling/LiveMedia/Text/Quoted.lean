import LiveMedia.Text.Hidden

set_option autoImplicit false

/-!
# Quoted text

Text in a description stands between double quotes. Quotes, backslashes and line breaks in it are
escaped by a backslash, characters that are not shown by themselves by their number.

## Main definitions

* `LiveMedia.Text.quote` — a text between quotes.
-/

namespace LiveMedia.Text

/-- A number in lower-case hexadecimal digits. -/
def hexNumber (n : Nat) : List Char :=
  Nat.toDigits 16 n

/-- How a character is written between quotes. -/
def escapeChar (c : Char) : List Char :=
  if c = '\x00' then ['\\', '0']
  else if c = '\t' then ['\\', 't']
  else if c = '\n' then ['\\', 'n']
  else if c = '\r' then ['\\', 'r']
  else if c = '\\' ∨ c = '\"' then ['\\', c]
  else if isHidden c then ['\\', 'u', '\x7b'] ++ hexNumber c.toNat ++ ['\x7d']
  else [c]

/-- A text between double quotes. -/
def quote (s : String) : String :=
  String.ofList (['\"'] ++ s.toList.flatMap escapeChar ++ ['\"'])

end LiveMedia.Text
