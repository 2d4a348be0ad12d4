import StoreTuning.Text.Printable

/-!
# Quoted text

How messages show a text value: between single quotes, or between double quotes when the text holds
a single quote and no double one. The quote in use and the backslash are escaped, as is every
character that is not shown as it is.
-/

namespace StoreTuning.Text

/-- The quote that goes around a text. -/
def quoteMark (cs : List Char) : Char :=
  if cs.contains '\'' && !cs.contains '\"' then '\"' else '\''

/-- A number in lower-case hexadecimal, padded with zeros to a width. -/
def hexPadded (width n : Nat) : List Char :=
  let digits := Nat.toDigits 16 n
  List.replicate (width - digits.length) '0' ++ digits

/-- A code point by its number, in the shortest of the three widths that holds it. -/
def escapeCode (n : Nat) : List Char :=
  if n < 0x100 then '\\' :: 'x' :: hexPadded 2 n
  else if n < 0x10000 then '\\' :: 'u' :: hexPadded 4 n
  else '\\' :: 'U' :: hexPadded 8 n

/-- A character as it stands inside quotes of a given mark. -/
def escapeChar (mark c : Char) : List Char :=
  if c = mark || c = '\\' then ['\\', c]
  else if c = '\n' then ['\\', 'n']
  else if c = '\r' then ['\\', 'r']
  else if c = '\t' then ['\\', 't']
  else if isPrintable c then [c]
  else escapeCode c.toNat

/-- A text in quotes. -/
def quoted (s : String) : String :=
  let cs := s.toList
  let mark := quoteMark cs
  String.ofList (mark :: cs.flatMap (escapeChar mark) ++ [mark])

/-- A single quote alone moves the text into double quotes. -/
example : quoted "it's" = "\"it's\"" := by decide +kernel

/-- With quotes of both kinds the single one is escaped. -/
example : quoted "'\"\n" = "'\\'\"\\n'" := by decide +kernel

end StoreTuning.Text
