import Egress.Unicode.Visible

/-!
# Texts in quotation marks

A text is quoted so that it stands apart from the words around it and so that all of it can be seen:
characters that have no shape are written by their numbers.  Bytes are quoted like a text of the
first 128 characters, with a letter in front.
-/

namespace Egress

namespace Quotation

/-- A character by its number, in two hexadecimal digits if they suffice, and else in four or
eight. -/
def numbered (char : Char) : String :=
  let digits := Nat.toDigits 16 char.toNat
  let (lead, width) :=
    if char.toNat < 0x100 then ("\\x", 2)
    else if char.toNat < 0x10000 then ("\\u", 4)
    else ("\\U", 8)
  lead ++ String.ofList (List.replicate (width - digits.length) '0' ++ digits)

/-- One character between marks of a kind, if the test says that it is shown as it is. -/
def written (isShown : Char → Bool) (mark char : Char) : String :=
  if char == mark || char == '\\' then String.ofList ['\\', char]
  else if char == '\n' then "\\n"
  else if char == '\r' then "\\r"
  else if char == '\t' then "\\t"
  else if isShown char then char.toString
  else numbered char

/-- The marks around a text: single ones, unless the text holds single ones and no double ones. -/
def markFor (text : String) : Char :=
  if text.contains '\'' && !text.contains '"' then '"' else '\''

/-- A text between marks, with the characters that pass a test shown as they are. -/
def marked (isShown : Char → Bool) (text : String) : String :=
  let mark := markFor text
  mark.toString ++ String.join (text.toList.map (written isShown mark)) ++ mark.toString

end Quotation

/-- A text in quotation marks. -/
def quoted (text : String) : String := Quotation.marked Unicode.isVisible text

/-- Bytes in quotation marks. -/
def quotedBytes (bytes : List UInt8) : String :=
  let isShown := fun char : Char => decide (0x20 ≤ char.toNat) && decide (char.toNat < 0x7F)
  "b" ++ Quotation.marked isShown (String.ofList (bytes.map fun byte => Char.ofNat byte.toNat))

end Egress
