import ViewLayout.Text.Printable
import ViewLayout.Text.Surrogate

/-!
# Quoted texts

Texts as messages quote them: between single quotes, or double quotes if that saves escaping. The
mark, backslashes and line characters are escaped with a backslash, and every character that is not
printable by its code point.
-/

namespace ViewLayout.Text

/-- The lower-case hexadecimal digits of a number, filled up with zeros to the given width. -/
def hexDigits (width n : Nat) : List Char :=
  let digits := Nat.toDigits 16 n
  List.replicate (width - digits.length) '0' ++ digits

/-- The quote mark for a text: a double one only if the text holds single ones and no double one. -/
def quoteMark (text : List Char) : Char :=
  if text.contains '\'' && !text.contains '"' then '"' else '\''

/-- How a code point stands in a quoted text. -/
def quotePoint (mark : Char) (point : Nat) : List Char :=
  if point = mark.toNat ∨ point = '\\'.toNat then ['\\', Char.ofNat point]
  else if point = '\n'.toNat then ['\\', 'n']
  else if point = '\r'.toNat then ['\\', 'r']
  else if point = '\t'.toNat then ['\\', 't']
  else if isPrintable point then [Char.ofNat point]
  else if point < 0x100 then '\\' :: 'x' :: hexDigits 2 point
  else if point < 0x10000 then '\\' :: 'u' :: hexDigits 4 point
  else '\\' :: 'U' :: hexDigits 8 point

/-- A text between quotation marks, with escapes for what cannot be printed. -/
def quote (text : String) : String :=
  let mark := quoteMark text.toList
  String.ofList (mark :: ((codePoints text.toList).flatMap (quotePoint mark) ++ [mark]))

end ViewLayout.Text
