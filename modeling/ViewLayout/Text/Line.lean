/-!
# Lines

The lines of a text, which end at the line boundaries of Unicode and at the separators of files,
groups and records. A carriage return and a line feed after it are one boundary, and there is no
empty line behind the last one.
-/

namespace ViewLayout.Text

/-- Whether a character ends a line. -/
def isLineEnd (c : Char) : Bool :=
  [0x0a, 0x0b, 0x0c, 0x0d, 0x1c, 0x1d, 0x1e, 0x85, 0x2028, 0x2029].contains c.toNat

/-- The lines of a text, where the first one continues a line that is given in reverse. -/
def linesFrom (line : List Char) : List Char → List String
  | [] => if line.isEmpty then [] else [String.ofList line.reverse]
  | '\r' :: '\n' :: rest => String.ofList line.reverse :: linesFrom [] rest
  | c :: rest =>
    if isLineEnd c then String.ofList line.reverse :: linesFrom [] rest
    else linesFrom (c :: line) rest

/-- The lines of a text. -/
def lines (text : String) : List String :=
  linesFrom [] text.toList

end ViewLayout.Text
