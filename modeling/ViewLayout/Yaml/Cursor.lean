import ViewLayout.Text.Surrogate

/-!
# Cursors in YAML texts

A cursor is the text that is still to be read together with where that text starts: its index, its
line and its column. It knows the size of the whole text, which bounds every walk through the rest.
Past the end of a text stands `endMark`, which no text holds.
-/

namespace ViewLayout.Yaml

/-- What is read past the end of a text. -/
def endMark : Char := '\x00'

/-- The byte order mark, which takes no column. -/
def byteOrderMark : Char := '\ufeff'

/-- Whether the character ends a line. -/
def isBreak (c : Char) : Bool :=
  c == '\n' || c == '\r' || c == '\u0085' || c == '\u2028' || c == '\u2029'

/-- Whether the character ends a line or the text. -/
def isBreakOrEnd (c : Char) : Bool :=
  c == endMark || isBreak c

/-- Whether the character is a blank or ends a line or the text. -/
def isGap (c : Char) : Bool :=
  c == ' ' || isBreakOrEnd c

/-- Whether the character is a blank, a tab, or ends a line or the text. -/
def isGapOrTab (c : Char) : Bool :=
  c == '\t' || isGap c

/-- Whether a code point may stand in a YAML text. -/
def isAllowed (point : Nat) : Bool :=
  point == 0x09 || point == 0x0a || point == 0x0d || (0x20 ≤ point && point ≤ 0x7e) ||
    point == 0x85 || (0xa0 ≤ point && point ≤ 0xd7ff) || (0xe000 ≤ point && point ≤ 0xfffd) ||
    0x10000 ≤ point

/-- A place in a text: what is still to be read, and where that starts. -/
structure Cursor where
  rest : List Char
  /-- How many characters the whole text has. -/
  size : Nat
  index : Nat := 0
  line : Nat := 0
  column : Nat := 0

namespace Cursor

/-- The cursor at the start of a text. -/
def ofText (text : List Char) : Cursor where
  rest := text
  size := text.length

/-- The character some places on, or the mark of the end. -/
def peekAt (cursor : Cursor) (distance : Nat) : Char :=
  (cursor.rest[distance]?).getD endMark

/-- The next character, or the mark of the end. -/
def peek (cursor : Cursor) : Char :=
  cursor.rest.headD endMark

/-- The cursor after one character. A line ends after its break, where a carriage return and a line
feed are one break. The mark before a stand-in is no character of its own. -/
def advance (cursor : Cursor) : Cursor :=
  match cursor.rest with
  | [] => cursor
  | c :: rest =>
    if isBreak c && !(c == '\r' && rest.head? == some '\n') then
      { cursor with rest, index := cursor.index + 1, line := cursor.line + 1, column := 0 }
    else if c == Text.standInMark then { cursor with rest }
    else if c == byteOrderMark then { cursor with rest, index := cursor.index + 1 }
    else { cursor with rest, index := cursor.index + 1, column := cursor.column + 1 }

/-- The cursor after several characters. -/
def skip (cursor : Cursor) : Nat → Cursor
  | 0 => cursor
  | count + 1 => cursor.advance.skip count

/-- The characters from the cursor on that satisfy the predicate, and the cursor after them. -/
def takeWhile (cursor : Cursor) (p : Char → Bool) : List Char × Cursor :=
  let run := cursor.rest.takeWhile p
  (run, cursor.skip run.length)

/-- The cursor after the characters that satisfy the predicate. -/
def skipWhile (cursor : Cursor) (p : Char → Bool) : Cursor :=
  (cursor.takeWhile p).2

/-- The cursor after the blanks that follow. -/
def skipBlanks (cursor : Cursor) : Cursor :=
  cursor.skipWhile (· == ' ')

/-- The cursor after a comment, if one starts here. -/
def skipComment (cursor : Cursor) : Cursor :=
  if cursor.peek == '#' then cursor.skipWhile (!isBreakOrEnd ·) else cursor

/-- What a line break at the cursor reads as, and the cursor after it. -/
def takeBreak? (cursor : Cursor) : Option (Char × Cursor) :=
  let c := cursor.peek
  if c == '\r' && cursor.peekAt 1 == '\n' then some ('\n', cursor.skip 2)
  else if c == '\u2028' || c == '\u2029' then some (c, cursor.advance)
  else if isBreak c then some ('\n', cursor.advance)
  else none

/-- The cursor after a line break, if one is here. -/
def skipBreak (cursor : Cursor) : Cursor :=
  (cursor.takeBreak?.map Prod.snd).getD cursor

/-- Whether the three characters at the cursor are the given one, and a gap follows them. -/
def atTriple (cursor : Cursor) (c : Char) : Bool :=
  cursor.peek == c && cursor.peekAt 1 == c && cursor.peekAt 2 == c && isGapOrTab (cursor.peekAt 3)

/-- Whether a mark that starts or ends a document is here. -/
def atDocumentMark (cursor : Cursor) : Bool :=
  cursor.atTriple '-' || cursor.atTriple '.'

end Cursor

end ViewLayout.Yaml
