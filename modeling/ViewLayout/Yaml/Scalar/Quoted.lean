import ViewLayout.Text.Digit
import ViewLayout.Yaml.Cursor
import ViewLayout.Yaml.Fault

/-!
# Quoted scalars

The text of a scalar between single or double quotes. A line break inside is folded: alone it is a
blank, and of several the first is dropped. Double quotes allow escapes, single quotes write a
single quote twice.
-/

namespace ViewLayout.Yaml.Quoted

/-- The character that a letter behind a backslash stands for. -/
def escaped? : Char → Option Char
  | '0' => some '\x00'
  | 'a' => some '\x07'
  | 'b' => some '\x08'
  | 't' => some '\t'
  | '\t' => some '\t'
  | 'n' => some '\n'
  | 'v' => some '\x0b'
  | 'f' => some '\x0c'
  | 'r' => some '\r'
  | 'e' => some '\x1b'
  | ' ' => some ' '
  | '"' => some '"'
  | '\\' => some '\\'
  | '/' => some '/'
  | 'N' => some '\u0085'
  | '_' => some '\u00a0'
  | 'L' => some '\u2028'
  | 'P' => some '\u2029'
  | _ => none

/-- How many hexadecimal digits follow an escaped letter. -/
def escapeWidth? : Char → Option Nat
  | 'x' => some 2
  | 'u' => some 4
  | 'U' => some 8
  | _ => none

/-- The characters that keep a code point, if there is such a point. -/
def charsOf (code : Nat) : Except Fault (List Char) :=
  if code < 0x110000 then .ok (Text.ofCodePoint code)
  else if code < 0x80000000 then .error (.unreadable .noSuchCharacter)
  else .error (.unreadable .characterTooLarge)

/-- The number that hexadecimal digits from the cursor on write. -/
def codeAt? (cursor : Cursor) (width : Nat) : Option Nat := do
  let digits ← (cursor.rest.take width).mapM Text.hexValue?
  if digits.length < width then none else some (Text.ofDigits 16 digits)

/-- Empty lines: their breaks, after blanks and tabs. The mark of a document may not start one. -/
def emptyLines : Nat → Cursor → Except Fault (List Char × Cursor)
  | 0, cursor => .ok ([], cursor)
  | fuel + 1, cursor =>
    if cursor.atDocumentMark then .error (.problem .documentMarkInQuote)
    else
      let start := cursor.skipWhile fun c => c == ' ' || c == '\t'
      match start.takeBreak? with
      | none => .ok ([], start)
      | some (lineBreak, next) => do
        let (breaks, after) ← emptyLines fuel next
        .ok (lineBreak :: breaks, after)

/-- Blanks and breaks between the words of a scalar, folded. -/
def spaces (cursor : Cursor) : Except Fault (List Char × Cursor) :=
  let (blanks, after) := cursor.takeWhile fun c => c == ' ' || c == '\t'
  if after.rest.isEmpty then .error (.problem .openQuote)
  else
    match after.takeBreak? with
    | none => .ok (blanks, after)
    | some (lineBreak, next) => do
      let (breaks, last) ← emptyLines next.size next
      if lineBreak != '\n' then .ok (lineBreak :: breaks, last)
      else if breaks.isEmpty then .ok ([' '], last)
      else .ok (breaks, last)

/-- What a backslash and the characters after it stand for. -/
def escape (cursor : Cursor) : Except Fault (List Char × Cursor) :=
  let c := cursor.peek
  match escaped? c with
  | some char => .ok ([char], cursor.advance)
  | none =>
    match escapeWidth? c with
    | some width =>
      let start := cursor.advance
      match codeAt? start width with
      | none => .error (.problem .badEscape)
      | some code => do
        let chars ← charsOf code
        .ok (chars, start.skip width)
    | none =>
      match cursor.takeBreak? with
      | some (_, next) => emptyLines next.size next
      | none => .error (.problem .badEscape)

/-- The characters up to the next blank, break or closing quote. -/
def word (double : Bool) : Nat → Cursor → Except Fault (List Char × Cursor)
  | 0, cursor => .ok ([], cursor)
  | fuel + 1, cursor =>
    let c := cursor.peek
    if cursor.rest.isEmpty || isGapOrTab c then .ok ([], cursor)
    else if !double && c == '\'' && cursor.peekAt 1 == '\'' then do
      let (chars, after) ← word double fuel (cursor.skip 2)
      .ok ('\'' :: chars, after)
    else if c == (if double then '"' else '\'') then .ok ([], cursor)
    else if double && c == '\\' then do
      let (piece, next) ← escape cursor.advance
      let (chars, after) ← word double fuel next
      .ok (piece ++ chars, after)
    else do
      let (chars, after) ← word double fuel cursor.advance
      .ok (c :: chars, after)

/-- Words and the spaces between them, up to the closing quote. -/
def content (double : Bool) : Nat → Cursor → Except Fault (List Char × Cursor)
  | 0, _ => .error (.problem .openQuote)
  | fuel + 1, cursor => do
    let (chars, after) ← word double cursor.size cursor
    if after.peek == (if double then '"' else '\'') then .ok (chars, after.advance)
    else
      let (gap, next) ← spaces after
      let (others, last) ← content double fuel next
      .ok (chars ++ gap ++ others, last)

/-- The text of the quoted scalar at the cursor, and the cursor after it. -/
def scan (double : Bool) (cursor : Cursor) : Except Fault (String × Cursor) := do
  let (chars, after) ← content double (cursor.size + 1) cursor.advance
  .ok (String.ofList chars, after)

end ViewLayout.Yaml.Quoted
