import ViewLayout.Yaml.Cursor
import ViewLayout.Yaml.Fault

/-!
# Block scalars

The text of a scalar that stands in indented lines of its own after `|` or `>`. The header may give
the indentation and say what becomes of the line breaks at the end. After `>` a single break between
two lines that start with no blank is folded to a blank.
-/

namespace ViewLayout.Yaml.Block

/-- What becomes of the line breaks at the end. -/
inductive Chomping
  | strip
  | clip
  | keep
deriving DecidableEq

/-- What a mark says about the breaks at the end. -/
def chompingOf? : Char → Option Chomping
  | '+' => some .keep
  | '-' => some .strip
  | _ => none

/-- Whether a character is an ASCII digit. -/
def isDigit (c : Char) : Bool :=
  '0' ≤ c && c ≤ '9'

/-- The chomping sign at the cursor, if there is one. -/
def takeChomping (cursor : Cursor) : Option Chomping × Cursor :=
  match chompingOf? cursor.peek with
  | some chomping => (some chomping, cursor.advance)
  | none => (none, cursor)

/-- The indentation digit at the cursor, if there is one; it may not be zero. -/
def takeIndentation (cursor : Cursor) : Except Fault (Option Nat × Cursor) :=
  let c := cursor.peek
  if isDigit c then
    if c == '0' then .error (.problem .badBlockHeader)
    else .ok (some (c.toNat - '0'.toNat), cursor.advance)
  else .ok (none, cursor)

/-- The header after its mark, up to the first line: a sign and a digit in either order, then at
most a comment. -/
def header (cursor : Cursor) : Except Fault (Chomping × Option Nat × Cursor) := do
  let (before, afterSign) := takeChomping cursor
  let (indentation, afterDigit) ← takeIndentation afterSign
  let (chomping, afterHeader) :=
    if before.isSome then (before, afterDigit)
    else if indentation.isSome then takeChomping afterDigit
    else (none, afterDigit)
  if !isGap afterHeader.peek then .error (.problem .badBlockHeader)
  else
    let lineEnd := afterHeader.skipBlanks.skipComment
    if !isBreakOrEnd lineEnd.peek then .error (.problem .badBlockHeader)
    else .ok (chomping.getD .clip, indentation, lineEnd.skipBreak)

/-- The breaks of the empty lines at the start, and the deepest column that blanks reach there. -/
def leadingLines : Nat → Nat → Cursor → List Char × Nat × Cursor
  | 0, deepest, cursor => ([], deepest, cursor)
  | fuel + 1, deepest, cursor =>
    if cursor.peek == ' ' then
      let next := cursor.advance
      leadingLines fuel (max deepest next.column) next
    else
      match cursor.takeBreak? with
      | none => ([], deepest, cursor)
      | some (lineBreak, next) =>
        let (breaks, reached, after) := leadingLines fuel deepest next
        (lineBreak :: breaks, reached, after)

/-- The cursor after blanks up to a column. -/
def skipIndentation (column : Nat) : Nat → Cursor → Cursor
  | 0, cursor => cursor
  | fuel + 1, cursor =>
    if cursor.column < column && cursor.peek == ' ' then skipIndentation column fuel cursor.advance
    else cursor

/-- The breaks of empty lines, and the cursor on the line after them behind its indentation. -/
def emptyLines (column : Nat) : Nat → Cursor → List Char × Cursor
  | 0, cursor => ([], cursor)
  | fuel + 1, cursor =>
    let start := skipIndentation column column cursor
    match start.takeBreak? with
    | none => ([], start)
    | some (lineBreak, next) =>
      let (breaks, after) := emptyLines column fuel next
      (lineBreak :: breaks, after)

/-- A break as a text. -/
def breakText (lineBreak : Option Char) : List Char :=
  lineBreak.toList

/-- What stands between two lines. -/
def join (folded opensWithText : Bool) (lineBreak : Option Char) (breaks : List Char)
    (next : Cursor) : List Char :=
  if folded && lineBreak == some '\n' && opensWithText && next.peek != ' ' && next.peek != '\t' then
    if breaks.isEmpty then [' '] else []
  else breakText lineBreak

/-- The lines from the cursor on, after the given empty ones, as long as they are indented to the
column; then the break of the last line, the empty lines after it, and the cursor there. -/
def lines (folded : Bool) (column : Nat) :
    Nat → List Char → Option Char → Cursor → List Char × Option Char × List Char × Cursor
  | 0, breaks, lineBreak, cursor => ([], lineBreak, breaks, cursor)
  | fuel + 1, breaks, lineBreak, cursor =>
    if cursor.column == column && !cursor.rest.isEmpty then
      let opensWithText := cursor.peek != ' ' && cursor.peek != '\t'
      let (text, lineEnd) := cursor.takeWhile (!isBreakOrEnd ·)
      let ending := lineEnd.takeBreak?.map Prod.fst
      let next := lineEnd.skipBreak
      let (following, start) := emptyLines column next.size next
      let between :=
        if start.column == column && !start.rest.isEmpty then
          join folded opensWithText ending following start
        else []
      let (others, lastBreak, trailing, after) := lines folded column fuel following ending start
      (breaks ++ text ++ between ++ others, lastBreak, trailing, after)
    else ([], lineBreak, breaks, cursor)

/-- The text of the block scalar at the cursor, inside a block indented to `indent`, and the
cursor after it. -/
def scan (folded : Bool) (indent : Int) (cursor : Cursor) : Except Fault (String × Cursor) := do
  let (chomping, indentation, start) ← header cursor.advance
  let least := (max (indent + 1) 1).toNat
  let (breaks, column, first) :=
    match indentation with
    | some depth =>
      let column := least + depth - 1
      let (breaks, first) := emptyLines column (start.size + 1) start
      (breaks, column, first)
    | none =>
      let (breaks, deepest, first) := leadingLines (start.size + 1) 0 start
      (breaks, max least deepest, first)
  let (content, lastBreak, trailing, after) :=
    lines folded column (first.size + 1) breaks none first
  let ending :=
    match chomping with
    | .strip => []
    | .clip => breakText lastBreak
    | .keep => breakText lastBreak ++ trailing
  .ok (String.ofList (content ++ ending), after)

end ViewLayout.Yaml.Block
