import ViewLayout.Yaml.Cursor

/-!
# Plain scalars

The text of a scalar without quotes. It ends before a comment, before a colon that a gap follows, in
a flow collection before the marks of the collection, and in a block where a line is not indented
deeper than the block. Line breaks inside are folded.
-/

namespace ViewLayout.Yaml.Plain

/-- Whether a colon before the character ends a plain scalar. -/
def endsAfterColon (inFlow : Bool) (next : Char) : Bool :=
  isGapOrTab next || (inFlow && [',', '[', ']', '{', '}'].contains next)

/-- The characters of a plain scalar at the start of a text, up to a gap. -/
def word (inFlow : Bool) : List Char → List Char
  | [] => []
  | c :: rest =>
    if isGapOrTab c || (c == ':' && endsAfterColon inFlow (rest.headD endMark)) ||
        (inFlow && [',', '?', '[', ']', '{', '}'].contains c) then []
    else c :: word inFlow rest

/-- The breaks of lines that hold blanks alone, and the cursor after the blanks that follow; none if
the mark of a document starts a line. -/
def emptyLines : Nat → Cursor → Option (List Char) × Cursor
  | 0, cursor => (some [], cursor)
  | fuel + 1, cursor =>
    let start := cursor.skipBlanks
    match start.takeBreak? with
    | none => (some [], start)
    | some (lineBreak, next) =>
      if next.atDocumentMark then (none, next)
      else
        let (breaks?, after) := emptyLines fuel next
        (breaks?.map (lineBreak :: ·), after)

/-- The gap after a word: what it reads as, empty if the scalar ends with it; whether a line was
left; and the cursor after the gap. -/
def gap (cursor : Cursor) : List Char × Bool × Cursor :=
  let (blanks, after) := cursor.takeWhile (· == ' ')
  match after.takeBreak? with
  | none => (blanks, false, after)
  | some (lineBreak, next) =>
    if next.atDocumentMark then ([], true, next)
    else
      match emptyLines (next.size + 1) next with
      | (none, last) => ([], true, last)
      | (some breaks, last) =>
        if lineBreak != '\n' then (lineBreak :: breaks, true, last)
        else if breaks.isEmpty then ([' '], true, last)
        else (breaks, true, last)

/-- The words from the cursor on with the gaps between them, whether a line was left after the last
word, and the cursor after its gap. -/
def words (inFlow : Bool) (indent : Int) :
    Nat → List Char → Bool → Cursor → List Char × Bool × Cursor
  | 0, _, leftLine, cursor => ([], leftLine, cursor)
  | fuel + 1, before, leftLine, cursor =>
    let text := if cursor.peek == '#' then [] else word inFlow cursor.rest
    if text.isEmpty then ([], leftLine, cursor)
    else
      let (following, left, next) := gap (cursor.skip text.length)
      if following.isEmpty || next.peek == '#' || (!inFlow && (next.column : Int) < indent) then
        (before ++ text, left, next)
      else
        let (others, leftLast, after) := words inFlow indent fuel following left next
        (before ++ text ++ others, leftLast, after)

/-- The text of the plain scalar at the cursor, inside a block indented to `indent`, whether it
ends with its line, and the cursor after it. -/
def scan (inFlow : Bool) (indent : Int) (cursor : Cursor) : String × Bool × Cursor :=
  let (text, leftLine, after) :=
    words inFlow (indent + 1) (cursor.size + 1) [] false cursor
  (String.ofList text, leftLine, after)

end ViewLayout.Yaml.Plain
