import ViewLayout.Number.Numeral
import ViewLayout.Text.Digit
import ViewLayout.Yaml.Cursor
import ViewLayout.Yaml.Token

/-!
# Anchors, tags and directives

The tokens that stand before a node or before a document: anchors and aliases by name, tags with a
handle and a suffix, and the directives that fix the version and explain tag handles.
-/

namespace ViewLayout.Yaml

/-- Whether a character may stand in the name of an anchor, an alias or a handle. -/
def isNameChar (c : Char) : Bool :=
  ('0' ≤ c && c ≤ '9') || ('A' ≤ c && c ≤ 'Z') || ('a' ≤ c && c ≤ 'z') || c == '-' || c == '_'

/-- Whether the character may stand in the suffix of a tag. -/
def isTagChar (c : Char) : Bool :=
  isNameChar c ||
    [';', '/', '?', ':', '@', '&', '=', '+', '$', ',', '.', '!', '~', '*', '\'', '(', ')', '[', ']',
      '%'].contains c

/-- The name of an anchor or alias, after its mark. -/
def scanName (cursor : Cursor) : Except Fault (String × Cursor) :=
  let (name, after) := cursor.advance.takeWhile isNameChar
  let next := after.peek
  if name.isEmpty then .error (.problem .badAnchorName)
  else if isGapOrTab next || ['?', ':', ',', ']', '}', '%', '@', '`'].contains next then
    .ok (String.ofList name, after)
  else .error (.problem .badAnchorName)

/-- The bytes that percent escapes write from the cursor on. -/
def takeEscapes : Nat → Cursor → Except Fault (List UInt8 × Cursor)
  | 0, cursor => .ok ([], cursor)
  | fuel + 1, cursor =>
    if cursor.peek == '%' then
      match Text.hexValue? (cursor.peekAt 1), Text.hexValue? (cursor.peekAt 2) with
      | some high, some low => do
        let (bytes, after) ← takeEscapes fuel (cursor.skip 3)
        .ok (UInt8.ofNat (16 * high + low) :: bytes, after)
      | _, _ => .error (.problem .badTag)
    else .ok ([], cursor)

/-- The suffix of a tag, with its percent escapes read as bytes of UTF-8. -/
def takeSuffix : Nat → Cursor → Except Fault (List Char × Cursor)
  | 0, cursor => .ok ([], cursor)
  | fuel + 1, cursor =>
    let c := cursor.peek
    if c == '%' then do
      let (bytes, next) ← takeEscapes cursor.size cursor
      match String.fromUTF8? (ByteArray.mk bytes.toArray) with
      | none => .error (.problem .badTag)
      | some decoded =>
        let (chars, after) ← takeSuffix fuel next
        .ok ((Text.ofPlain decoded).toList ++ chars, after)
    else if isTagChar c then do
      let (chars, after) ← takeSuffix fuel cursor.advance
      .ok (c :: chars, after)
    else .ok ([], cursor)

/-- The suffix of a tag, which may not be empty. -/
def scanSuffix (cursor : Cursor) : Except Fault (String × Cursor) := do
  let (chars, after) ← takeSuffix cursor.size cursor
  if after.index == cursor.index then .error (.problem .badTag)
  else .ok (String.ofList chars, after)

/-- The handle of a tag: an exclamation mark alone, or a name between two of them. -/
def scanHandle (cursor : Cursor) : Except Fault (String × Cursor) :=
  if cursor.peek != '!' then .error (.problem .badTag)
  else
    let (name, after) := cursor.advance.takeWhile isNameChar
    if cursor.peekAt 1 == ' ' then .ok ("!", cursor.advance)
    else if after.peek == '!' then
      .ok (String.ofList ('!' :: (name ++ ['!'])), after.advance)
    else .error (.problem .badTag)

/-- The tag at the cursor, after which a gap has to come. -/
def scanTag (cursor : Cursor) : Except Fault (Token × Cursor) := do
  let next := cursor.peekAt 1
  let (handle, suffix, after) ←
    if next == '<' then do
      let (suffix, after) ← scanSuffix (cursor.skip 2)
      if after.peek == '>' then .ok (none, suffix, after.advance)
      else .error (.problem .badTag)
    else if isGapOrTab next then .ok (none, "!", cursor.advance)
    else
      let named := ((cursor.rest.drop 1).takeWhile (!isGap ·)).contains '!'
      let (handle, start) ← if named then scanHandle cursor else .ok ("!", cursor.advance)
      let (suffix, after) ← scanSuffix start
      .ok (some handle, suffix, after)
  if isGap after.peek then .ok (.tag handle suffix, after) else .error (.problem .badTag)

/-- One number of a version, and the cursor after it. -/
def scanVersionNumber (cursor : Cursor) : Except Fault (Nat × Cursor) :=
  let (digits, after) := cursor.takeWhile fun c => '0' ≤ c && c ≤ '9'
  if digits.isEmpty then .error (.problem .badDirective)
  else if Numeral.integerDigitLimit < digits.length then
    .error (.unreadable (.integerTooLong digits.length))
  else .ok (Text.ofDigits 10 (digits.map fun c => c.toNat - '0'.toNat), after)

/-- The version that a directive names. -/
def scanVersion (cursor : Cursor) : Except Fault (Directive × Cursor) := do
  let (major, afterMajor) ← scanVersionNumber cursor.skipBlanks
  if afterMajor.peek != '.' then .error (.problem .badDirective)
  else
    let (_, after) ← scanVersionNumber afterMajor.advance
    if isGap after.peek then .ok (.version major, after) else .error (.problem .badDirective)

/-- The prefix that a directive gives to a handle. -/
def scanTagPrefix (cursor : Cursor) : Except Fault (Directive × Cursor) := do
  let (handle, afterHandle) ← scanHandle cursor.skipBlanks
  if afterHandle.peek != ' ' then .error (.problem .badDirective)
  else
    let (meaning, after) ← scanSuffix afterHandle.skipBlanks
    if isGap after.peek then .ok (.tagPrefix handle meaning, after)
    else .error (.problem .badDirective)

/-- The directive at the cursor, up to the end of its line. -/
def scanDirective (cursor : Cursor) : Except Fault (Token × Cursor) := do
  let (name, afterName) := cursor.advance.takeWhile isNameChar
  if name.isEmpty || !isGap afterName.peek then .error (.problem .badDirective)
  else
    let (content, after) ←
      if name == ['Y', 'A', 'M', 'L'] then scanVersion afterName
      else if name == ['T', 'A', 'G'] then scanTagPrefix afterName
      else .ok (.other, afterName.skipWhile (!isBreakOrEnd ·))
    let lineEnd := after.skipBlanks.skipComment
    if isBreakOrEnd lineEnd.peek then .ok (.directive content, lineEnd.skipBreak)
    else .error (.problem .badDirective)

end ViewLayout.Yaml
