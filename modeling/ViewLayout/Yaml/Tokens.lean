import ViewLayout.Yaml.Property
import ViewLayout.Yaml.Scalar.Block
import ViewLayout.Yaml.Scalar.Plain
import ViewLayout.Yaml.Scalar.Quoted

/-!
# The tokens of a text

`tokens` divides a YAML text into its tokens. Indentation opens and closes blocks, and a node turns
out to be a key only when a colon follows it: the scanner remembers where a key may have started and
puts the tokens of a key there once it meets the colon.
-/

namespace ViewLayout.Yaml

/-- A place where a key may have started. -/
structure KeyStart where
  /-- How many tokens stand before it. -/
  position : Nat
  /-- Whether the text is wrong if it turns out to be no key. -/
  required : Bool
  index : Nat
  line : Nat
  column : Nat

/-- The state between two tokens. -/
structure Scanner where
  cursor : Cursor
  /-- The tokens so far, the last one first. -/
  tokens : List Token := []
  /-- How many tokens there are so far. -/
  count : Nat := 0
  /-- How many flow collections are open. -/
  depth : Nat := 0
  /-- The column of the innermost block. -/
  indent : Int := -1
  /-- The columns of the blocks around it, from the inside out. -/
  outer : List Int := []
  /-- Whether a key may start here. -/
  keyAllowed : Bool := true
  /-- Where keys may have started, by the number of open flow collections. -/
  keyStarts : List (Nat × KeyStart) := []

namespace Scanner

/-- Whether the scanner is inside brackets or braces. -/
def inFlow (scanner : Scanner) : Bool :=
  scanner.depth != 0

/-- Adds a token. -/
def push (scanner : Scanner) (token : Token) : Scanner :=
  { scanner with tokens := token :: scanner.tokens, count := scanner.count + 1 }

/-- The scanner with one more token behind a number of others. -/
def insert (scanner : Scanner) (position : Nat) (token : Token) : Scanner :=
  { scanner with
    tokens := scanner.tokens.insertIdx (scanner.count - position) token
    count := scanner.count + 1 }

/-- The place where a key may have started among the open collections. -/
def keyStart? (scanner : Scanner) : Option KeyStart :=
  scanner.keyStarts.lookup scanner.depth

/-- Forgets where a key may have started among the open collections. -/
def forgetKeyStart (scanner : Scanner) : Scanner :=
  { scanner with keyStarts := scanner.keyStarts.filter (·.1 != scanner.depth) }

/-- Gives up the place where a key may have started, which is wrong if a key is required there. -/
def dropKeyStart (scanner : Scanner) : Except Fault Scanner :=
  if scanner.keyStart?.any (·.required) then .error (.problem .missingColon)
  else .ok scanner.forgetKeyStart

/-- Whether a place is too far back for a key: a key is a line's and has at most 1024
characters. -/
def isStale (scanner : Scanner) (start : KeyStart) : Bool :=
  start.line != scanner.cursor.line || 1024 < scanner.cursor.index - start.index

/-- Gives up the places that are too far back for a key. -/
def dropStaleStarts (scanner : Scanner) : Except Fault Scanner :=
  if scanner.keyStarts.any fun entry => scanner.isStale entry.2 && entry.2.required then
    .error (.problem .missingColon)
  else
    .ok { scanner with
      keyStarts := scanner.keyStarts.filter fun entry => !scanner.isStale entry.2 }

/-- The tokens before every place where a key may still start, which nothing that follows can
change. -/
def settledTokens (scanner : Scanner) : List Token :=
  let places := scanner.keyStarts.filterMap fun entry =>
    if scanner.isStale entry.2 then none else some entry.2.position
  (scanner.tokens.drop (scanner.count - (places.min?).getD scanner.count)).reverse

/-- Remembers that a key may start here. -/
def saveKeyStart (scanner : Scanner) : Except Fault Scanner :=
  if scanner.keyAllowed then do
    let required := !scanner.inFlow && scanner.indent == (scanner.cursor.column : Int)
    let cleared ← scanner.dropKeyStart
    let start : KeyStart :=
      ⟨scanner.count, required, scanner.cursor.index, scanner.cursor.line,
        scanner.cursor.column⟩
    .ok { cleared with keyStarts := (scanner.depth, start) :: cleared.keyStarts }
  else .ok scanner

/-- Closes blocks until the innermost one is not deeper than the column. -/
def closeTo (column : Int) : List Int → Scanner → Scanner
  | [], scanner => scanner
  | around :: outer, scanner =>
    if column < scanner.indent then
      closeTo column outer { scanner.push .blockEnd with indent := around, outer := outer }
    else scanner

/-- Closes the blocks that are deeper than the column; flow collections ignore indentation. -/
def closeBlocks (scanner : Scanner) (column : Int) : Scanner :=
  if scanner.inFlow then scanner else scanner.closeTo column scanner.outer

/-- Opens a block at a column if that is deeper than the innermost one, with its token at the given
position. -/
def openBlock (scanner : Scanner) (column : Nat) (position : Nat) (token : Token) : Scanner :=
  if scanner.indent < (column : Int) then
    { scanner.insert position token with
      indent := column
      outer := scanner.indent :: scanner.outer }
  else scanner

/-- The cursor on the next token: after blanks, comments and line breaks. A line break in a block
lets a key start. -/
def skipGap : Nat → Scanner → Scanner
  | 0, scanner => scanner
  | fuel + 1, scanner =>
    let cursor := scanner.cursor.skipBlanks.skipComment
    match cursor.takeBreak? with
    | none => { scanner with cursor }
    | some (_, next) =>
      skipGap fuel
        { scanner with cursor := next, keyAllowed := scanner.keyAllowed || !scanner.inFlow }

/-- The mark of a document, which closes all blocks. -/
def documentMark (scanner : Scanner) (token : Token) : Except Fault Scanner := do
  let closed ← (scanner.closeBlocks (-1)).dropKeyStart
  .ok { closed.push token with keyAllowed := false, cursor := closed.cursor.skip 3 }

/-- A directive, which closes all blocks. -/
def directive (scanner : Scanner) : Except Fault Scanner := do
  let closed ← (scanner.closeBlocks (-1)).dropKeyStart
  let (token, after) ← scanDirective closed.cursor
  .ok { closed.push token with keyAllowed := false, cursor := after }

/-- The token that opens a flow collection. -/
def openFlow (scanner : Scanner) (token : Token) : Except Fault Scanner := do
  let saved ← scanner.saveKeyStart
  .ok { saved.push token with
    depth := saved.depth + 1, keyAllowed := true, cursor := saved.cursor.advance }

/-- The token that closes a flow collection. -/
def closeFlow (scanner : Scanner) (token : Token) : Except Fault Scanner :=
  if scanner.inFlow then do
    let cleared ← scanner.dropKeyStart
    .ok { cleared.push token with
      depth := cleared.depth - 1, keyAllowed := false, cursor := cleared.cursor.advance }
  else .error (.problem .unexpectedToken)

/-- The mark between the entries of a flow collection. -/
def flowEntry (scanner : Scanner) : Except Fault Scanner := do
  let cleared ← scanner.dropKeyStart
  .ok { cleared.push .flowEntry with keyAllowed := true, cursor := cleared.cursor.advance }

/-- The mark of an entry of a block sequence, which may open the sequence. -/
def blockEntry (scanner : Scanner) : Except Fault Scanner :=
  if !scanner.inFlow && !scanner.keyAllowed then .error (.problem .misplacedEntry)
  else do
    let opened :=
      if scanner.inFlow then scanner
      else scanner.openBlock scanner.cursor.column scanner.count .blockSequenceStart
    let cleared ← opened.dropKeyStart
    .ok { cleared.push .blockEntry with keyAllowed := true, cursor := cleared.cursor.advance }

/-- The mark of a key, which may open a block mapping. -/
def explicitKey (scanner : Scanner) : Except Fault Scanner :=
  if !scanner.inFlow && !scanner.keyAllowed then .error (.problem .misplacedKey)
  else do
    let opened :=
      if scanner.inFlow then scanner
      else scanner.openBlock scanner.cursor.column scanner.count .blockMappingStart
    let cleared ← opened.dropKeyStart
    .ok { cleared.push .key with
      keyAllowed := !scanner.inFlow, cursor := cleared.cursor.advance }

/-- The colon of a value. What may have been a key before it is one, and its tokens are put in
front of it; otherwise the key was marked or is missing. -/
def value (scanner : Scanner) : Except Fault Scanner :=
  match scanner.keyStart? with
  | some start =>
    let marked := scanner.forgetKeyStart.insert start.position .key
    let opened :=
      if scanner.inFlow then marked
      else marked.openBlock start.column start.position .blockMappingStart
    .ok { opened.push .value with keyAllowed := false, cursor := scanner.cursor.advance }
  | none =>
    if !scanner.inFlow && !scanner.keyAllowed then .error (.problem .misplacedValue)
    else
      let opened :=
        if scanner.inFlow then scanner
        else scanner.openBlock scanner.cursor.column scanner.count .blockMappingStart
      .ok { opened.push .value with
        keyAllowed := !scanner.inFlow, cursor := scanner.cursor.advance }

/-- An anchor, an alias, a tag or a quoted scalar, where a key may start. -/
def property (scanner : Scanner) (scan : Cursor → Except Fault (Token × Cursor)) :
    Except Fault Scanner := do
  let saved ← scanner.saveKeyStart
  let (token, after) ← scan saved.cursor
  .ok { saved.push token with keyAllowed := false, cursor := after }

/-- A block scalar, after which a key may start. -/
def blockScalar (scanner : Scanner) (folded : Bool) : Except Fault Scanner := do
  let cleared ← scanner.dropKeyStart
  let (text, after) ← Block.scan folded cleared.indent cleared.cursor
  .ok { cleared.push (.scalar text false) with keyAllowed := true, cursor := after }

/-- A plain scalar, after which a key may start if the scalar ends with its line. -/
def plainScalar (scanner : Scanner) : Except Fault Scanner := do
  let saved ← scanner.saveKeyStart
  let (text, leftLine, after) := Plain.scan saved.inFlow saved.indent saved.cursor
  .ok { saved.push (.scalar text true) with keyAllowed := leftLine, cursor := after }

/-- The characters that stand for something else at the start of a scalar. -/
def indicators : List Char :=
  ['-', '?', ':', ',', '[', ']', '{', '}', '#', '&', '*', '!', '|', '>', '\'', '"', '%', '@', '`']

/-- Whether a plain scalar may start with the character, whatever follows it. -/
def startsPlain (c : Char) : Bool :=
  !isGapOrTab c && !indicators.contains c

/-- Reads the next token, by the character that it starts with. -/
def token (scanner : Scanner) : Except Fault Scanner :=
  let cursor := scanner.cursor
  let c := cursor.peek
  let gapFollows := isGapOrTab (cursor.peekAt 1)
  let atLineStart := cursor.column == 0
  if c == '%' && atLineStart then scanner.directive
  else if c == '-' && atLineStart && cursor.atTriple '-' then scanner.documentMark .documentStart
  else if c == '.' && atLineStart && cursor.atTriple '.' then scanner.documentMark .documentEnd
  else if c == '[' then scanner.openFlow .flowSequenceStart
  else if c == '{' then scanner.openFlow .flowMappingStart
  else if c == ']' then scanner.closeFlow .flowSequenceEnd
  else if c == '}' then scanner.closeFlow .flowMappingEnd
  else if c == ',' then scanner.flowEntry
  else if c == '-' && gapFollows then scanner.blockEntry
  else if c == '?' && (scanner.inFlow || gapFollows) then scanner.explicitKey
  else if c == ':' && (scanner.inFlow || gapFollows) then scanner.value
  else if c == '*' then
    scanner.property fun start => do
      let (name, after) ← scanName start
      .ok (.alias name, after)
  else if c == '&' then
    scanner.property fun start => do
      let (name, after) ← scanName start
      .ok (.anchor name, after)
  else if c == '!' then scanner.property scanTag
  else if c == '|' && !scanner.inFlow then scanner.blockScalar false
  else if c == '>' && !scanner.inFlow then scanner.blockScalar true
  else if c == '\'' || c == '"' then
    scanner.property fun start => do
      let (text, after) ← Quoted.scan (c == '"') start
      .ok (.scalar text false, after)
  else if startsPlain c
      || (!gapFollows && (c == '-' || (!scanner.inFlow && (c == '?' || c == ':'))))
  then scanner.plainScalar
  else .error (.problem .strayCharacter)

/-- The end of the text, which closes all blocks. -/
def finish (scanner : Scanner) : Except Fault Scanner :=
  (scanner.closeBlocks (-1)).dropKeyStart

/-- The tokens from the scanner's place on, after those it has. Where the text cannot be read on, a
token that may still become a key is not told. -/
def run : Nat → Scanner → List Token
  | 0, scanner => scanner.tokens.reverse
  | fuel + 1, scanner =>
    let placed := scanner.skipGap (scanner.cursor.size + 1)
    let stop (fault : Fault) : List Token := scanner.settledTokens ++ [.broken fault]
    match placed.dropStaleStarts with
    | .error fault => stop fault
    | .ok fresh =>
      let current := fresh.closeBlocks fresh.cursor.column
      if current.cursor.rest.isEmpty then
        match current.finish with
        | .error fault => stop fault
        | .ok done => done.tokens.reverse
      else
        match current.token with
        | .error fault => stop fault
        | .ok next => run fuel next

end Scanner

/-- **The tokens of a text.** A byte order mark at its start is left out. -/
def tokens (text : List Char) : List Token :=
  if (Text.codePoints text).all isAllowed then
    let start := Cursor.ofText text
    let cursor := if start.peek == byteOrderMark then start.advance else start
    Scanner.run (text.length + 1) { cursor }
  else [.broken (.problem .unprintableCharacter)]

end ViewLayout.Yaml
