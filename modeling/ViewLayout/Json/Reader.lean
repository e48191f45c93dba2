import ViewLayout.Number.Numeral
import ViewLayout.Text.Surrogate
import ViewLayout.Value.Basic

/-!
# Reading JSON

`Json.read` reads one JSON document into a value. Objects keep the order of their members, where a
repeated name keeps its place and takes its last value. Beside the standard's numbers the words
`NaN`, `Infinity` and `-Infinity` are read, and integers may be limited in their number of digits.
-/

namespace ViewLayout.Json

open Text

/-- Why a text is not read as JSON. -/
inductive Fault
  | malformed
  | integerTooLong (digits : Nat)
deriving DecidableEq

/-- Whether a character is white space between tokens. -/
def isSpace (c : Char) : Bool :=
  c == ' ' || c == '\t' || c == '\n' || c == '\r'

/-- The text without the white space it starts with. -/
def skipSpace (text : List Char) : List Char :=
  text.dropWhile isSpace

/-- The number that four hexadecimal digits write. -/
def fourHex? (a b c d : Char) : Option Nat := do
  some (ofDigits 16 [← hexValue? a, ← hexValue? b, ← hexValue? c, ← hexValue? d])

/-- The character that an escaped letter stands for. -/
def escapedChar? : Char → Option Char
  | '"' => some '"'
  | '\\' => some '\\'
  | '/' => some '/'
  | 'b' => some '\x08'
  | 'f' => some '\x0c'
  | 'n' => some '\n'
  | 'r' => some '\r'
  | 't' => some '\t'
  | _ => none

/-- Whether a unit of sixteen bits is the first half of a pair. -/
def isHighUnit (unit : Nat) : Bool :=
  0xd800 ≤ unit && unit < 0xdc00

/-- Whether a unit of sixteen bits is the second half of a pair. -/
def isLowUnit (unit : Nat) : Bool :=
  0xdc00 ≤ unit && unit < 0xe000

/-- The character that a pair of code units stands for. -/
def pairChar (high low : Nat) : Char :=
  Char.ofNat (0x10000 + (high - 0xd800) * 0x400 + (low - 0xdc00))

/-- A part of a string: a character, or a code unit that is written by its number. -/
inductive Piece
  | char (c : Char)
  | unit (number : Nat)
deriving DecidableEq

/-- The pieces up to a closing quote, and the text after it. -/
def takePieces : List Char → Option (List Piece × List Char)
  | [] => none
  | '"' :: rest => some ([], rest)
  | '\\' :: 'u' :: a :: b :: c :: d :: rest => do
    let number ← fourHex? a b c d
    let (pieces, after) ← takePieces rest
    some (.unit number :: pieces, after)
  | '\\' :: c :: rest => do
    let char ← escapedChar? c
    let (pieces, after) ← takePieces rest
    some (.char char :: pieces, after)
  | c :: rest =>
    if c.toNat < 0x20 ∨ c = '\\' then none
    else do
      let (pieces, after) ← takePieces rest
      some (.char c :: pieces, after)

/-- A first unit that nothing completes. -/
def loneUnit : Option Nat → List Char
  | none => []
  | some unit => ofCodePoint unit

/-- The characters of pieces, where a first unit may be waiting for the second one of its pair. -/
def joinPieces : Option Nat → List Piece → List Char
  | waiting, [] => loneUnit waiting
  | waiting, .char c :: rest => loneUnit waiting ++ c :: joinPieces none rest
  | waiting, .unit number :: rest =>
    match waiting.filter fun _ => isLowUnit number with
    | some high => pairChar high number :: joinPieces none rest
    | none =>
      if isHighUnit number then loneUnit waiting ++ joinPieces (some number) rest
      else loneUnit waiting ++ ofCodePoint number ++ joinPieces none rest

/-- The text up to a closing quote, and what follows. -/
def takeString (text : List Char) : Option (String × List Char) :=
  (takePieces text).map fun (pieces, after) => (String.ofList (joinPieces none pieces), after)

/-- Whether a character is an ASCII digit. -/
def isDigit (c : Char) : Bool :=
  '0' ≤ c && c ≤ '9'

/-- The natural number that digits write. -/
def naturalOf (digits : List Char) : Nat :=
  ofDigits 10 (digits.map fun c => c.toNat - '0'.toNat)

/-- A point and the digits after it, if both are there. -/
def takeFraction : List Char → Option (List Char × List Char)
  | '.' :: rest =>
    let digits := rest.takeWhile isDigit
    if digits.isEmpty then none else some (digits, rest.dropWhile isDigit)
  | _ => none

/-- An exponent with at least one digit, if it is there. -/
def takeExponent : List Char → Option (Int × List Char)
  | mark :: rest =>
    if mark = 'e' ∨ mark = 'E' then
      let (negative, unsigned) :=
        match rest with
        | '-' :: after => (true, after)
        | '+' :: after => (false, after)
        | _ => (false, rest)
      let digits := unsigned.takeWhile isDigit
      let power : Int := (naturalOf digits : Nat)
      if digits.isEmpty then none
      else some (if negative then -power else power, unsigned.dropWhile isDigit)
    else none
  | [] => none

/-- The digits that a number starts with, and what follows them. After a zero there are no more. -/
def takeWhole : List Char → List Char × List Char
  | '0' :: rest => (['0'], rest)
  | text => (text.takeWhile isDigit, text.dropWhile isDigit)

/-- The number after its sign. Without a fraction and an exponent it is an integer. -/
def readUnsigned (limit : Option Nat) (negative : Bool) (text : List Char) :
    Except Fault (Value × List Char) :=
  let (whole, afterWhole) := takeWhole text
  if whole.isEmpty then .error .malformed
  else
    let fraction := takeFraction afterWhole
    let part := (fraction.map Prod.fst).getD []
    let afterPart := (fraction.map Prod.snd).getD afterWhole
    let exponent := takeExponent afterPart
    let after := (exponent.map Prod.snd).getD afterPart
    if fraction.isSome || exponent.isSome then
      let power := (exponent.map Prod.fst).getD 0 - (part.length : Int)
      .ok (.float (.ofDecimal negative (naturalOf (whole ++ part)) power), after)
    else if limit.any (· < whole.length) then .error (.integerTooLong whole.length)
    else
      let value : Int := (naturalOf whole : Nat)
      .ok (.int (if negative then -value else value), after)

/-- A value that is neither a string nor a collection. -/
def readAtom (limit : Option Nat) (text : List Char) : Except Fault (Value × List Char) :=
  match text with
  | 'n' :: 'u' :: 'l' :: 'l' :: rest => .ok (.null, rest)
  | 't' :: 'r' :: 'u' :: 'e' :: rest => .ok (.bool true, rest)
  | 'f' :: 'a' :: 'l' :: 's' :: 'e' :: rest => .ok (.bool false, rest)
  | 'N' :: 'a' :: 'N' :: rest => .ok (.float .nan, rest)
  | 'I' :: 'n' :: 'f' :: 'i' :: 'n' :: 'i' :: 't' :: 'y' :: rest =>
    .ok (.float (.number false .infinity), rest)
  | '-' :: 'I' :: 'n' :: 'f' :: 'i' :: 'n' :: 'i' :: 't' :: 'y' :: rest =>
    .ok (.float (.number true .infinity), rest)
  | '-' :: rest => readUnsigned limit true rest
  | _ => readUnsigned limit false text

mutual

/-- A value. The first argument bounds the number of nested steps; the text's length is enough. -/
def readValue (limit : Option Nat) : Nat → List Char → Except Fault (Value × List Char)
  | 0, _ => .error .malformed
  | fuel + 1, text =>
    match text with
    | '"' :: rest =>
      match takeString rest with
      | none => .error .malformed
      | some (content, after) => .ok (.text content, after)
    | '[' :: rest =>
      match skipSpace rest with
      | ']' :: after => .ok (.list [], after)
      | first => do
        let (items, after) ← readItems limit fuel first
        .ok (.list items, after)
    | '{' :: rest =>
      match skipSpace rest with
      | '}' :: after => .ok (.mapping [], after)
      | first => do
        let (entries, after) ← readMembers limit fuel [] first
        .ok (.mapping entries, after)
    | _ => readAtom limit text

/-- The items of a list behind its bracket, and the text after the closing one. -/
def readItems (limit : Option Nat) : Nat → List Char → Except Fault (List Value × List Char)
  | 0, _ => .error .malformed
  | fuel + 1, text => do
    let (item, afterItem) ← readValue limit fuel text
    match skipSpace afterItem with
    | ']' :: after => .ok ([item], after)
    | ',' :: next => do
      let (items, after) ← readItems limit fuel (skipSpace next)
      .ok (item :: items, after)
    | _ => .error .malformed

/-- The members of an object put into the entries read so far, up to the object's end. -/
def readMembers (limit : Option Nat) :
    Nat → List (Value × Value) → List Char → Except Fault (List (Value × Value) × List Char)
  | 0, _, _ => .error .malformed
  | fuel + 1, entries, text =>
    match text with
    | '"' :: rest =>
      match takeString rest with
      | none => .error .malformed
      | some (name, afterName) =>
        match skipSpace afterName with
        | ':' :: afterColon => do
          let (value, afterValue) ← readValue limit fuel (skipSpace afterColon)
          let grown := Value.putEntry entries (.text name) value
          match skipSpace afterValue with
          | '}' :: after => .ok (grown, after)
          | ',' :: next => readMembers limit fuel grown (skipSpace next)
          | _ => .error .malformed
        | _ => .error .malformed
    | _ => .error .malformed

end

/-- **One JSON document.** White space may stand around it and nothing else, not even a byte order
mark. -/
def read (limit : Option Nat) (text : String) : Except Fault Value := do
  let chars := text.toList
  let (value, after) ← readValue limit (chars.length + 1) (skipSpace chars)
  if (skipSpace after).isEmpty then .ok value else .error .malformed

end ViewLayout.Json
