import ViewLayout.Yaml.Assembly
import ViewLayout.Yaml.Tokens

/-!
# Reading YAML

`Yaml.read` reads the one document of a YAML text into a value. A mapping keeps the order of its
entries, a repeated key its first place and its last value, and the entries that `<<` merges come
first. `Yaml.readFile` does so for a file, whose blocks are looked through for characters that may
not stand in it only as reading reaches them.
-/

namespace ViewLayout.Yaml

/-- **The value that a YAML text writes**; an empty text writes null. -/
def read (text : String) : Except Fault Value := do
  match ← Document.ofTokens? (tokens text.toList) with
  | none => .ok .null
  | some document => document.toValue

/-- How many characters a block of a file has. -/
def blockSize : Nat := 4096

/-- Where the block of a file starts that holds a place. The first two blocks are one. -/
def blockStart (place : Nat) : Nat :=
  if place < 2 * blockSize then 0 else place - place % blockSize

/-- Why the tokens of a part of a text cannot be read, if that is no breach of the rules. -/
def unreadablePart? (points : List Nat) : Option Unreadable :=
  match Document.ofTokens? (tokens (points.flatMap Text.ofCodePoint)) with
  | .error (.unreadable cause) => some cause
  | _ => none

/-- The value that a YAML file writes. A character that may not stand in it is found when its
block is reached, so what cannot be read before that block is found first. A number that goes on
into the block is not read before it, and there a digit more makes a difference. -/
def readFile (text : String) : Except Fault Value :=
  let points := Text.codePoints text.toList
  match points.findIdx? (!isAllowed ·) with
  | none => read text
  | some place =>
    let before := points.take (blockStart place)
    match unreadablePart? before, unreadablePart? (before ++ ['0'.toNat]) with
    | some cause, some same =>
      if cause = same then .error (.unreadable cause) else .error (.problem .unprintableCharacter)
    | _, _ => .error (.problem .unprintableCharacter)

/-- A file whose characters may all stand in it is read like any text. -/
theorem readFile_eq_read {text : String}
    (clean : ∀ point ∈ Text.codePoints text.toList, isAllowed point = true) :
    readFile text = read text := by
  have absent : (Text.codePoints text.toList).findIdx? (!isAllowed ·) = none :=
    List.findIdx?_eq_none_iff.2 fun point member => by simp [clean point member]
  simp only [readFile, absent]

end ViewLayout.Yaml
