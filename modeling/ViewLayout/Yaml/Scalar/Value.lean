import ViewLayout.Text.Base64
import ViewLayout.Text.LetterCase
import ViewLayout.Yaml.Tag

/-!
# Values of scalars

What a scalar with a tag writes. A scalar that does not fit its tag has no value.
-/

namespace ViewLayout.Yaml

/-- The truth value that a scalar writes, in letters of either case. -/
def readTruthValue (text : String) : Except Fault Value :=
  let word := Text.lower text
  match Tag.truthValue? word with
  | some value => .ok (.bool value)
  | none => .error (.unreadable (.notTruthValue (Text.quote word)))

/-- The value of a timestamp. -/
def readTime (text : String) : Except Fault Value :=
  match Timestamp.ofText? (Tag.dropBreak text.toList) with
  | some stamp => stamp.toValue
  | none => .error (.unreadable .notTime)

/-- The octets that a scalar writes, in ASCII characters. -/
def readOctets (text : String) : Except Fault Value :=
  if text.toList.all fun c => c.toNat < 128 then
    match Text.ofBase64? text.toList with
    | some content => .ok (.octets content)
    | none => .error (.problem .badOctets)
  else .error (.problem .badOctets)

/-- The value of a scalar by its tag. -/
def scalarValue (tag : Tag) (text : String) : Except Fault Value :=
  match tag with
  | .null => .ok .null
  | .string => .ok (.text text)
  | .int => readInteger text.toList
  | .float => readNumber (Text.lower text).toList
  | .time => readTime text
  | .octets => readOctets text
  | .bool => readTruthValue text
  | _ => .error (.problem .unknownTag)

end ViewLayout.Yaml
