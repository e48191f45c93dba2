/-!
# Base 64

Reading octets from text in base 64. Characters outside the alphabet are passed over, and a group of
fewer than four digits has to be filled up with equals signs, which end the text.
-/

namespace ViewLayout.Text

/-- The six bits that a character stands for. -/
def base64Value? (c : Char) : Option Nat :=
  let n := c.toNat
  if 'A' ≤ c ∧ c ≤ 'Z' then some (n - 65)
  else if 'a' ≤ c ∧ c ≤ 'z' then some (n - 71)
  else if '0' ≤ c ∧ c ≤ '9' then some (n + 4)
  else if c = '+' then some 62
  else if c = '/' then some 63
  else none

/-- The octets of a text from inside a group of four digits: how many digits of the group are read,
the bits of them that no octet has yet, and how many equals signs came after them. -/
def ofBase64From? (place bits fills : Nat) : List Char → Option (List UInt8)
  | [] => if place = 0 then some [] else none
  | '=' :: rest =>
    if place < 2 then ofBase64From? place bits fills rest
    else if 4 ≤ place + (fills + 1) then some []
    else ofBase64From? place bits (fills + 1) rest
  | c :: rest =>
    match base64Value? c with
    | none => ofBase64From? place bits fills rest
    | some value =>
      match place with
      | 0 => ofBase64From? 1 value 0 rest
      | 1 => (ofBase64From? 2 (value % 16) 0 rest).map (.ofNat (bits * 4 + value / 16) :: ·)
      | 2 => (ofBase64From? 3 (value % 4) 0 rest).map (.ofNat (bits * 16 + value / 4) :: ·)
      | _ => (ofBase64From? 0 0 0 rest).map (.ofNat (bits * 64 + value) :: ·)

/-- The octets that a text writes in base 64. -/
def ofBase64? (text : List Char) : Option (List UInt8) :=
  ofBase64From? 0 0 0 text

end ViewLayout.Text
