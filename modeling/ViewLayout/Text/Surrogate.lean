/-!
# Surrogates in texts

Some notations can write a surrogate alone, a code point that is no character. A text keeps one as
two characters: a mark, which is a noncharacter, and a stand-in from the first private use area. A
mark that is meant as such is kept in the same way. `ofCodePoint` and `codePoints` go from one form
to the other, and `codePoints_flatMap_ofCodePoint` says that nothing is lost; `ofPlain` and
`toPlain` do so for texts without surrogates.
-/

namespace ViewLayout.Text

/-- The character before a stand-in. -/
def standInMark : Char := '\ufdd0'

/-- Whether a code point is a surrogate, which is no character. -/
def isSurrogate (point : Nat) : Bool :=
  0xd800 ≤ point && point < 0xe000

/-- The characters of a text that keep a code point. -/
def ofCodePoint (point : Nat) : List Char :=
  if isSurrogate point then [standInMark, Char.ofNat (point + 0x800)]
  else if point = standInMark.toNat then [standInMark, '\ue800']
  else [Char.ofNat point]

/-- The code point that a character behind the mark stands for. -/
def ofStandIn (c : Char) : Nat :=
  if c = '\ue800' then standInMark.toNat else c.toNat - 0x800

/-- The code points that a text keeps. -/
def codePoints : List Char → List Nat
  | [] => []
  | [c] => [c.toNat]
  | c :: next :: rest =>
    if c = standInMark then ofStandIn next :: codePoints rest
    else c.toNat :: codePoints (next :: rest)

/-- The characters of the first code point of a text, and the characters after them. -/
def splitFirst? : List Char → Option (List Char × List Char)
  | [] => none
  | [c] => some ([c], [])
  | c :: next :: rest =>
    if c = standInMark then some ([c, next], rest) else some ([c], next :: rest)

/-- The text of characters that are all meant as such. -/
def ofPlain (text : String) : String :=
  String.ofList (text.toList.flatMap fun c => ofCodePoint c.toNat)

/-- The characters that a text keeps. In place of a surrogate, which is none, the replacement
character stands. -/
def toPlain (text : String) : String :=
  String.ofList ((codePoints text.toList).map fun point =>
    if isSurrogate point then '\ufffd' else Char.ofNat point)

/-- The number of a character is the number it was made of. -/
theorem toNat_ofNat {n : Nat} (valid : n.isValidChar) : (Char.ofNat n).toNat = n := by
  rw [Char.ofNat, dif_pos valid]
  rfl

/-- A code point that is no surrogate is a character's. -/
theorem isValidChar_of_not_isSurrogate {point : Nat} (inRange : point < 0x110000)
    (character : isSurrogate point = false) : point.isValidChar := by
  simp only [isSurrogate, Bool.and_eq_false_iff, decide_eq_false_iff_not] at character
  simp only [Nat.isValidChar]
  omega

/-- The first code point is read back, and the rest after it. -/
theorem codePoints_ofCodePoint_append {point : Nat} (inRange : point < 0x110000)
    (rest : List Char) : codePoints (ofCodePoint point ++ rest) = point :: codePoints rest := by
  unfold ofCodePoint
  split
  · next surrogate =>
    simp only [isSurrogate, Bool.and_eq_true, decide_eq_true_eq] at surrogate
    have valid : (point + 0x800).isValidChar := by
      simp only [Nat.isValidChar]
      omega
    have number := toNat_ofNat valid
    have other : Char.ofNat (point + 0x800) ≠ '\ue800' := by
      intro same
      rw [same] at number
      have : '\ue800'.toNat = 0xe800 := rfl
      omega
    simp only [List.cons_append, List.nil_append, codePoints, ↓reduceIte, ofStandIn, other, number]
    simp
  · next character =>
    split
    · next same =>
      subst same
      simp [codePoints, ofStandIn]
    · next other =>
      have valid :=
        isValidChar_of_not_isSurrogate inRange (by simpa using character)
      have number := toNat_ofNat valid
      have unmarked : Char.ofNat point ≠ standInMark := by
        intro same
        rw [same] at number
        exact other number.symm
      cases rest with
      | nil => simp [codePoints, number]
      | cons next others => simp [codePoints, unmarked, number]

/-- **Keeping code points as a text loses nothing.** -/
theorem codePoints_flatMap_ofCodePoint {points : List Nat}
    (inRange : ∀ point ∈ points, point < 0x110000) :
    codePoints (points.flatMap ofCodePoint) = points := by
  induction points with
  | nil => rfl
  | cons point rest inner =>
    rw [List.flatMap_cons,
      codePoints_ofCodePoint_append (inRange point List.mem_cons_self),
      inner fun other member => inRange other (List.mem_cons_of_mem point member)]

theorem isSurrogate_toNat (c : Char) : isSurrogate c.toNat = false := by
  have valid : c.toNat.isValidChar := c.valid
  simp only [isSurrogate, Bool.and_eq_false_iff, decide_eq_false_iff_not]
  simp only [Nat.isValidChar] at valid
  omega

/-- A text of characters that are meant as such is kept as it is. -/
theorem toPlain_ofPlain (text : String) : toPlain (ofPlain text) = text := by
  have inRange : ∀ point ∈ text.toList.map Char.toNat, point < 0x110000 := by
    intro point member
    obtain ⟨c, _, rfl⟩ := List.mem_map.1 member
    have valid : c.toNat.isValidChar := c.valid
    simp only [Nat.isValidChar] at valid
    omega
  have points := codePoints_flatMap_ofCodePoint inRange
  rw [List.flatMap_map] at points
  simp only [toPlain, ofPlain, String.toList_ofList]
  rw [points, List.map_map]
  simp [Function.comp_def, isSurrogate_toNat]

end ViewLayout.Text
