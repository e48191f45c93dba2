import ViewLayout.Directive.Shorthand

/-!
# Tokens set apart by blanks

A token takes on the characters after its first one until a blank ends it. `tokens_of_spaced` says
that a text in which tokens are set apart by blanks has just these tokens, and
`splitReference?_of_spaced` that a reference runs into a hyphen in such a text only where it does so
within a token.
-/

namespace ViewLayout.Shorthand

open Text

/-- Whether a token takes on all characters of a text. -/
def Tail.takes (tail : Tail) : List Char → Bool
  | [] => true
  | c :: rest =>
    match tail.after? c with
    | some next => next.takes rest
    | none => false

/-- Whether a text is one token. -/
def isToken : List Char → Bool
  | [] => false
  | c :: rest => !isBlank c && (Tail.ofFirst c).takes rest

/-- The text is empty or starts with a blank, so that a token before it ends there. -/
def Apart (text : List Char) : Prop :=
  ∀ c ∈ text.head?, isBlank c = true

/-- Words are set apart by blanks in a text, which may have more blanks at both ends. -/
inductive Spaced : List (List Char) → List Char → Prop
  | blanks {gap : List Char} (blank : ∀ c ∈ gap, isBlank c = true) : Spaced [] gap
  | word {gap word rest : List Char} {words : List (List Char)}
      (blank : ∀ c ∈ gap, isBlank c = true) (apart : Apart rest) (later : Spaced words rest) :
      Spaced (word :: words) (gap ++ (word ++ rest))

/-- Words with a blank before each are set apart. -/
theorem spaced_flatMap (words : List (List Char)) : Spaced words (words.flatMap (' ' :: ·)) := by
  induction words with
  | nil => exact .blanks fun c member => absurd member List.not_mem_nil
  | cons word rest inner =>
    have gap : ∀ c ∈ [' '], isBlank c = true := by
      rw [List.forall_mem_singleton]
      decide
    have apart : Apart (rest.flatMap (' ' :: ·)) := by
      cases rest with
      | nil => exact fun c member => absurd member (Option.not_mem_none c)
      | cons next others =>
        rintro c ⟨⟩
        decide
    exact .word gap apart inner

/-- A blank in front of the first token is skipped. -/
theorem tokens_cons_of_isBlank {c : Char} (blank : isBlank c = true) (rest : List Char) :
    tokens (c :: rest) = tokens rest := by
  simp only [tokens, split, Tail.after?, blank, ↓reduceIte]

/-- Blanks before a text change none of its tokens. -/
theorem tokens_append_of_blank {gap : List Char} (blank : ∀ c ∈ gap, isBlank c = true)
    (rest : List Char) : tokens (gap ++ rest) = tokens rest := by
  induction gap with
  | nil => rfl
  | cons c others inner =>
    rw [List.cons_append, tokens_cons_of_isBlank (blank c List.mem_cons_self)]
    exact inner fun d member => blank d (List.mem_cons_of_mem c member)

/-- A token takes on a text and nothing of what follows it there. -/
theorem split_append_of_takes {tail : Tail} {text rest : List Char}
    (taken : tail.takes text = true)
    (ends : ∀ c ∈ rest.head?, tail.takes (text ++ [c]) = false) :
    split tail (text ++ rest) = (text, tokens rest) := by
  induction text generalizing tail with
  | nil =>
    cases rest with
    | nil => rfl
    | cons c others =>
      have refused : tail.after? c = none := by
        have ended := ends c rfl
        cases step : tail.after? c with
        | none => rfl
        | some next => simp [Tail.takes, step] at ended
      have idle : Tail.nothing.after? c = none := rfl
      simp only [List.nil_append, tokens, split, refused, idle]
      split <;> rfl
  | cons c others inner =>
    simp only [Tail.takes] at taken
    split at taken
    · next next step =>
      have later := inner taken fun d member => by
        simpa only [List.cons_append, Tail.takes, step] using ends d member
      simp only [List.cons_append, split, step, later]
    · contradiction

/-- A token ends before a text, of which it does not take on the first character. -/
def EndsBefore (token rest : List Char) : Prop :=
  ∀ c ∈ rest.head?, isToken (token ++ [c]) = false

/-- What a tail takes holds no blank. -/
theorem dark_of_takes {tail : Tail} {text : List Char} (taken : tail.takes text = true) :
    ∀ c ∈ text, isBlank c = false := by
  induction text generalizing tail with
  | nil => exact fun c member => absurd member List.not_mem_nil
  | cons c rest inner =>
    simp only [Tail.takes] at taken
    split at taken
    · next next step =>
      intro d member
      rcases List.mem_cons.1 member with rfl | later
      · exact not_isBlank_of_after? step
      · exact inner taken d later
    · contradiction

/-- No character of a token is blank. -/
theorem dark_of_isToken {token : List Char} (whole : isToken token = true) :
    ∀ c ∈ token, isBlank c = false := by
  cases token with
  | nil => contradiction
  | cons first rest =>
    simp only [isToken, Bool.and_eq_true, Bool.not_eq_true'] at whole
    intro c member
    rcases List.mem_cons.1 member with rfl | later
    · exact whole.1
    · exact dark_of_takes whole.2 c later

/-- A token ends before a blank. -/
theorem endsBefore_of_apart (token : List Char) {rest : List Char} (apart : Apart rest) :
    EndsBefore token rest := by
  intro c member
  rw [Bool.eq_false_iff]
  intro whole
  have dark := dark_of_isToken whole c (List.mem_append_right _ List.mem_cons_self)
  rw [apart c member] at dark
  contradiction

/-- A token is read up to where it ends. -/
theorem tokens_append_of_isToken {token rest : List Char} (whole : isToken token = true)
    (ends : EndsBefore token rest) : tokens (token ++ rest) = token :: tokens rest := by
  cases token with
  | nil => contradiction
  | cons c others =>
    simp only [isToken, Bool.and_eq_true, Bool.not_eq_true'] at whole
    have ended : ∀ d ∈ rest.head?, (Tail.ofFirst c).takes (others ++ [d]) = false := by
      intro d member
      simpa only [List.cons_append, isToken, whole.1, Bool.not_false, Bool.true_and] using
        ends d member
    have step : split .nothing ((c :: others) ++ rest) =
        ([], (c :: others) :: tokens rest) := by
      simp only [List.cons_append, split, Tail.after?, whole.1, Bool.false_eq_true, ↓reduceIte,
        split_append_of_takes whole.2 ended]
    rw [tokens, step]

/-- **Tokens that are set apart by blanks are read back one by one.** -/
theorem tokens_of_spaced {words : List (List Char)} {text : List Char}
    (spaced : Spaced words text) (each : ∀ word ∈ words, isToken word = true) :
    tokens text = words := by
  induction spaced with
  | @blanks gap blank =>
    have only := tokens_append_of_blank blank []
    rwa [List.append_nil] at only
  | @word gap word rest words blank apart later inner =>
    have first := each word List.mem_cons_self
    have others := inner fun other member => each other (List.mem_cons_of_mem word member)
    rw [tokens_append_of_blank blank,
      tokens_append_of_isToken first (endsBefore_of_apart word apart), others]

/-- A run ends before what is set apart. -/
theorem takeWhile_append_of_apart {holds : Char → Bool}
    (dark : ∀ c, isBlank c = true → holds c = false) (text : List Char) {rest : List Char}
    (apart : Apart rest) : (text ++ rest).takeWhile holds = text.takeWhile holds := by
  induction text with
  | nil =>
    cases rest with
    | nil => rfl
    | cons c others =>
      rw [List.nil_append, List.takeWhile_cons, dark c (apart c rfl)]
      rfl
  | cons c others inner => simp only [List.cons_append, List.takeWhile_cons, inner]

/-- What follows a run goes on behind it. -/
theorem dropWhile_append_of_apart {holds : Char → Bool}
    (dark : ∀ c, isBlank c = true → holds c = false) (text : List Char) {rest : List Char}
    (apart : Apart rest) : (text ++ rest).dropWhile holds = text.dropWhile holds ++ rest := by
  induction text with
  | nil =>
    cases rest with
    | nil => rfl
    | cons c others =>
      rw [List.nil_append, List.dropWhile_cons, dark c (apart c rfl)]
      rfl
  | cons c others inner =>
    simp only [List.cons_append, List.dropWhile_cons, inner]
    split <;> rfl

/-- No word starts with a blank. -/
theorem startsWord_of_isBlank {c : Char} (blank : isBlank c = true) : startsWord c = false := by
  simp only [isBlank, Bool.or_eq_true, Bool.and_eq_true, decide_eq_true_eq, beq_iff_eq] at blank
  simp only [startsWord, Bool.or_eq_false_iff, Bool.and_eq_false_iff, decide_eq_false_iff_not,
    beq_eq_false_iff_ne, Char.le_def, UInt32.le_iff_toNat_le, ne_eq, Char.ext_iff,
    ← UInt32.toNat_inj]
  have : c.val.toNat = c.toNat := rfl
  have : 'A'.val.toNat = 65 := rfl
  have : 'Z'.val.toNat = 90 := rfl
  have : 'a'.val.toNat = 97 := rfl
  have : 'z'.val.toNat = 122 := rfl
  have : '_'.val.toNat = 95 := rfl
  omega

/-- A reference that runs into a hyphen does so before the next blank. -/
theorem splitAt?_append_of_apart (text : List Char) {rest : List Char} (apart : Apart rest) :
    splitAt? (text ++ rest) = splitAt? text := by
  have wordless : ∀ c, isBlank c = true → isWordChar c = false := fun c blank => by
    simp [isWordChar, blank]
  have splitless : ∀ c, isBlank c = true → isSplitChar c = false := fun c blank => by
    simp [isSplitChar, blank]
  simp only [splitAt?]
  rw [takeWhile_append_of_apart wordless text apart, dropWhile_append_of_apart wordless text apart]
  generalize (text.takeWhile isWordChar) = name
  generalize (text.dropWhile isWordChar) = tail
  cases name.isEmpty with
  | true => rfl
  | false =>
    rcases tail with _ | ⟨x, _ | ⟨y, others⟩⟩
    · cases rest with
      | nil => rfl
      | cons c later =>
        have other : c ≠ '-' := by
          rintro rfl
          have blank : isBlank '-' = true := apart '-' rfl
          exact absurd blank (by decide)
        simp [other]
    · cases rest with
      | nil => rfl
      | cons c later =>
        have other : startsWord c = false := startsWord_of_isBlank (apart c rfl)
        by_cases hyphen : x = '-' <;> simp [hyphen, other]
    · have kept := takeWhile_append_of_apart splitless others apart
      by_cases hyphen : x = '-' <;> simp [hyphen, kept]

/-- A reference runs into a hyphen before the next blank, or after it. -/
theorem splitReference?_append_of_apart (text : List Char) {rest : List Char}
    (apart : Apart rest) :
    splitReference? (text ++ rest) = (splitReference? text).or (splitReference? rest) := by
  induction text with
  | nil => simp [splitReference?]
  | cons c others inner =>
    simp only [List.cons_append, splitReference?]
    split
    · rw [splitAt?_append_of_apart others apart, inner, Option.or_assoc]
    · exact inner

/-- Blanks in front hold no reference. -/
theorem splitReference?_append_of_blank {gap : List Char} (blank : ∀ c ∈ gap, isBlank c = true)
    (rest : List Char) : splitReference? (gap ++ rest) = splitReference? rest := by
  induction gap with
  | nil => rfl
  | cons c others inner =>
    have other : c ≠ '@' := by
      rintro rfl
      have blank : isBlank '@' = true := blank '@' List.mem_cons_self
      exact absurd blank (by decide)
    simp only [List.cons_append, splitReference?, other, ↓reduceIte]
    exact inner fun d member => blank d (List.mem_cons_of_mem c member)

/-- A reference runs into a hyphen only within a token, where tokens are set apart. -/
theorem splitReference?_of_spaced {words : List (List Char)} {text : List Char}
    (spaced : Spaced words text) : splitReference? text = words.findSome? splitReference? := by
  induction spaced with
  | @blanks gap blank =>
    have only := splitReference?_append_of_blank blank []
    rwa [List.append_nil] at only
  | @word gap word rest words blank apart later inner =>
    rw [splitReference?_append_of_blank blank, splitReference?_append_of_apart word apart, inner,
      List.findSome?_cons]
    cases splitReference? word <;> rfl

end ViewLayout.Shorthand
