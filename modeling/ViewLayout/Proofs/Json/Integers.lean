import Mathlib.Data.List.TakeWhile
import ViewLayout.Json.Reader

/-!
# Integers that JSON cannot be read over

An integer of too many digits stops a JSON reading although the text is well formed so far. Such an
integer is there: its digits stand in the text, one after the other, and are more than the limit.
-/

namespace ViewLayout.Json

/-- As many digits as are given stand in a text, one after the other, and are more than a limit. -/
structure LongInteger (limit : Option Nat) (text : List Char) (digits : Nat) : Prop where
  exceeds : ∃ bound, limit = some bound ∧ bound < digits
  written : ∃ run, run <:+: text ∧ run.length = digits ∧ ∀ c ∈ run, isDigit c

variable {limit : Option Nat} {text : List Char} {α β : Type}

/-- A part of a text is read from its start, and an end of it is left, or an integer in it is too
long. -/
def ReadsIn (limit : Option Nat) (text : List Char) (reading : Except Fault (α × List Char)) :
    Prop :=
  match reading with
  | .ok (_, after) => after <:+ text
  | .error .malformed => True
  | .error (.integerTooLong digits) => LongInteger limit text digits

/-- An integer in the rest of a text is in the text. -/
theorem LongInteger.of_suffix {after : List Char} {digits : Nat}
    (long : LongInteger limit after digits) (suffix : after <:+ text) :
    LongInteger limit text digits :=
  ⟨long.exceeds, long.written.imp fun _ ⟨within, written⟩ =>
    ⟨within.trans suffix.isInfix, written⟩⟩

namespace ReadsIn

/-- What is read in the rest of a text is read in the text. -/
theorem of_suffix {reading : Except Fault (α × List Char)} {after : List Char}
    (reads : ReadsIn limit after reading) (suffix : after <:+ text) :
    ReadsIn limit text reading := by
  unfold ReadsIn at reads ⊢
  split
  · exact reads.trans suffix
  · trivial
  · exact LongInteger.of_suffix reads suffix

/-- What is read in a text goes on in its rest. -/
theorem bind {reading : Except Fault (α × List Char)}
    {next : α × List Char → Except Fault (β × List Char)} (first : ReadsIn limit text reading)
    (second : ∀ value after, after <:+ text → ReadsIn limit text (next (value, after))) :
    ReadsIn limit text (reading >>= next) := by
  match reading, first with
  | .ok (value, after), suffix => exact second value after suffix
  | .error .malformed, _ => trivial
  | .error (.integerTooLong _), long => exact long

end ReadsIn

theorem skipSpace_suffix (text : List Char) : skipSpace text <:+ text :=
  List.dropWhile_suffix _

theorem takePieces_suffix {text after : List Char} {pieces : List Piece}
    (taken : takePieces text = some (pieces, after)) : after <:+ text := by
  fun_induction takePieces text generalizing pieces after with
  | case1 => cases taken
  | case2 rest =>
    cases taken
    exact List.suffix_cons _ _
  | case3 a b c d rest inner =>
    obtain ⟨number, -, found⟩ := Option.bind_eq_some_iff.1 taken
    obtain ⟨⟨later, last⟩, read, same⟩ := Option.bind_eq_some_iff.1 found
    cases same
    exact (inner read).trans (List.suffix_append ['\\', 'u', a, b, c, d] rest)
  | case4 c rest _ inner =>
    obtain ⟨char, -, found⟩ := Option.bind_eq_some_iff.1 taken
    obtain ⟨⟨later, last⟩, read, same⟩ := Option.bind_eq_some_iff.1 found
    cases same
    exact (inner read).trans (List.suffix_append ['\\', c] rest)
  | case5 => cases taken
  | case6 c rest _ _ _ _ inner =>
    obtain ⟨⟨later, last⟩, read, same⟩ := Option.bind_eq_some_iff.1 taken
    cases same
    exact (inner read).trans (List.suffix_cons c rest)

theorem takeString_suffix {text after : List Char} {content : String}
    (taken : takeString text = some (content, after)) : after <:+ text := by
  obtain ⟨⟨pieces, last⟩, read, same⟩ := Option.map_eq_some_iff.1 taken
  cases same
  exact takePieces_suffix read

theorem takeFraction_suffix {text after digits : List Char}
    (taken : takeFraction text = some (digits, after)) : after <:+ text := by
  unfold takeFraction at taken
  split at taken
  · next rest =>
    dsimp only at taken
    split at taken
    · cases taken
    · cases taken
      exact (List.dropWhile_suffix _).trans (List.suffix_cons _ rest)
  · cases taken

/-- What is left after the digits of an exponent, whatever its sign. -/
theorem exponentDigits_suffix {unsigned after : List Char} {size power : Int}
    (taken : (if (unsigned.takeWhile isDigit).isEmpty then none
      else some (size, unsigned.dropWhile isDigit)) = some (power, after)) :
    after <:+ unsigned := by
  split at taken
  · cases taken
  · cases taken
    exact List.dropWhile_suffix _

theorem takeExponent_suffix {text after : List Char} {power : Int}
    (taken : takeExponent text = some (power, after)) : after <:+ text := by
  unfold takeExponent at taken
  split at taken
  · next mark rest =>
    refine List.IsSuffix.trans ?_ (List.suffix_cons mark rest)
    split at taken
    · dsimp only at taken
      split at taken
      · exact (exponentDigits_suffix taken).trans (List.suffix_cons _ _)
      · exact (exponentDigits_suffix taken).trans (List.suffix_cons _ _)
      · exact exponentDigits_suffix taken
    · cases taken
  · cases taken

/-- Nothing is lost of what the digits are taken from. -/
theorem takeWhole_append (text : List Char) : (takeWhole text).1 ++ (takeWhole text).2 = text := by
  unfold takeWhole
  split
  · rfl
  · exact List.takeWhile_append_dropWhile

theorem isDigit_of_mem_takeWhole {text : List Char} {c : Char}
    (member : c ∈ (takeWhole text).1) : isDigit c = true := by
  unfold takeWhole at member
  split at member
  · rw [List.mem_singleton.1 member]
    rfl
  · exact List.mem_takeWhile_imp member

/-- A number is read from its start, or its digits before a fraction are too many. -/
theorem readsIn_readUnsigned (limit : Option Nat) (negative : Bool) (text : List Char) :
    ReadsIn limit text (readUnsigned limit negative text) := by
  have parted := takeWhole_append text
  have areDigits := fun c => @isDigit_of_mem_takeWhole text c
  unfold readUnsigned
  -- Only that the digits start the text is used from here on.
  generalize takeWhole text = parts at parted areDigits ⊢
  obtain ⟨whole, afterWhole⟩ := parts
  have start : afterWhole <:+ text := parted ▸ List.suffix_append whole afterWhole
  have afterPart : ((takeFraction afterWhole).map Prod.snd).getD afterWhole <:+ text := by
    cases taken : takeFraction afterWhole with
    | none => exact start
    | some fraction => exact (takeFraction_suffix taken).trans start
  dsimp only
  generalize ((takeFraction afterWhole).map Prod.snd).getD afterWhole = rest at afterPart ⊢
  have after : ((takeExponent rest).map Prod.snd).getD rest <:+ text := by
    cases taken : takeExponent rest with
    | none => exact afterPart
    | some exponent => exact (takeExponent_suffix taken).trans afterPart
  split
  · trivial
  · split
    · exact after
    · split
      · next exceeds =>
        obtain ⟨bound, given, less⟩ := (Option.any_eq_true _ _).1 exceeds
        exact ⟨⟨bound, given, of_decide_eq_true less⟩,
          whole, parted ▸ (List.prefix_append whole afterWhole).isInfix, rfl, areDigits⟩
      · exact after

theorem readsIn_readAtom (limit : Option Nat) (text : List Char) :
    ReadsIn limit text (readAtom limit text) := by
  unfold readAtom
  split
  · exact List.suffix_append "null".toList _
  · exact List.suffix_append "true".toList _
  · exact List.suffix_append "false".toList _
  · exact List.suffix_append "NaN".toList _
  · exact List.suffix_append "Infinity".toList _
  · exact List.suffix_append "-Infinity".toList _
  · exact (readsIn_readUnsigned limit true _).of_suffix (List.suffix_cons _ _)
  · exact readsIn_readUnsigned limit false text

mutual

/-- A value is read from the start of a text, or an integer in the text is too long. -/
theorem readsIn_readValue (limit : Option Nat) : ∀ (fuel : Nat) (text : List Char),
    ReadsIn limit text (readValue limit fuel text)
  | 0, _ => trivial
  | fuel + 1, text => by
    unfold readValue
    split
    · next rest =>
      split
      · trivial
      · next content after taken =>
        exact (takeString_suffix taken).trans (List.suffix_cons _ rest)
    · next rest =>
      have start : skipSpace rest <:+ '[' :: rest :=
        (skipSpace_suffix rest).trans (List.suffix_cons _ rest)
      split
      · next after same =>
        rw [same] at start
        exact (List.suffix_cons _ after).trans start
      · exact ((readsIn_readItems limit fuel _).of_suffix start).bind fun _ _ suffix => suffix
    · next rest =>
      have start : skipSpace rest <:+ '{' :: rest :=
        (skipSpace_suffix rest).trans (List.suffix_cons _ rest)
      split
      · next after same =>
        rw [same] at start
        exact (List.suffix_cons _ after).trans start
      · exact ((readsIn_readMembers limit fuel _ _).of_suffix start).bind fun _ _ suffix => suffix
    · exact readsIn_readAtom limit text

theorem readsIn_readItems (limit : Option Nat) : ∀ (fuel : Nat) (text : List Char),
    ReadsIn limit text (readItems limit fuel text)
  | 0, _ => trivial
  | fuel + 1, text => by
    unfold readItems
    refine (readsIn_readValue limit fuel text).bind fun item afterItem suffix => ?_
    have start := (skipSpace_suffix afterItem).trans suffix
    dsimp only
    split
    · next after same =>
      rw [same] at start
      exact (List.suffix_cons _ after).trans start
    · next next same =>
      rw [same] at start
      have later := (skipSpace_suffix next).trans ((List.suffix_cons _ next).trans start)
      exact ((readsIn_readItems limit fuel _).of_suffix later).bind fun _ _ last => last
    · trivial

theorem readsIn_readMembers (limit : Option Nat) :
    ∀ (fuel : Nat) (entries : List (Value × Value)) (text : List Char),
    ReadsIn limit text (readMembers limit fuel entries text)
  | 0, _, _ => trivial
  | fuel + 1, entries, text => by
    unfold readMembers
    split
    · next rest =>
      split
      · trivial
      · next name afterName taken =>
        have named : afterName <:+ '"' :: rest :=
          (takeString_suffix taken).trans (List.suffix_cons _ rest)
        have colon := (skipSpace_suffix afterName).trans named
        split
        · next afterColon same =>
          rw [same] at colon
          have start := (skipSpace_suffix afterColon).trans
            ((List.suffix_cons _ afterColon).trans colon)
          refine ((readsIn_readValue limit fuel _).of_suffix start).bind ?_
          intro value afterValue suffix
          have rests := (skipSpace_suffix afterValue).trans suffix
          dsimp only
          split
          · next after same =>
            rw [same] at rests
            exact (List.suffix_cons _ after).trans rests
          · next next same =>
            rw [same] at rests
            exact (readsIn_readMembers limit fuel _ _).of_suffix
              ((skipSpace_suffix next).trans ((List.suffix_cons _ next).trans rests))
          · trivial
        · trivial
    · trivial

end

/-- **A document that is stopped over at an integer has it**, with more digits than the limit. -/
theorem longInteger_of_read {limit : Option Nat} {text : String} {digits : Nat}
    (stopped : read limit text = .error (.integerTooLong digits)) :
    LongInteger limit text.toList digits := by
  have reads := (readsIn_readValue limit (text.toList.length + 1)
    (skipSpace text.toList)).of_suffix (skipSpace_suffix text.toList)
  unfold read at stopped
  dsimp only at stopped
  cases result : readValue limit (text.toList.length + 1) (skipSpace text.toList) with
  | ok value =>
    rw [result] at stopped
    dsimp only [Bind.bind, Except.bind] at stopped
    split at stopped <;> cases stopped
  | error fault =>
    rw [result] at reads stopped
    cases stopped
    exact reads

/-- The digits of an integer that does not start with a zero are read as one whole. -/
theorem takeWhole_digits {digits : List Char} (all : ∀ c ∈ digits, isDigit c = true)
    (first : digits.head? ≠ some '0') : takeWhole digits = (digits, []) := by
  unfold takeWhole
  split
  · next rest => exact absurd rfl first
  · rw [List.takeWhile_eq_self_iff.2 all, List.dropWhile_eq_nil_iff.2 all]

/-- What starts with a digit is read as a number. -/
theorem readValue_digit {limit : Option Nat} {fuel : Nat} {first : Char} {rest : List Char}
    (digit : isDigit first = true) :
    readValue limit (fuel + 1) (first :: rest) = readUnsigned limit false (first :: rest) := by
  have apart : ∀ c, isDigit c = false → first ≠ c := by
    rintro c other rfl
    exact Bool.noConfusion (digit.symm.trans other)
  have atom : readAtom limit (first :: rest) = readUnsigned limit false (first :: rest) := by
    unfold readAtom
    split <;> first
      | rfl
      | next same => exact absurd (List.cons.inj same).1 (apart _ rfl)
  unfold readValue
  split
  · next same => exact absurd (List.cons.inj same).1 (apart _ rfl)
  · next same => exact absurd (List.cons.inj same).1 (apart _ rfl)
  · next same => exact absurd (List.cons.inj same).1 (apart _ rfl)
  · exact atom

/-- An integer that has too many digits is not read, though it is well formed. -/
theorem read_digits {bound : Nat} {digits : List Char} (all : ∀ c ∈ digits, isDigit c = true)
    (first : digits.head? ≠ some '0') (long : bound < digits.length) :
    read (some bound) (String.ofList digits) = .error (.integerTooLong digits.length) := by
  have unsigned : readUnsigned (some bound) false digits =
      .error (.integerTooLong digits.length) := by
    have nonempty : digits.isEmpty = false :=
      List.isEmpty_eq_false_iff.2 (List.length_pos_iff.1 (Nat.zero_lt_of_lt long))
    simp [readUnsigned, takeWhole_digits all first, nonempty, takeFraction, takeExponent, long]
  cases digits with
  | nil => exact absurd long (Nat.not_lt_zero bound)
  | cons digit rest =>
    have own := all digit List.mem_cons_self
    have unspaced : skipSpace (digit :: rest) = digit :: rest := by
      refine List.dropWhile_cons_of_neg fun space => ?_
      simp only [isSpace, Bool.or_eq_true, beq_iff_eq] at space
      rcases space with ((rfl | rfl) | rfl) | rfl <;> contradiction
    rw [read]
    dsimp only
    rw [String.toList_ofList, unspaced, readValue_digit own, unsigned]
    rfl

end ViewLayout.Json
