import ViewLayout.Document.Read
import ViewLayout.Proofs.Json.Integers
import ViewLayout.Proofs.Yaml.Assembly
import ViewLayout.Proofs.Yaml.Tokens

/-!
# Texts that are refused

A text that is no mapping in JSON or YAML is refused with an error that says so, but for one kind of
texts: where reading meets a part that breaks no rule and has no value, the cause is passed on as it
is. `Source.entries_text` says just when that happens, for any library that reads YAML as it is
documented to. `Yaml.library` is the one that is used, and `Yaml.hasValueless_of_read` says which
part of a text it stops at.
-/

namespace ViewLayout

/-- Whether an error says that a layout is not valid. -/
def DocumentError.isValidation : DocumentError → Bool
  | unsupportedSource _ => true
  | invalid _ => true
  | notMapping => true
  | rootNotMapping => true
  | unreadable _ => false
  | unshowable _ => false

namespace Yaml

/-- A library that reads YAML, with what is documented of it: a text that breaks the rules of
YAML is a problem, a text of valid syntax in which a scalar has no value stops the reading with a
cause, and all others are read. Which texts these are is for the library to say. -/
structure Library where
  read : Reader
  IsMalformed : String → Prop
  IsValueless : String → Prop
  malformed : ∀ text, IsMalformed text → ∃ problem, read text = .error (.problem problem)
  valueless : ∀ text, IsValueless text → ∃ cause, read text = .error (.unreadable cause)
  others : ∀ text, ¬ IsMalformed text → ¬ IsValueless text → ∃ value, read text = .ok value

namespace Library

variable {yaml : Library} {text : String} {cause : Unreadable}

/-- A library stops with a cause at nothing but a scalar that has no value. -/
theorem isValueless_of_read (stopped : yaml.read text = .error (.unreadable cause)) :
    yaml.IsValueless text := by
  refine Classical.byContradiction fun other => ?_
  by_cases broken : yaml.IsMalformed text
  · obtain ⟨problem, failed⟩ := yaml.malformed text broken
    rw [failed] at stopped
    cases stopped
  · obtain ⟨value, read⟩ := yaml.others text broken other
    rw [read] at stopped
    cases stopped

end Library

/-- The reader that documents are read with, as a library. -/
def library : Library where
  read := Yaml.read
  IsMalformed text := ∃ problem, Yaml.read text = .error (.problem problem)
  IsValueless text := ∃ cause, Yaml.read text = .error (.unreadable cause)
  malformed := fun _ broken => broken
  valueless := fun _ stopped => stopped
  others := by
    intro text sound valued
    match read : Yaml.read text with
    | .ok value => exact ⟨value, rfl⟩
    | .error (.problem problem) => exact absurd ⟨problem, read⟩ sound
    | .error (.unreadable cause) => exact absurd ⟨cause, read⟩ valued

/-- The parts of a YAML text that have no value. -/
inductive HasValueless (text : String) (cause : Unreadable) : Prop
  /-- A part of the text cannot be divided into tokens. -/
  | part (broken : Token.broken (.unreadable cause) ∈ tokens text.toList)
    (reason : Unscannable (.unreadable cause))
  /-- A scalar has no value. -/
  | scalar (valueless : Valueless (tokens text.toList) (.unreadable cause))

/-- What stops the reading of a text is a part of it. -/
theorem hasValueless_of_read {text : String} {cause : Unreadable}
    (failed : read text = .error (.unreadable cause)) : HasValueless text cause := by
  have comes := Document.comes_from_tokens (tokens text.toList)
  unfold read at failed
  cases parsed : Document.ofTokens? (tokens text.toList) with
  | error fault =>
    rw [parsed] at failed
    cases failed
    cases comes.fault parsed with
    | broken member => exact .part member (unscannable_of_broken member)
  | ok document? =>
    rw [parsed] at failed
    cases document? with
    | none => cases failed
    | some document =>
      have texts := comes.value parsed document rfl
      exact .scalar ((document.toValue_ends texts).fault failed)

end Yaml

namespace Source

open Numeral Yaml

variable {reader : Reader} {text : String} {cause : Unreadable}

/-- When a text is not refused although it cannot be read. -/
theorem readText_eq_unreadable :
    readText reader text = .error (.unreadable cause) ↔
      (∃ digits, Json.read (some integerDigitLimit) text = .error (.integerTooLong digits) ∧
        cause = .integerTooLong digits) ∨
      Json.read (some integerDigitLimit) text = .error .malformed ∧
        reader text = .error (.unreadable cause) := by
  unfold readText
  split
  · next value json => simp [json]
  · next digits json => simp [json, eq_comm]
  · next json =>
    split
    · next value yaml => simp [json, yaml]
    · next problem yaml => simp [json, yaml]
    · next other yaml => simp [json, yaml]

/-- A text that cannot be read is refused with a validation error, or a cause is passed on. -/
theorem isValidation_of_readText {fault : DocumentError}
    (failed : readText reader text = .error fault) :
    fault.isValidation = true ∨ ∃ cause, fault = .unreadable cause := by
  unfold readText at failed
  split at failed
  · cases failed
  · cases failed
    exact .inr ⟨_, rfl⟩
  · split at failed
    · cases failed
    · cases failed
      exact .inl rfl
    · cases failed
      exact .inr ⟨_, rfl⟩

/-- A text has entries if it is read as a mapping. -/
theorem entriesWith_text (reader : Reader) (text : String) :
    entriesWith reader (.text text) =
      match readText reader text with
      | .error fault => .error fault
      | .ok value =>
        match value.entries? with
        | some entries => .ok entries
        | none => .error .notMapping := by
  unfold entriesWith
  dsimp only
  cases readText reader text <;> rfl

/-- A cause is passed on for entries exactly if it is for the text. -/
theorem entriesWith_eq_unreadable :
    entriesWith reader (.text text) = .error (.unreadable cause) ↔
      readText reader text = .error (.unreadable cause) := by
  rw [entriesWith_text]
  cases readText reader text with
  | error fault => simp
  | ok value => cases mapped : value.entries? <;> simp [mapped]

/-- When reading passes a cause on: exactly where an integer stops the reading of JSON, or the
text is no JSON and a scalar in its YAML has no value. -/
theorem exists_unreadable_iff (yaml : Library) (text : String) :
    (∃ cause, entriesWith yaml.read (.text text) = .error (.unreadable cause)) ↔
      (∃ digits, Json.read (some integerDigitLimit) text = .error (.integerTooLong digits)) ∨
        Json.read (some integerDigitLimit) text = .error .malformed ∧ yaml.IsValueless text := by
  simp only [entriesWith_eq_unreadable, readText_eq_unreadable]
  constructor
  · rintro ⟨cause, ⟨digits, json, -⟩ | ⟨json, stopped⟩⟩
    · exact .inl ⟨digits, json⟩
    · exact .inr ⟨json, Library.isValueless_of_read stopped⟩
  · rintro (⟨digits, json⟩ | ⟨json, valueless⟩)
    · exact ⟨_, .inl ⟨digits, json, rfl⟩⟩
    · obtain ⟨cause, stopped⟩ := yaml.valueless text valueless
      exact ⟨cause, .inr ⟨json, stopped⟩⟩

/-- What comes of a text that is read for its entries. -/
structure Ends (yaml : Library) (text : String) : Prop where
  /-- It has entries, or it is refused with an error that says so, or a cause is passed on. -/
  kinds : ∀ fault, entriesWith yaml.read (.text text) = .error fault →
    fault.isValidation = true ∨ ∃ cause, fault = .unreadable cause
  /-- A cause is passed on exactly where an integer stops the reading of JSON, or the text is no
  JSON and a scalar in its YAML has no value. -/
  passedOn : (∃ cause, entriesWith yaml.read (.text text) = .error (.unreadable cause)) ↔
    (∃ digits, Json.read (some integerDigitLimit) text = .error (.integerTooLong digits)) ∨
      Json.read (some integerDigitLimit) text = .error .malformed ∧ yaml.IsValueless text
  /-- It is as many digits of an integer as stand in the text and are too many, or else the
  library's own. -/
  cause : ∀ cause, entriesWith yaml.read (.text text) = .error (.unreadable cause) →
    (∃ digits, cause = .integerTooLong digits ∧
      Json.LongInteger (some integerDigitLimit) text.toList digits) ∨
    yaml.read text = .error (.unreadable cause)
  /-- What is malformed in both formats is refused. -/
  refused : Json.read (some integerDigitLimit) text = .error .malformed → yaml.IsMalformed text →
    ∃ problem, entriesWith yaml.read (.text text) = .error (.invalid problem)

/-- **A text is a mapping or is refused, or a part of it has no value**, and then nothing says that
the layout is not valid. -/
theorem entries_text (yaml : Library) (text : String) : Ends yaml text where
  kinds := by
    intro fault failed
    rw [entriesWith_text] at failed
    cases read : readText yaml.read text with
    | error other =>
      rw [read] at failed
      cases failed
      exact isValidation_of_readText read
    | ok value =>
      rw [read] at failed
      cases mapped : value.entries? <;> simp only [mapped] at failed <;> cases failed
      exact .inl rfl
  passedOn := exists_unreadable_iff yaml text
  cause := by
    intro cause failed
    rw [entriesWith_eq_unreadable, readText_eq_unreadable] at failed
    rcases failed with ⟨digits, json, same⟩ | ⟨-, stopped⟩
    · exact .inl ⟨digits, same, Json.longInteger_of_read json⟩
    · exact .inr stopped
  refused := by
    intro json malformed
    obtain ⟨problem, failed⟩ := yaml.malformed text malformed
    refine ⟨problem, ?_⟩
    simp only [entriesWith_text, readText, json, failed]

/-- A day that is not in the calendar has no value. -/
theorem read_impossibleDay :
    Yaml.read "when: 2024-02-30" = .error (.unreadable .dayOutOfRange) := by
  have found : Except.casesOn (motive := fun _ => Bool) (Yaml.read "when: 2024-02-30")
      (fun fault => decide (fault = .unreadable .dayOutOfRange)) (fun _ => false) = true := by
    decide +kernel
  -- The reading is evaluated once, above, and is only named here.
  generalize Yaml.read "when: 2024-02-30" = read at found ⊢
  cases read with
  | error fault => exact congrArg _ (of_decide_eq_true found)
  | ok _ => cases found

/-- The reader that is used is such a library, and such a day has no value for it. -/
theorem ends_impossibleDay :
    library.IsValueless "when: 2024-02-30" ∧ Ends library "when: 2024-02-30" :=
  ⟨⟨_, read_impossibleDay⟩, entries_text library _⟩

/-- A day that is not in the calendar is passed on, by any library for which that day has no value.
No error says that the layout is not valid. -/
theorem entries_impossibleDay :
    (∀ yaml : Library, yaml.IsValueless "when: 2024-02-30" →
      ∃ cause, entriesWith yaml.read (.text "when: 2024-02-30") = .error (.unreadable cause) ∧
        (DocumentError.unreadable cause).isValidation = false) ∧
      entries (.text "when: 2024-02-30") = .error (.unreadable .dayOutOfRange) ∧
        (DocumentError.unreadable .dayOutOfRange).isValidation = false := by
  have noJson : Json.read (some integerDigitLimit) "when: 2024-02-30" = .error .malformed := rfl
  refine ⟨fun yaml valueless => ?_, ?_, rfl⟩
  · obtain ⟨cause, failed⟩ := (exists_unreadable_iff yaml _).2 (.inr ⟨noJson, valueless⟩)
    exact ⟨cause, failed, rfl⟩
  · exact entriesWith_eq_unreadable.2
      (readText_eq_unreadable.2 (.inr ⟨noJson, read_impossibleDay⟩))

/-- An integer of too many digits is passed on, whatever reads YAML. -/
theorem entriesWith_digits (reader : Reader) {digits : List Char}
    (all : ∀ c ∈ digits, Json.isDigit c = true) (first : digits.head? ≠ some '0')
    (long : integerDigitLimit < digits.length) :
    entriesWith reader (.text (String.ofList digits)) =
      .error (.unreadable (.integerTooLong digits.length)) :=
  entriesWith_eq_unreadable.2
    (readText_eq_unreadable.2 (.inl ⟨_, Json.read_digits all first long, rfl⟩))

end Source

end ViewLayout
