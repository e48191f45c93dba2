import Mathlib.Data.List.InsertIdx
import ViewLayout.Proofs.Yaml.Steps
import ViewLayout.Yaml.Tokens

/-!
# What stops a scan

The tokens of a text end early where the rules are broken, at a version whose number has too many
digits, or at an escape for a character that there is not.
-/

namespace ViewLayout.Yaml

/-- Why a text cannot be divided into tokens. -/
inductive Unscannable : Fault → Prop
  | problem (problem : Problem) : Unscannable (.problem problem)
  /-- A part of a version has too many digits. -/
  | version {digits : Nat} (long : Numeral.integerDigitLimit < digits) :
    Unscannable (.unreadable (.integerTooLong digits))
  /-- A character is escaped by a number that none has. -/
  | noSuchCharacter : Unscannable (.unreadable .noSuchCharacter)
  | characterTooLarge : Unscannable (.unreadable .characterTooLarge)

variable {α : Type}

/-- A part of a text is scanned, or there is a reason that it cannot be. -/
abbrev Scans (reading : Except Fault α) (gives : α → Prop) : Prop :=
  Ends Unscannable reading gives

/-- A part of a text is scanned, and gives anything. -/
abbrev ScansOn (reading : Except Fault α) : Prop :=
  Scans reading fun _ => True

theorem scans_ok (value : α) : ScansOn (.ok value) :=
  trivial

theorem scans_refuse {gives : α → Prop} (problem : Problem) :
    Scans (.error (.problem problem) : Except Fault α) gives :=
  Unscannable.problem problem

theorem scans_either {c : Prop} [Decidable c] {reading other : Except Fault α} {gives : α → Prop}
    (scans : Scans reading gives) (otherwise : Scans other gives) :
    Scans (if c then reading else other) gives := by
  split
  · exact scans
  · exact otherwise

theorem scans_unless {c : Prop} [Decidable c] {reading : Except Fault α} {gives : α → Prop}
    (problem : Problem) (scans : Scans reading gives) :
    Scans (if c then .error (.problem problem) else reading) gives :=
  scans_either (scans_refuse problem) scans

/-- A token that is not the end of what can be read. -/
def Token.IsWhole (token : Token) : Prop :=
  ∀ fault, token ≠ .broken fault

/-- A token that is whole, and the place after it. -/
abbrev ScansToken (reading : Except Fault (Token × Cursor)) : Prop :=
  Scans reading fun result => result.1.IsWhole

/-- Scanning a name meets no scalar without a value. -/
theorem scans_scanName (cursor : Cursor) : ScansOn (scanName cursor) := by
  unfold scanName
  dsimp only
  split
  · exact scans_refuse _
  · split
    · trivial
    · exact scans_refuse _

theorem scans_takeEscapes : ∀ (fuel : Nat) (cursor : Cursor), ScansOn (takeEscapes fuel cursor)
  | 0, _ => trivial
  | fuel + 1, cursor => by
    unfold takeEscapes
    split
    · split
      · exact (scans_takeEscapes fuel _).bind fun _ _ => trivial
      · exact scans_refuse _
    · trivial

theorem scans_takeSuffix : ∀ (fuel : Nat) (cursor : Cursor), ScansOn (takeSuffix fuel cursor)
  | 0, _ => trivial
  | fuel + 1, cursor => by
    unfold takeSuffix
    dsimp only
    split
    · refine (scans_takeEscapes _ cursor).bind ?_
      rintro ⟨bytes, next⟩ -
      split
      · exact scans_refuse _
      · exact (scans_takeSuffix fuel _).bind fun _ _ => trivial
    · split
      · exact (scans_takeSuffix fuel _).bind fun _ _ => trivial
      · trivial

theorem scans_scanSuffix (cursor : Cursor) : ScansOn (scanSuffix cursor) := by
  unfold scanSuffix
  refine (scans_takeSuffix _ cursor).bind fun suffix _ => ?_
  dsimp only
  split
  · exact scans_refuse _
  · trivial

theorem scans_scanHandle (cursor : Cursor) : ScansOn (scanHandle cursor) := by
  unfold scanHandle
  dsimp only
  split
  · exact scans_refuse _
  · split
    · trivial
    · split
      · trivial
      · exact scans_refuse _

theorem scans_scanVersionNumber (cursor : Cursor) : ScansOn (scanVersionNumber cursor) := by
  unfold scanVersionNumber
  dsimp only
  split
  · exact scans_refuse _
  · split
    · next long => exact Unscannable.version long
    · trivial

theorem scans_scanVersion (cursor : Cursor) : ScansOn (scanVersion cursor) := by
  unfold scanVersion
  refine (scans_scanVersionNumber _).bind fun major _ => ?_
  dsimp only
  split
  · exact scans_refuse _
  · refine (scans_scanVersionNumber _).bind ?_
    rintro ⟨minor, after⟩ -
    split
    · trivial
    · exact scans_refuse _

theorem scans_scanTagPrefix (cursor : Cursor) : ScansOn (scanTagPrefix cursor) := by
  unfold scanTagPrefix
  refine (scans_scanHandle _).bind fun handle _ => ?_
  dsimp only
  split
  · exact scans_refuse _
  · refine (scans_scanSuffix _).bind ?_
    rintro ⟨meaning, after⟩ -
    split
    · trivial
    · exact scans_refuse _

theorem scans_scanTag (cursor : Cursor) : ScansToken (scanTag cursor) := by
  have ending : ∀ parts : Option String × String × Cursor, ScansToken
      (if isGap parts.2.2.peek then .ok (.tag parts.1 parts.2.1, parts.2.2)
      else .error (.problem .badTag)) := by
    intro parts
    split
    · exact fun _ => nofun
    · exact scans_refuse _
  unfold scanTag
  dsimp only
  split
  · refine (scans_scanSuffix _).bind fun suffix _ => ?_
    split
    · exact (scans_ok _).bind fun parts _ => ending parts
    · exact scans_refuse _
  · split
    · exact (scans_ok _).bind fun parts _ => ending parts
    · split
      · exact (scans_scanHandle _).bind fun handle _ => (scans_scanSuffix _).bind fun suffix _ =>
          (scans_ok _).bind fun parts _ => ending parts
      · exact (scans_ok _).bind fun start _ => (scans_scanSuffix _).bind fun suffix _ =>
          (scans_ok _).bind fun parts _ => ending parts

theorem scans_scanDirective (cursor : Cursor) : ScansToken (scanDirective cursor) := by
  have ending : ∀ (content : Directive) (after : Cursor), ScansToken
      (if isBreakOrEnd after.skipBlanks.skipComment.peek then
        .ok (.directive content, after.skipBlanks.skipComment.skipBreak)
      else .error (.problem .badDirective)) := by
    intro content after
    split
    · exact fun _ => nofun
    · exact scans_refuse _
  unfold scanDirective
  dsimp only
  split
  · exact scans_refuse _
  · split
    · exact (scans_scanVersion _).bind fun version _ => ending version.1 version.2
    · split
      · exact (scans_scanTagPrefix _).bind fun tagPrefix _ => ending tagPrefix.1 tagPrefix.2
      · dsimp only [Bind.bind, Except.bind]
        exact ending .other _

theorem Block.scans_header (cursor : Cursor) : ScansOn (header cursor) := by
  have indented : ∀ cursor : Cursor, ScansOn (takeIndentation cursor) := by
    intro cursor
    unfold takeIndentation
    dsimp only
    split
    · split
      · exact scans_refuse _
      · trivial
    · trivial
  unfold header
  refine (indented _).bind fun indentation _ => ?_
  dsimp only
  refine scans_unless _ (scans_unless _ ?_)
  trivial

theorem Block.scans_scan (folded : Bool) (indent : Int) (cursor : Cursor) :
    ScansOn (scan folded indent cursor) :=
  (scans_header _).bind fun _ _ => trivial

namespace Quoted

theorem scans_charsOf (code : Nat) : ScansOn (charsOf code) := by
  unfold charsOf
  split
  · trivial
  · split
    · exact Unscannable.noSuchCharacter
    · exact Unscannable.characterTooLarge

theorem scans_emptyLines : ∀ (fuel : Nat) (cursor : Cursor), ScansOn (emptyLines fuel cursor)
  | 0, _ => trivial
  | fuel + 1, cursor => by
    unfold emptyLines
    dsimp only
    split
    · exact scans_refuse _
    · split
      · trivial
      · exact (scans_emptyLines fuel _).bind fun _ _ => trivial

theorem scans_spaces (cursor : Cursor) : ScansOn (spaces cursor) := by
  unfold spaces
  dsimp only
  split
  · exact scans_refuse _
  · split
    · trivial
    · refine (scans_emptyLines _ _).bind ?_
      rintro ⟨breaks, last⟩ -
      split
      · trivial
      · split <;> trivial

theorem scans_escape (cursor : Cursor) : ScansOn (escape cursor) := by
  unfold escape
  dsimp only
  split
  · trivial
  · split
    · split
      · exact scans_refuse _
      · exact (scans_charsOf _).bind fun _ _ => trivial
    · split
      · exact scans_emptyLines _ _
      · exact scans_refuse _

theorem scans_word (double : Bool) : ∀ (fuel : Nat) (cursor : Cursor),
    ScansOn (word double fuel cursor)
  | 0, _ => trivial
  | fuel + 1, cursor => by
    have inner := scans_word double fuel
    unfold word
    dsimp only
    generalize (if double then '"' else '\'') = quote
    split
    · trivial
    · split
      · exact (inner _).bind fun _ _ => trivial
      · split
        · trivial
        · split
          · exact (scans_escape _).bind fun _ _ => (inner _).bind fun _ _ => trivial
          · exact (inner _).bind fun _ _ => trivial

theorem scans_content (double : Bool) : ∀ (fuel : Nat) (cursor : Cursor),
    ScansOn (content double fuel cursor)
  | 0, _ => scans_refuse _
  | fuel + 1, cursor => by
    unfold content
    refine (scans_word double _ _).bind fun chars _ => ?_
    dsimp only
    generalize (if double then '"' else '\'') = quote
    split
    · trivial
    · exact (scans_spaces _).bind fun _ _ => (scans_content double fuel _).bind fun _ _ => trivial

theorem scans_scan (double : Bool) (cursor : Cursor) : ScansOn (scan double cursor) :=
  (scans_content double _ _).bind fun _ _ => trivial

end Quoted

namespace Scanner

variable {scanner : Scanner}

/-- All tokens so far are whole. -/
def IsWhole (scanner : Scanner) : Prop :=
  ∀ token ∈ scanner.tokens, token.IsWhole

/-- A scanner goes on with whole tokens, or there is a reason that it cannot. -/
abbrev Advances (reading : Except Fault Scanner) : Prop :=
  Scans reading IsWhole

theorem IsWhole.push (whole : scanner.IsWhole) {token : Token} (isWhole : token.IsWhole) :
    (scanner.push token).IsWhole :=
  List.forall_mem_cons.2 ⟨isWhole, whole⟩

theorem IsWhole.insert (whole : scanner.IsWhole) (position : Nat) {token : Token}
    (isWhole : token.IsWhole) : (scanner.insert position token).IsWhole := by
  intro other member
  rcases List.eq_or_mem_of_mem_insertIdx member with rfl | earlier
  · exact isWhole
  · exact whole other earlier

/-- Closing blocks pushes whole tokens. -/
theorem IsWhole.closeTo (column : Int) : ∀ (outer : List Int) {scanner : Scanner},
    scanner.IsWhole → (closeTo column outer scanner).IsWhole
  | [], _, whole => whole
  | around :: outer, scanner, whole => by
    unfold Scanner.closeTo
    split
    · exact IsWhole.closeTo column outer (whole.push fun _ => nofun)
    · exact whole

theorem IsWhole.closeBlocks (whole : scanner.IsWhole) (column : Int) :
    (scanner.closeBlocks column).IsWhole := by
  unfold Scanner.closeBlocks
  split
  · exact whole
  · exact whole.closeTo column _

/-- Opening a block inserts a whole token. -/
theorem IsWhole.openBlock (whole : scanner.IsWhole) (column position : Nat) (token : Token)
    (isWhole : token.IsWhole) : (scanner.openBlock column position token).IsWhole := by
  unfold Scanner.openBlock
  split
  · exact whole.insert position isWhole
  · exact whole

theorem IsWhole.skipGap : ∀ (fuel : Nat) {scanner : Scanner}, scanner.IsWhole →
    (skipGap fuel scanner).IsWhole
  | 0, _, whole => whole
  | fuel + 1, scanner, whole => by
    unfold Scanner.skipGap
    dsimp only
    split
    · exact whole
    · exact IsWhole.skipGap fuel whole

theorem IsWhole.dropKeyStart (whole : scanner.IsWhole) : Advances scanner.dropKeyStart := by
  unfold Scanner.dropKeyStart
  split
  · exact scans_refuse _
  · exact whole

theorem IsWhole.dropStaleStarts (whole : scanner.IsWhole) : Advances scanner.dropStaleStarts := by
  unfold Scanner.dropStaleStarts
  split
  · exact scans_refuse _
  · exact whole

theorem IsWhole.saveKeyStart (whole : scanner.IsWhole) : Advances scanner.saveKeyStart := by
  unfold Scanner.saveKeyStart
  split
  · exact whole.dropKeyStart.bind fun _ cleared => cleared
  · exact whole

section

variable (whole : scanner.IsWhole)
include whole

theorem advances_documentMark {mark : Token} (isWhole : mark.IsWhole) :
    Advances (scanner.documentMark mark) :=
  (whole.closeBlocks (-1)).dropKeyStart.bind fun _ closed => closed.push isWhole

theorem advances_directive : Advances scanner.directive :=
  (whole.closeBlocks (-1)).dropKeyStart.bind fun _ closed =>
    (scans_scanDirective _).bind fun _ isWhole => closed.push isWhole

theorem advances_openFlow {mark : Token} (isWhole : mark.IsWhole) :
    Advances (scanner.openFlow mark) :=
  whole.saveKeyStart.bind fun _ saved => saved.push isWhole

theorem advances_closeFlow {mark : Token} (isWhole : mark.IsWhole) :
    Advances (scanner.closeFlow mark) := by
  unfold closeFlow
  split
  · exact whole.dropKeyStart.bind fun _ cleared => cleared.push isWhole
  · exact scans_refuse _

theorem advances_flowEntry : Advances scanner.flowEntry :=
  whole.dropKeyStart.bind fun _ cleared => cleared.push fun _ => nofun

theorem advances_blockEntry : Advances scanner.blockEntry := by
  unfold blockEntry
  refine scans_unless _ ?_
  dsimp only
  split
  · exact whole.dropKeyStart.bind fun _ cleared => cleared.push fun _ => nofun
  · refine (whole.openBlock _ _ .blockSequenceStart fun _ => nofun).dropKeyStart.bind ?_
    exact fun _ cleared => cleared.push fun _ => nofun

theorem advances_explicitKey : Advances scanner.explicitKey := by
  unfold explicitKey
  refine scans_unless _ ?_
  dsimp only
  split
  · exact whole.dropKeyStart.bind fun _ cleared => cleared.push fun _ => nofun
  · exact (whole.openBlock _ _ .blockMappingStart fun _ => nofun).dropKeyStart.bind fun _ cleared =>
      cleared.push fun _ => nofun

theorem advances_value : Advances scanner.value := by
  unfold value
  split
  · next start _ =>
    have marked : (scanner.forgetKeyStart.insert start.position .key).IsWhole :=
      IsWhole.insert whole _ fun _ => nofun
    dsimp only
    split
    · exact marked.push fun _ => nofun
    · exact (marked.openBlock _ _ .blockMappingStart fun _ => nofun).push fun _ => nofun
  · refine scans_unless _ ?_
    dsimp only
    split
    · exact whole.push fun _ => nofun
    · exact (whole.openBlock _ _ .blockMappingStart fun _ => nofun).push fun _ => nofun

/-- A property that is scanned is a whole token. -/
theorem advances_property {scan : Cursor → Except Fault (Token × Cursor)}
    (scans : ∀ cursor, ScansToken (scan cursor)) : Advances (scanner.property scan) :=
  whole.saveKeyStart.bind fun _ saved => (scans _).bind fun _ isWhole => saved.push isWhole

theorem advances_blockScalar (folded : Bool) : Advances (scanner.blockScalar folded) :=
  whole.dropKeyStart.bind fun _ cleared => (Block.scans_scan _ _ _).bind fun _ _ =>
    cleared.push fun _ => nofun

theorem advances_plainScalar : Advances scanner.plainScalar :=
  whole.saveKeyStart.bind fun _ saved => saved.push fun _ => nofun

omit whole in
theorem scans_alias (cursor : Cursor) :
    ScansToken (do
      let (name, after) ← scanName cursor
      .ok (.alias name, after)) :=
  (scans_scanName cursor).bind fun _ _ _ => nofun

omit whole in
theorem scans_anchor (cursor : Cursor) :
    ScansToken (do
      let (name, after) ← scanName cursor
      .ok (.anchor name, after)) :=
  (scans_scanName cursor).bind fun _ _ _ => nofun

omit whole in
theorem scans_quoted (double : Bool) (cursor : Cursor) :
    ScansToken (do
      let (text, after) ← Quoted.scan double cursor
      .ok (.scalar text false, after)) :=
  (Quoted.scans_scan double cursor).bind fun _ _ _ => nofun

/-- A scanner goes on with whole tokens, whatever token comes next. -/
theorem advances_token : Advances scanner.token := by
  unfold token
  dsimp only
  refine scans_either (advances_directive whole) ?_
  refine scans_either (advances_documentMark whole fun _ => nofun) ?_
  refine scans_either (advances_documentMark whole fun _ => nofun) ?_
  refine scans_either (advances_openFlow whole fun _ => nofun) ?_
  refine scans_either (advances_openFlow whole fun _ => nofun) ?_
  refine scans_either (advances_closeFlow whole fun _ => nofun) ?_
  refine scans_either (advances_closeFlow whole fun _ => nofun) ?_
  refine scans_either (advances_flowEntry whole) ?_
  refine scans_either (advances_blockEntry whole) ?_
  refine scans_either (advances_explicitKey whole) ?_
  refine scans_either (advances_value whole) ?_
  refine scans_either (advances_property whole scans_alias) ?_
  refine scans_either (advances_property whole scans_anchor) ?_
  refine scans_either (advances_property whole scans_scanTag) ?_
  refine scans_either (advances_blockScalar whole false) ?_
  refine scans_either (advances_blockScalar whole true) ?_
  refine scans_either (advances_property whole (scans_quoted _)) ?_
  exact scans_either (advances_plainScalar whole) (scans_refuse _)

theorem advances_finish : Advances scanner.finish :=
  (whole.closeBlocks (-1)).dropKeyStart

end

/-- Tokens are whole, and the last one may tell why there are no more. -/
def AreScanned (tokens : List Token) : Prop :=
  ∀ fault, Token.broken fault ∈ tokens → Unscannable fault

/-- Tokens that are whole are scanned. -/
theorem IsWhole.areScanned (whole : scanner.IsWhole) : AreScanned scanner.tokens.reverse :=
  fun fault member => absurd rfl (whole _ (List.mem_reverse.1 member) fault)

/-- Behind whole tokens the fault may stand that stopped the scanner. -/
theorem IsWhole.areScanned_stopped (whole : scanner.IsWhole) {fault : Fault}
    (reason : Unscannable fault) : AreScanned (scanner.settledTokens ++ [.broken fault]) := by
  intro other member
  rcases List.mem_append.1 member with settled | last
  · exact absurd rfl (whole _ (List.mem_of_mem_drop (List.mem_reverse.1 settled)) other)
  · cases List.mem_singleton.1 last
    exact reason

/-- All that a run of the scanner leaves is scanned. -/
theorem areScanned_run : ∀ (fuel : Nat) {scanner : Scanner}, scanner.IsWhole →
    AreScanned (run fuel scanner)
  | 0, _, whole => whole.areScanned
  | fuel + 1, scanner, whole => by
    -- Before the next token the scanner is whole at each point where it may stop.
    have placed := (IsWhole.skipGap (scanner.cursor.size + 1) whole).dropStaleStarts
    unfold run
    dsimp only
    split
    · next fault failed => exact whole.areScanned_stopped (placed.fault failed)
    · next fresh same =>
      have current := (placed.value same).closeBlocks fresh.cursor.column
      have last := advances_finish current
      have going := advances_token current
      split
      · split
        · next fault failed => exact whole.areScanned_stopped (last.fault failed)
        · next done ended => exact (last.value ended).areScanned
      · split
        · next fault failed => exact whole.areScanned_stopped (going.fault failed)
        · next later gone => exact areScanned_run fuel (going.value gone)

end Scanner

/-- **A text is divided into tokens to its end, or there is a reason that it cannot be.** -/
theorem unscannable_of_broken {text : List Char} {fault : Fault}
    (broken : Token.broken fault ∈ tokens text) : Unscannable fault := by
  unfold tokens at broken
  split at broken
  · exact Scanner.areScanned_run _ (fun _ none => absurd none List.not_mem_nil) _ broken
  · cases List.mem_singleton.1 broken
    exact .problem _

end ViewLayout.Yaml
