import ViewLayout.Directive.Read
import ViewLayout.Proofs.Directive.Names
import ViewLayout.Text.Blank

/-!
# Left sides of directives

The left side of a directive lists names of attributes. Spaces, colons and commas separate names,
and other white space does not, though no name that means something holds any.
`leftAttributes_exact` says which attributes a left side comes to, and that these are all that its
names between white space, colons and commas mean exactly if each of those that mean something
stands between spaces, colons and commas.
-/

namespace ViewLayout

namespace Attribute

/-- What can be named on the left of a directive: attributes, and several of them at once. -/
def vocabulary : List (String × List Attribute) :=
  [("leading", [leading]), ("left", [leading]), ("trailing", [trailing]), ("right", [trailing]),
    ("top", [top]), ("bottom", [bottom]), ("width", [width]), ("height", [height]),
    ("centerX", [centerX]), ("centerY", [centerY]), ("firstBaseline", [firstBaseline]),
    ("lastBaseline", [lastBaseline]), ("leadingMargin", [leadingMargin]),
    ("leftMargin", [leadingMargin]), ("trailingMargin", [trailingMargin]),
    ("rightMargin", [trailingMargin]), ("topMargin", [topMargin]), ("bottomMargin", [bottomMargin]),
    ("centerXWithinMargins", [centerXWithinMargins]),
    ("centerYWithinMargins", [centerYWithinMargins]),
    ("edges", [leading, top, trailing, bottom]), ("center", [centerX, centerY]),
    ("size", [width, height]),
    ("margins", [leadingMargin, topMargin, trailingMargin, bottomMargin])]

/-- The attributes that a name means; a name that is not in the vocabulary means none. -/
def meant (name : List Char) : List Attribute :=
  (vocabulary.lookup (String.ofList name)).getD []

/-- What is no key of a table is not found in it. -/
theorem lookup_eq_none {key : String} (unknown : key ∉ vocabulary.map Prod.fst) :
    vocabulary.lookup key = none := by
  rw [List.lookup_eq_none_iff]
  intro entry member
  refine bne_iff_ne.2 ?_
  rintro rfl
  exact unknown (List.mem_map_of_mem member)

/-- The key of an attribute is in the vocabulary. -/
theorem mem_vocabulary_of_ofKey? {key : String} {attr : Attribute}
    (named : ofKey? key = some attr) : key ∈ vocabulary.map Prod.fst := by
  unfold ofKey? at named
  split at named
  case h_5 =>
    obtain ⟨found, other⟩ := Option.filter_eq_some_iff.1 named
    obtain rfl : attr.name = key := by simpa using List.find?_some found
    cases attr <;> first | contradiction | decide
  all_goals decide

/-- The name of several attributes is in the vocabulary. -/
theorem mem_vocabulary_of_compound? {key : String} {attrs : List Attribute}
    (named : compound? key = some attrs) : key ∈ vocabulary.map Prod.fst := by
  unfold compound? at named
  split at named
  case h_5 => contradiction
  all_goals decide

/-- What a directive means by a name is what the vocabulary says, and nothing for another. -/
theorem expand_eq_lookup (key : String) : expand key = (vocabulary.lookup key).getD [] := by
  by_cases known : key ∈ vocabulary.map Prod.fst
  · have all : ∀ known ∈ vocabulary.map Prod.fst,
        expand known = (vocabulary.lookup known).getD [] := by decide
    exact all key known
  · have unnamed : ofKey? key = none :=
      Option.eq_none_iff_forall_ne_some.2 fun _ named => known (mem_vocabulary_of_ofKey? named)
    have single : compound? key = none :=
      Option.eq_none_iff_forall_ne_some.2 fun _ named => known (mem_vocabulary_of_compound? named)
    rw [expand, unnamed, single, lookup_eq_none known]

end Attribute

namespace Reading

/-- White space, colons and commas. -/
def isNameBreak (c : Char) : Bool :=
  Text.isBlank c || c == ':' || c == ','

/-- What separates names is no part of one. -/
theorem isNameBreak_of_isAttributeSeparator (c : Char) (separates : isAttributeSeparator c = true) :
    isNameBreak c = true := by
  simp only [isAttributeSeparator, Bool.or_eq_true, beq_iff_eq] at separates
  rcases separates with (rfl | rfl) | rfl <;> rfl

/-- No name in the vocabulary holds a break. -/
theorem not_isNameBreak_of_meant (name : List Char) (means : Attribute.meant name ≠ []) :
    ∀ c ∈ name, isNameBreak c = false := by
  have plain : (Attribute.vocabulary.map Prod.fst).all
      (fun key => key.toList.all (!isNameBreak ·)) = true := by decide
  by_cases known : String.ofList name ∈ Attribute.vocabulary.map Prod.fst
  · intro c member
    have whole := List.all_eq_true.1 (List.all_eq_true.1 plain _ known) c (by simpa using member)
    simpa using whole
  · rw [Attribute.meant, Attribute.lookup_eq_none known] at means
    exact absurd rfl means

/-- The attributes of a left side are those of its names. -/
theorem attributes_eq (lhs : String) :
    attributes lhs = (names isAttributeSeparator lhs.toList).flatMap Attribute.meant := by
  simp only [attributes, names, Attribute.expand_eq_lookup]
  rfl

end Reading

namespace Directive

open Reading

/-- What the left side of a directive comes to, by its names between spaces, colons and commas
and by those between white space, colons and commas. -/
structure NamesLeft (directive : Directive) (plain names : List (List Char)) : Prop where
  /-- The first are the longest runs without spaces, colons and commas. -/
  plain_iff : ∀ words, Lists isAttributeSeparator words directive.lhs.toList ↔ words = plain
  /-- The second are the longest runs without white space, colons and commas. -/
  names_iff : ∀ words, Lists isNameBreak words directive.lhs.toList ↔ words = names
  /-- Either form of a directive has the attributes that the first mean, and reports nothing. -/
  reads : directive.read .leftAttributes = .ok (.clean (some (plain.flatMap Attribute.meant)))
  /-- All of them are meant by the second, in this order. -/
  kept : (plain.flatMap Attribute.meant).Sublist (names.flatMap Attribute.meant)
  /-- They are all that the second mean exactly if each that means something stands between spaces,
  colons and commas, and so next to no other white space. -/
  agrees : plain.flatMap Attribute.meant = names.flatMap Attribute.meant ↔
    ∀ before name after, directive.lhs.toList = before ++ (name ++ after) →
      Stands isNameBreak before name after → Attribute.meant name ≠ [] →
        Stands isAttributeSeparator before name after

/-- **Which attributes the left side of a directive has.** -/
theorem leftAttributes_exact (directive : Directive) :
    ∃ plain names, directive.NamesLeft plain names := by
  refine ⟨names isAttributeSeparator directive.lhs.toList, names isNameBreak directive.lhs.toList,
    ?_, ?_, ?_, ?_, ?_⟩
  · exact fun words => lists_iff.trans eq_comm
  · exact fun words => lists_iff.trans eq_comm
  · rw [← attributes_eq]
    obtain ⟨lhs, payload, sink⟩ := directive
    cases payload <;> rfl
  · exact flatMap_names_sublist isNameBreak_of_isAttributeSeparator not_isNameBreak_of_meant _
  · exact flatMap_names_eq_iff isNameBreak_of_isAttributeSeparator not_isNameBreak_of_meant _

/-- A tab does not separate names, so that none of the two is read. -/
theorem leftAttributes_tabbed :
    let directive : Directive := ⟨"top\tleft", .shorthand "@super", .log⟩
    let names := ["top".toList, "left".toList]
    Lists isNameBreak names directive.lhs.toList ∧
      names.flatMap Attribute.meant = [.top, .leading] ∧
      directive.read .leftAttributes = .ok (.clean (some [])) := by
  intro directive names
  have nothing : attributes "top\tleft" = [] := by decide
  refine ⟨lists_iff.2 (by decide), by decide, ?_⟩
  exact congrArg (fun attrs => Except.ok (Reported.clean (some attrs))) nothing

end Directive

end ViewLayout
