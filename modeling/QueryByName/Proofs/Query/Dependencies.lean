import QueryByName.Proofs.Java.BeanFields
import QueryByName.Proofs.Query.Alignment

/-! # What a finder depends on

A resolution keeps the words of its finder, and they say what it depends on: a field that is not
among them may be taken out of a bean, or get another type, and the finder resolves to the same
(`resolve_of_unread`).  One that held a map must stay a map, for its spelling would be new.

Spellings decide here, not fields.  What is not among the words must have another spelling than every
field that is, since of two fields of one spelling only one stands in the lexicon.
-/

namespace QueryByName.Finder

open QueryByName.Java (Field ClassBody)

/-! ## Lexica that differ in one spelling -/

theorem mem_lexicon_iff {body : ClassBody} {field : Field} :
    field ∈ body.lexicon ↔ Ordered.lookup? fieldOrder field body.mentionable.reverse = some field :=
  Ordered.mem_ofList_iff_lookup?

theorem lookup?_of_spelling_ne {fields : List Field} {field : Field} {spelling : String}
    (apart : field.spelling ≠ spelling) :
    Ordered.lookup? fieldOrder field (fields.filter (·.spelling != spelling)) =
      Ordered.lookup? fieldOrder field fields := by
  rw [Ordered.lookup?, Ordered.lookup?, List.find?_filter]
  congr 1
  funext other
  cases same : fieldOrder field other == .eq with
  | false => simp
  | true =>
    -- a field that is found has the spelling looked for, so the filter lets it pass
    rw [fieldOrder_eq_iff.mp (beq_iff_eq.mp same)] at apart
    simp [apart]

/-- Which field stands for a spelling does not depend on the fields of other spellings. -/
theorem mem_lexicon_of_agree {body other : ClassBody} {spelling : String}
    (agree : body.mentionable.filter (·.spelling != spelling) = other.mentionable.filter (·.spelling != spelling))
    {field : Field} (apart : field.spelling ≠ spelling) (listed : field ∈ body.lexicon) : field ∈ other.lexicon := by
  rw [mem_lexicon_iff, ← lookup?_of_spelling_ne apart, List.filter_reverse] at listed ⊢
  rwa [← agree]

end QueryByName.Finder

namespace QueryByName.Query

open QueryByName.Finder
open QueryByName.Java (ClassBody Field OwnProperties TypeExpr beginsSetterName)

/-! ## Beans -/

/-- Whether finders of a bean may mention a field. -/
def isMentionable (field : Field) : Bool :=
  beginsSetterName field.name && !field.isStatic && !field.type.isMap

variable {owner : TypeExpr} {fields others : List Field}

theorem mentionable_bean (owner : TypeExpr) (own : OwnProperties (fields.map (·.name))) :
    (ClassBody.bean owner fields).mentionable = fields.filter isMentionable := by
  rw [ClassBody.mentionable, ClassBody.settable_bean own, List.filter_filter]
  refine List.filter_congr fun field _ => ?_
  rw [isMentionable, Bool.and_comm]

theorem named_bean (own : OwnProperties (fields.map (·.name))) :
    ∀ field ∈ (ClassBody.bean owner fields).mentionable, field.name ≠ "" := by
  intro field mentioned nameless
  rw [mentionable_bean owner own] at mentioned
  have begins := (List.mem_filter.mp mentioned).2
  rw [isMentionable, nameless] at begins
  cases begins

theorem resolve_of_covered {body other : ClassBody} (named : ∀ field ∈ body.mentionable, field.name ≠ "")
    (otherNamed : ∀ field ∈ other.mentionable, field.name ≠ "")
    (covered : ∀ field ∈ other.mentionable, ∃ known ∈ body.mentionable, known.spelling = field.spelling)
    {finder plural entityName entityAlias : String} {resolution : Resolution}
    (resolved : resolve body finder plural entityName entityAlias = some (.ok resolution))
    (kept : ∀ field, .field field ∈ resolution.words → field ∈ other.lexicon) :
    resolve other finder plural entityName entityAlias = some (.ok resolution) := by
  obtain ⟨found, reading, rfl⟩ := exists_read_of_resolve resolved
  exact resolve_of_read (read_of_covered named otherNamed covered reading kept) entityName entityAlias

/-- Beans that differ only in fields of one spelling resolve a finder alike if it does not mention
that spelling, and the other bean has no further spelling. -/
theorem resolve_bean_of_agree (own : OwnProperties (fields.map (·.name)))
    (otherOwn : OwnProperties (others.map (·.name))) {spelling : String}
    (agree : fields.filter (·.spelling != spelling) = others.filter (·.spelling != spelling))
    (covered : ∀ field ∈ others, isMentionable field = true →
      ∃ known ∈ fields, isMentionable known = true ∧ known.spelling = field.spelling)
    {finder plural entityName entityAlias : String} {resolution : Resolution}
    (resolved : resolve (.bean owner fields) finder plural entityName entityAlias = some (.ok resolution))
    (unread : ∀ field, .field field ∈ resolution.words → field.spelling ≠ spelling) :
    resolve (.bean owner others) finder plural entityName entityAlias = some (.ok resolution) := by
  have mentioned := mentionable_bean owner own
  have otherMentioned := mentionable_bean owner otherOwn
  refine resolve_of_covered (named_bean own) (named_bean otherOwn) ?_ resolved fun field present => ?_
  · intro field listed
    rw [otherMentioned] at listed
    obtain ⟨declared, mentionable⟩ := List.mem_filter.mp listed
    obtain ⟨known, knownDeclared, knownMentionable, same⟩ := covered field declared mentionable
    rw [mentioned]
    exact ⟨known, List.mem_filter.mpr ⟨knownDeclared, knownMentionable⟩, same⟩
  · refine mem_lexicon_of_agree ?_ (unread field present) (mem_lexicon_of_resolve resolved present)
    rw [mentioned, otherMentioned, List.filter_comm, agree, List.filter_comm]

/-! ## Fields that a finder does not mention -/

/-- What a resolution does not mention it does not depend on. -/
theorem resolve_of_unread {before after : List Field} {field : Field}
    (own : OwnProperties ((before ++ field :: after).map (·.name)))
    {finder plural entityName entityAlias : String} {resolution : Resolution}
    (resolved : resolve (.bean owner (before ++ field :: after)) finder plural entityName entityAlias =
      some (.ok resolution))
    (unread : ∀ named, .field named ∈ resolution.words → named.spelling ≠ field.spelling) :
    resolve (.bean owner (before ++ after)) finder plural entityName entityAlias = some (.ok resolution) ∧
    (field.type.isMap = false → ∀ type,
      resolve (.bean owner (before ++ { field with type } :: after)) finder plural entityName entityAlias =
        some (.ok resolution)) := by
  constructor
  · have sublist : (before ++ after).Sublist (before ++ field :: after) :=
      (List.Sublist.refl before).append (List.sublist_cons_self field after)
    refine resolve_bean_of_agree own (own.sublist (sublist.map _)) ?_ ?_ resolved unread
    · simp
    · exact fun other declared mentionable => ⟨other, sublist.subset declared, mentionable, rfl⟩
  · intro noMap type
    have sameNames : (before ++ { field with type } :: after).map (·.name) =
        (before ++ field :: after).map (·.name) := by
      rw [List.map_append, List.map_append, List.map_cons, List.map_cons]
    refine resolve_bean_of_agree own (sameNames ▸ own) ?_ ?_ resolved unread
    · have respelled : Field.spelling { field with type } = field.spelling := rfl
      simp [respelled]
    · intro other declared mentionable
      by_cases changed : other = { field with type }
      · -- a field that held no map could be mentioned before
        subst changed
        refine ⟨field, List.mem_append_right _ List.mem_cons_self, ?_, rfl⟩
        simp only [isMentionable, Bool.and_eq_true] at mentionable ⊢
        exact ⟨mentionable.1, by rw [noMap, Bool.not_false]⟩
      · refine ⟨other, ?_, mentionable, rfl⟩
        simp only [List.mem_append, List.mem_cons, changed, false_or] at declared ⊢
        exact declared.imp_right .inr

/-! ## A field that begins another -/

def textField (name : String) : Field :=
  ⟨name, .named "java.lang.String", false, false, []⟩

def overlappingBody (between : List Field) : ClassBody :=
  .bean (.named "com.example.Person") (textField "name" :: between ++ [textField "notes"])

def overlappingWords : List Word :=
  [.field (textField "name"), .keyword .or, .field (textField "notes"), .keyword .like]

theorem resolve_of_unread_overlapping : ∃ resolution,
    resolve (overlappingBody [textField "nameSuffix"]) "findPeopleByNameOrNotesLike" "People" "Person" "o" =
      some (.ok resolution) ∧
    resolution.query = "SELECT o FROM Person AS o WHERE o.name = :name OR LOWER(o.notes) LIKE LOWER(:notes)" ∧
    resolve (overlappingBody []) "findPeopleByNameOrNotesLike" "People" "Person" "o" = some (.ok resolution) ∧
    resolve (overlappingBody [{ textField "nameSuffix" with type := .named "int" }]) "findPeopleByNameOrNotesLike"
      "People" "Person" "o" = some (.ok resolution) := by
  have own : OwnProperties (([textField "name"] ++ textField "nameSuffix" :: [textField "notes"]).map (·.name)) :=
    ⟨by decide, by decide +kernel⟩
  have reading : read (overlappingBody [textField "nameSuffix"]) "findPeopleByNameOrNotesLike" "People" =
      some (.ok overlappingWords) :=
    read_eq_ok_of_wordsWithin 5 (by decide) (by with_unfolding_all rfl)
  have resolved := resolve_of_read reading "Person" "o"
  have unread : ∀ named, .field named ∈ (Resolution.ofWords overlappingWords "Person" "o").words →
      named.spelling ≠ (textField "nameSuffix").spelling := by
    intro named present
    have mentioned : named = textField "name" ∨ named = textField "notes" := by
      simpa [Resolution.ofWords, overlappingWords] using present
    obtain rfl | rfl := mentioned
    · decide +kernel
    · decide +kernel
  obtain ⟨without, retyped⟩ := resolve_of_unread own resolved unread
  exact ⟨_, resolved, by with_unfolding_all rfl, without, retyped rfl _⟩

end QueryByName.Query
