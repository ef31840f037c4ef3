import QueryByName.Proofs.Finder.FieldsRead
import QueryByName.Proofs.Query.Alignment
import QueryByName.Proofs.Query.ListedFinders

/-! # Fields that are left out of listed finders

Names are built only from fields that are not left out, but the lexicon that reads them back
holds the others as well.  So the text of an allowed field and a keyword may be read as a field that
was left out (`not_every_listing_clear`).

Every such reading has a cause in the lexicon: a field of it shadows a word of the phrase that the
name was spelled from, or the field that was left out is spelled like one of the phrase.  And fields
that are left out take no part in a finder exactly if the name reads the same without them
(`barred_fields_of_listing`).
-/

namespace QueryByName.Query

open QueryByName.Finder
open QueryByName.Java (ClassBody Entity Field)

/-! ## Barred fields -/

/-- Whether a field is left out: by choice, for its role in storage, or because it manages entities. -/
def isBarred (preferences : Preferences) (field : Field) : Bool :=
  preferences.exclusions.contains field.name || field.isIdentifier || field.isVersion || field.isTransient ||
    field.isCollection || managerTypes.contains field.type.name

theorem mem_standingExclusions_of_manager {body : ClassBody} {field : Field} (declared : field ∈ body.fields)
    (manages : managerTypes.contains field.type.name = true) : field.name ∈ standingExclusions body := by
  refine Ordered.mem_ofList_iff.mpr (List.mem_map_of_mem (List.mem_filter.mpr ⟨declared, ?_⟩))
  rw [manages, Bool.or_true]

/-- Nothing that was on offer for a name is barred. -/
theorem not_barred_of_offered {entity : Entity} {preferences : Preferences} {clause : Clause}
    (offered : Offered entity.body (allExclusions entity preferences) clause) :
    isBarred preferences clause.field = false := by
  obtain ⟨notStanding, notChosen⟩ := not_or.mp (mt List.mem_append.mpr offered.notExcluded)
  have chosen : preferences.exclusions.contains clause.field.name = false := by simpa using notChosen
  have manages : managerTypes.contains clause.field.type.name = false := by
    rw [Bool.eq_false_iff]
    intro manages
    exact notStanding
      (mem_standingExclusions_of_manager (ClassBody.mem_fields_of_mem_settable offered.settable) manages)
  rw [isBarred, chosen, offered.notIdentifier, offered.notVersion, offered.notTransient, offered.notCollection, manages]
  rfl

/-! ## Fields of listed finders -/

theorem exists_field_of_sameWords {words found : List Word} (same : SameWords words found) {field : Field}
    (present : .field field ∈ found) : ∃ named, .field named ∈ words ∧ named.spelling = field.spelling := by
  induction same with
  | nil => cases present
  | @cons word read words found sameWord _ inductionHypothesis =>
    cases List.mem_cons.mp present with
    | inl here =>
      subst here
      cases word with
      | keyword _ => cases sameWord
      | field named => exact ⟨named, List.mem_cons_self, beq_iff_eq.mp sameWord⟩
    | inr later =>
      obtain ⟨named, inWords, spelled⟩ := inductionHypothesis later
      exact ⟨named, List.mem_cons_of_mem _ inWords, spelled⟩

/-- A field that takes part in a name though it was not on offer has a cause in the lexicon. -/
theorem shadowed_or_spelled_alike {body : ClassBody} {plural name : String} {phrase : Phrase}
    (outcome : Outcome body plural name phrase) {found : List Word} (reading : read body name plural = some (.ok found))
    {field : Field} (present : .field field ∈ found) :
    Shadowed body.lexicon phrase.words ∨ ∃ clause ∈ phrase.members, clause.field.spelling = field.spelling := by
  by_cases shadowed : Shadowed body.lexicon phrase.words
  · exact .inl shadowed
  · right
    obtain ⟨named, inPhrase, spelled⟩ := exists_field_of_sameWords (outcome.sameWords reading shadowed) present
    obtain ⟨clause, member, rfl⟩ := Phrase.exists_member_of_field_mem inPhrase
    exact ⟨clause, member, spelled⟩

/-- When barred fields take part in a listed finder, and what is to blame for it. -/
theorem barred_fields_of_listing (entity : Entity) (preferences : Preferences)
    (named : ∀ field ∈ entity.body.mentionable, field.name ≠ "") :
    ∃ items, listing entity preferences = some items ∧
    ∀ item ∈ items, ∀ resolution, item.outcome = .ok resolution →
      ((∀ field, .field field ∈ resolution.words → isBarred preferences field = false) ↔
        words (entity.body.lexicon.filter fun field => !isBarred preferences field)
          (withoutLead entity.plural item.name).toList = some (.ok resolution.words)) ∧
      ∃ phrase, ∃ count ≤ preferences.depth,
        SpelledFrom entity.body (allExclusions entity preferences) (lead entity.plural) item.name count phrase ∧
        (∀ clause ∈ phrase.members, isBarred preferences clause.field = false) ∧
        ∀ field, .field field ∈ resolution.words → isBarred preferences field = true →
          Shadowed entity.body.lexicon phrase.words ∨
            ∃ clause ∈ phrase.members, clause.field.spelling = field.spelling := by
  obtain ⟨items, returned⟩ := exists_listing named preferences
  refine ⟨items, returned, ?_⟩
  intro item listed resolution resolvesTo
  obtain ⟨built, resolved⟩ := (mem_listing_iff returned).mp listed
  rw [resolvesTo] at resolved
  obtain ⟨found, reading, rfl⟩ := exists_read_of_resolve resolved
  obtain ⟨phrase, count, bound, spelled, reads⟩ := outcome_of_mem_names named built
  constructor
  · rw [Resolution.ofWords, words_filter_iff (words_of_read reading)]
    simp only [Bool.not_eq_true']
  · exact ⟨phrase, count, bound, spelled, fun clause member => not_barred_of_offered (spelled.offered clause member),
      fun field present _ => shadowed_or_spelled_alike reads reading present⟩

/-! ## A barred field that takes part -/

def hidingEntity : Entity where
  annotations := []
  body := .bean (.named "com.example.Person")
    [⟨"name", .named "java.lang.String", false, false, []⟩, ⟨"nameLike", .named "java.lang.String", false, false, []⟩]

def hidingPreferences : Preferences :=
  { exclusions := ["nameLike"] }

theorem named_hidingEntity : ∀ field ∈ hidingEntity.body.mentionable, field.name ≠ "" := by decide

/-- The name for a pattern of `name` is listed, and it is read as the field that was left out. -/
theorem nameLike_listed {items : List ListedFinder} (returned : listing hidingEntity hidingPreferences = some items) :
    ∃ item ∈ items, ∃ resolution field, item.outcome = .ok resolution ∧ .field field ∈ resolution.words ∧
      isBarred hidingPreferences field = true := by
  have built : "findPeopleByNameLike" ∈ names hidingEntity.body hidingEntity.plural hidingPreferences.depth
      (allExclusions hidingEntity hidingPreferences) := by
    decide +kernel
  have reading : read hidingEntity.body "findPeopleByNameLike" hidingEntity.plural =
      some (.ok [.field ⟨"nameLike", .named "java.lang.String", false, false, []⟩]) :=
    read_eq_ok_of_wordsWithin 2 (by decide) (by with_unfolding_all rfl)
  have resolved := resolve_of_read reading hidingEntity.simpleName hidingPreferences.entityAlias
  exact ⟨⟨_, _⟩, (mem_listing_iff returned).mpr ⟨built, resolved⟩, _, _, rfl, List.mem_singleton_self _, by decide⟩

theorem barred_fields_of_listing_nameLike : (∀ field ∈ hidingEntity.body.mentionable, field.name ≠ "") ∧
    ∃ items, listing hidingEntity hidingPreferences = some items ∧ ∃ item ∈ items, ∃ phrase, ∃ count ≤ 1,
      SpelledFrom hidingEntity.body (allExclusions hidingEntity hidingPreferences) (lead hidingEntity.plural)
        item.name count phrase ∧
      ∃ resolution field, item.outcome = .ok resolution ∧ .field field ∈ resolution.words ∧
        isBarred hidingPreferences field = true ∧
        (Shadowed hidingEntity.body.lexicon phrase.words ∨
          ∃ clause ∈ phrase.members, clause.field.spelling = field.spelling) := by
  obtain ⟨items, returned, blamed⟩ := barred_fields_of_listing hidingEntity hidingPreferences named_hidingEntity
  obtain ⟨item, listed, resolution, field, resolved, present, barred⟩ := nameLike_listed returned
  obtain ⟨_, phrase, count, bound, spelled, _, cause⟩ := blamed item listed resolution resolved
  exact ⟨named_hidingEntity, items, returned, item, listed, phrase, count, bound, spelled, resolution, field, resolved,
    present, barred, cause field present barred⟩

/-- A field that was left out may still take part in a listed finder. -/
theorem not_every_listing_clear : ¬ ∀ (entity : Entity) (preferences : Preferences) (items : List ListedFinder),
    listing entity preferences = some items →
    ∀ item ∈ items, ∀ resolution, item.outcome = .ok resolution →
      ∀ field, .field field ∈ resolution.words → isBarred preferences field = false := by
  intro clear
  obtain ⟨items, returned⟩ := exists_listing named_hidingEntity hidingPreferences
  obtain ⟨item, listed, resolution, field, resolved, present, barred⟩ := nameLike_listed returned
  rw [clear _ _ items returned item listed resolution resolved field present] at barred
  cases barred

end QueryByName.Query
