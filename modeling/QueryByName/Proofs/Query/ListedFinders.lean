import QueryByName.Proofs.Finder.ReadBack
import QueryByName.Proofs.Finder.Turns
import QueryByName.Proofs.Java.PlainIdentifier
import QueryByName.Query.Listing

/-! # Listed finders

What becomes of the names that are built for an entity.  Names are built without regard to how
they will be read, and reading never goes back, so a built name may be refused
(`not_every_name_accepted`).  It is read as the phrase it was spelled from exactly if its lead does
not occur in it again and no field of the lexicon shadows a word of that phrase
(`finders_outcome`).  A listing reports every name with its outcome, so both kinds stand in it.

There is a listing only if every scan ends, and over fields that have names it always does
(`exists_listing`).
-/

namespace QueryByName.Query

open QueryByName.Finder
open QueryByName.Java (ClassBody Entity isPlainFieldName isPlainIdentifier)

/-! ## Names that are refused -/

def shadowingBean : ClassBody :=
  .bean (.named "com.example.Person") [⟨"i", .named "java.lang.String", false, false, []⟩]

theorem shadowedName_built : "findPeopleByIIsNull" ∈ names shadowingBean "People" 1 [] := by
  decide +kernel

/-- Plain names of fields do not keep built names from being refused. -/
theorem not_every_name_accepted : ¬ ∀ (body : ClassBody) (plural : String),
    (∀ field ∈ body.settable, isPlainFieldName field.name = true) → isPlainIdentifier plural = true →
      ∀ (depth : Nat) (exclusions : List String), ∀ name ∈ names body plural depth exclusions,
        ∃ found, read body name plural = some (.ok found) := by
  intro accepted
  -- the field `I` is read in place of `IsNull`, and nothing begins what is left
  have refused : read shadowingBean "findPeopleByIIsNull" "People" =
      some (.error (.unmatched "findPeopleByIIsNull" "sNull" "Person")) := by
    have scanned : wordsWithin shadowingBean.lexicon 3 (withoutLead "People" "findPeopleByIIsNull").toList =
        some (.error ['s', 'N', 'u', 'l', 'l']) := by
      with_unfolding_all rfl
    rw [read_of_wordsWithin 3 (by decide) scanned]
    rfl
  obtain ⟨found, reading⟩ := accepted shadowingBean "People" (by decide) (by decide) 1 [] _ shadowedName_built
  rw [reading] at refused
  cases refused

/-! ## What becomes of a name -/

/-- What becomes of a name that was spelled from a phrase: it is refused for a repeated lead, read
as that phrase, read as other words, or refused for a fragment at its end. -/
structure Outcome (body : ClassBody) (plural name : String) (phrase : Phrase) : Prop where
  repeated : (lead plural).toList <:+: (rowText phrase.words).toList →
    read body name plural = some (.error (.repeatedLead name (lead plural)))
  readBack : ¬ (lead plural).toList <:+: (rowText phrase.words).toList →
    ((∃ found, read body name plural = some (.ok found) ∧
      SameWords phrase.words found) ↔
        ¬ Shadowed body.lexicon phrase.words)
  misread : ¬ (lead plural).toList <:+: (rowText phrase.words).toList → Shadowed body.lexicon phrase.words →
    (∃ found, read body name plural = some (.ok found) ∧ rowText found = rowText phrase.words ∧
      ¬ SameWords phrase.words found) ∨
    (∃ fragment, fragment ≠ "" ∧ fragment.toList <:+ (rowText phrase.words).toList ∧
      read body name plural = some (.error (.unmatched name fragment body.owner.simpleName)))

theorem Outcome.once {body : ClassBody} {plural name : String} {phrase : Phrase}
    (outcome : Outcome body plural name phrase) {found : List Word} (reading : read body name plural = some (.ok found)) :
    ¬ (lead plural).toList <:+: (rowText phrase.words).toList := by
  intro repeated
  rw [outcome.repeated repeated] at reading
  cases reading

theorem Outcome.sameWords {body : ClassBody} {plural name : String} {phrase : Phrase}
    (outcome : Outcome body plural name phrase) {found : List Word}
    (reading : read body name plural = some (.ok found))
    (clear : ¬ Shadowed body.lexicon phrase.words) : SameWords phrase.words found := by
  obtain ⟨readBack, readAgain, same⟩ := (outcome.readBack (outcome.once reading)).mpr clear
  rwa [← Except.ok.inj (Option.some.inj (readAgain.symm.trans reading))]

theorem outcome_of_spelledFrom {body : ClassBody} (named : ∀ field ∈ body.mentionable, field.name ≠ "")
    {exclusions : List String} {plural name : String} {count : Nat} {phrase : Phrase}
    (spelled : SpelledFrom body exclusions (lead plural) name count phrase) :
    Outcome body plural name phrase := by
  have isBody : IsBody plural name (rowText phrase.words) := .inl spelled.name_eq
  have readBack : ¬ (lead plural).toList <:+: (rowText phrase.words).toList →
      ((∃ found, read body name plural = some (.ok found) ∧
        SameWords phrase.words found) ↔
          ¬ Shadowed body.lexicon phrase.words) := by
    intro once
    rw [exists_read_iff_readAs named spelled.name_eq once]
    exact readAs_iff_not_shadowed spelled.complete spelled.listed
  refine ⟨read_of_repeatedLead isBody, readBack, ?_⟩
  intro once shadowed
  obtain ⟨found, fragment, split⟩ := exists_fragment named (rowText phrase.words)
  have reading := read_of_greedySplit named isBody once split
  -- without a fragment the words must differ, for the phrase itself is not read
  by_cases finished : fragment = ""
  · rw [if_pos finished] at reading
    refine .inl ⟨found, reading, rowText_eq_of_read_eq_ok named isBody reading, ?_⟩
    intro same
    exact (readBack once).mp ⟨found, reading, same⟩ shadowed
  · rw [if_neg finished] at reading
    refine .inr ⟨fragment, finished, ⟨(rowText found).toList, ?_⟩, reading⟩
    exact split.text_eq.symm

theorem outcome_of_mem_names {body : ClassBody} (named : ∀ field ∈ body.mentionable, field.name ≠ "")
    {plural name : String} {depth : Nat} {exclusions : List String}
    (built : name ∈ names body plural depth exclusions) :
    ∃ phrase, ∃ count ≤ depth, SpelledFrom body exclusions (lead plural) name count phrase ∧
      Outcome body plural name phrase := by
  obtain ⟨count, bound, derived⟩ := mem_names_iff.mp built
  obtain ⟨phrase, spelled⟩ := derived.exists_phrase
  exact ⟨phrase, count, bound, spelled, outcome_of_spelledFrom named spelled⟩

/-! ## Listings -/

/-- Going through a list has results exactly if every member has one. -/
theorem mapM_eq_some_iff {α β : Type} {result? : α → Option β} {given : List α} {results : List β} :
    given.mapM result? = some results ↔ List.Forall₂ (fun item result => result? item = some result) given results := by
  induction given generalizing results with
  | nil =>
    rw [List.mapM_nil, List.forall₂_nil_left_iff]
    exact ⟨fun same => (Option.some.inj same).symm, fun same => congrArg some same.symm⟩
  | cons item given inductionHypothesis =>
    rw [List.mapM_cons, List.forall₂_cons_left_iff]
    constructor
    · intro returned
      obtain ⟨result, here, returned⟩ := Option.bind_eq_some_iff.mp returned
      obtain ⟨others, there, same⟩ := Option.bind_eq_some_iff.mp returned
      exact ⟨result, others, here, inductionHypothesis.mp there, (Option.some.inj same).symm⟩
    · rintro ⟨result, others, here, there, rfl⟩
      exact Option.bind_eq_some_iff.mpr
        ⟨result, here, Option.bind_eq_some_iff.mpr ⟨others, inductionHypothesis.mpr there, rfl⟩⟩

theorem mapM_eq_none_iff {α β : Type} {result? : α → Option β} {given : List α} :
    given.mapM result? = none ↔ ∃ item ∈ given, result? item = none := by
  induction given with
  | nil => simp
  | cons item given inductionHypothesis =>
    rw [List.mapM_cons, List.exists_mem_cons_iff, ← inductionHypothesis]
    cases result? item with
    | none => simp
    | some result => cases given.mapM result? <;> simp

theorem exists_mapM {α β : Type} {result? : α → Option β} {given : List α}
    (each : ∀ item ∈ given, ∃ result, result? item = some result) : ∃ results, given.mapM result? = some results := by
  refine Option.ne_none_iff_exists'.mp fun none => ?_
  obtain ⟨item, member, noResult⟩ := mapM_eq_none_iff.mp none
  obtain ⟨result, returned⟩ := each item member
  rw [noResult] at returned
  cases returned

theorem resolve_eq_none_iff {body : ClassBody} {finder plural entityName entityAlias : String} :
    resolve body finder plural entityName entityAlias = none ↔ Endless body finder plural := by
  rw [resolve, Option.map_eq_none_iff, read_eq_none_iff]

theorem exists_resolve {body : ClassBody} (named : ∀ field ∈ body.mentionable, field.name ≠ "")
    (finder plural entityName entityAlias : String) :
    ∃ outcome, resolve body finder plural entityName entityAlias = some outcome := by
  obtain ⟨reading, returned⟩ := exists_read named finder plural
  exact ⟨_, congrArg (Option.map _) returned⟩

section Listings

variable {entity : Entity} {preferences : Preferences} {items : List ListedFinder}

theorem exists_listing (named : ∀ field ∈ entity.body.mentionable, field.name ≠ "") (preferences : Preferences) :
    ∃ items, listing entity preferences = some items := by
  refine exists_mapM fun name _ => ?_
  obtain ⟨outcome, resolved⟩ :=
    exists_resolve named name entity.plural entity.simpleName preferences.entityAlias
  exact ⟨⟨name, outcome⟩, congrArg (Option.map _) resolved⟩

theorem listed?_eq_some_iff {name : String} {item : ListedFinder} : listed? entity preferences name = some item ↔
    item.name = name ∧
      resolve entity.body name entity.plural entity.simpleName preferences.entityAlias = some item.outcome := by
  rw [listed?, Option.map_eq_some_iff]
  constructor
  · rintro ⟨outcome, resolved, rfl⟩
    exact ⟨rfl, resolved⟩
  · rintro ⟨rfl, resolved⟩
    exact ⟨item.outcome, resolved, rfl⟩

theorem mem_listing_iff (returned : listing entity preferences = some items) {item : ListedFinder} : item ∈ items ↔
    item.name ∈ names entity.body entity.plural preferences.depth (allExclusions entity preferences) ∧
      resolve entity.body item.name entity.plural entity.simpleName preferences.entityAlias = some item.outcome := by
  have listed := mapM_eq_some_iff.mp returned
  generalize names entity.body entity.plural preferences.depth (allExclusions entity preferences) = built at listed
  clear returned
  induction listed with
  | nil => simp
  | @cons name first built items here _ inductionHypothesis =>
    obtain ⟨rfl, resolved⟩ := listed?_eq_some_iff.mp here
    rw [List.mem_cons, List.mem_cons, or_and_right]
    refine or_congr ⟨?_, ?_⟩ inductionHypothesis
    · rintro rfl
      exact ⟨rfl, resolved⟩
    · rintro ⟨same, resolvedAgain⟩
      rw [same, resolved] at resolvedAgain
      cases item
      exact congrArg₂ ListedFinder.mk same (Option.some.inj resolvedAgain).symm

end Listings

/-- Every built name is spelled from a phrase on offer, and it is read back and resolved exactly
if its lead is not repeated and no field shadows a word of the phrase. -/
theorem finders_outcome (entity : Entity) (named : ∀ field ∈ entity.body.mentionable, field.name ≠ "") :
    (∀ (plural : String) (depth : Nat) (exclusions : List String),
      ∀ name ∈ names entity.body plural depth exclusions, ∃ phrase, ∃ count ≤ depth,
        SpelledFrom entity.body exclusions (lead plural) name count phrase ∧
        Outcome entity.body plural name phrase) ∧
    (∀ preferences : Preferences, ∃ items, listing entity preferences = some items ∧ ∀ item ∈ items,
      ∃ phrase, ∃ count ≤ preferences.depth,
        SpelledFrom entity.body (allExclusions entity preferences) (lead entity.plural) item.name count phrase ∧
        ((∃ resolution, item.outcome = .ok resolution ∧
          SameWords phrase.words resolution.words) ↔
            ¬ (lead entity.plural).toList <:+: (rowText phrase.words).toList ∧
            ¬ Shadowed entity.body.lexicon phrase.words)) := by
  refine ⟨fun plural depth exclusions name built => outcome_of_mem_names named built, fun preferences => ?_⟩
  obtain ⟨items, returned⟩ := exists_listing named preferences
  refine ⟨items, returned, fun item listed => ?_⟩
  obtain ⟨built, resolved⟩ := (mem_listing_iff returned).mp listed
  obtain ⟨phrase, count, bound, spelled, outcome⟩ := outcome_of_mem_names named built
  refine ⟨phrase, count, bound, spelled, ?_⟩
  constructor
  · rintro ⟨resolution, resolvesTo, same⟩
    rw [resolvesTo] at resolved
    obtain ⟨found, reading, rfl⟩ := exists_read_of_resolve resolved
    have once := outcome.once reading
    exact ⟨once, (outcome.readBack once).mp ⟨found, reading, same⟩⟩
  · rintro ⟨once, clear⟩
    obtain ⟨found, reading, same⟩ := (outcome.readBack once).mpr clear
    have resolvesTo := resolve_of_read reading entity.simpleName preferences.entityAlias
    exact ⟨_, Option.some.inj (resolved.symm.trans resolvesTo), same⟩

theorem finders_outcome_shadowing : (∀ field ∈ shadowingBean.mentionable, field.name ≠ "") ∧
    ∃ phrase, ∃ count ≤ 1,
      SpelledFrom shadowingBean [] (lead "People") "findPeopleByIIsNull" count phrase ∧
      Outcome shadowingBean "People" "findPeopleByIIsNull" phrase := by
  have named : ∀ field ∈ shadowingBean.mentionable, field.name ≠ "" := by decide
  obtain ⟨outcomes, _⟩ := finders_outcome ⟨[], shadowingBean⟩ named
  exact ⟨named, outcomes "People" 1 [] _ shadowedName_built⟩

end QueryByName.Query
