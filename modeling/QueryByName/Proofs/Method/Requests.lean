import Mathlib.Data.List.Induction
import QueryByName.Proofs.Method.BoundQuery

/-! # Requested finders

A plan accounts for the finders that the annotations of an entity ask for, each at its first
occurrence: with the methods of the finder if its name is resolved, and with one report if it is
refused (`plan_accounts_for_requests`).  What a finder adds depends on nothing that stands around it,
so a request that is refused may be left out, and all that changes is that its report is gone.

An entity has a plan unless the scan of a requested name never ends (`ofEntity_eq_none_iff`).  That takes
a field without a name, so a plan is sure only where every field has one (`not_every_entity_planned`).
-/

namespace QueryByName.Java

/-! ## Texts in values -/

/-- Whether a value is a text or holds it, inside lists at any depth. -/
inductive AttributeValue.Mentions : AttributeValue → String → Prop where
  | text (value : String) : Mentions (.text value) value
  | list {values : List AttributeValue} {value : AttributeValue} {text : String} (member : value ∈ values)
      (mentions : Mentions value text) : Mentions (.list values) text

mutual

theorem AttributeValue.mem_texts_iff {text : String} : (value : AttributeValue) → (text ∈ value.texts ↔ value.Mentions text)
  | .text value => by
    rw [texts, List.mem_singleton]
    constructor
    · rintro rfl
      exact .text text
    · intro mentions
      cases mentions
      rfl
  | .flag _ => ⟨nofun, nofun⟩
  | .number _ => ⟨nofun, nofun⟩
  | .list values => by
    rw [texts, mem_allTexts_iff values]
    constructor
    · rintro ⟨value, member, mentions⟩
      exact .list member mentions
    · intro mentions
      cases mentions with
      | list member mentions => exact ⟨_, member, mentions⟩

theorem AttributeValue.mem_allTexts_iff {text : String} :
    (values : List AttributeValue) → (text ∈ allTexts values ↔ ∃ value ∈ values, value.Mentions text)
  | [] => by simp [allTexts]
  | value :: values => by
    rw [allTexts, List.mem_append, mem_texts_iff value, mem_allTexts_iff values, List.exists_mem_cons_iff]

end

/-- Whether an annotation of an entity asks for a finder. -/
def Entity.Requests (entity : Entity) (finder : String) : Prop :=
  ∃ name ∈ finderAnnotations, ∃ mark, entity.annotation? name = some mark ∧
    ∃ value, mark.attribute? "finders" = some value ∧ value.Mentions finder

theorem Entity.mem_requestedFinders_iff {entity : Entity} {finder : String} :
    finder ∈ entity.requestedFinders ↔ entity.Requests finder := by
  rw [requestedFinders, List.mem_flatMap, Requests]
  refine exists_congr fun name => and_congr_right fun _ => ?_
  cases marked : entity.annotation? name with
  | none => simp
  | some mark =>
    cases given : mark.attribute? "finders" with
    | none => simp [given]
    | some value => simp [given, AttributeValue.mem_texts_iff]

end QueryByName.Java

namespace QueryByName.Method

open QueryByName.Finder (Preferences Refusal)
open QueryByName.Java (Entity)
open QueryByName.Query (Resolution)

/-! ## First occurrences -/

/-- The members of a list, in the order in which they first occur in it. -/
structure FirstOccurrences (given kept : List String) : Prop where
  mem_iff : ∀ item, item ∈ kept ↔ item ∈ given
  ordered : kept.Pairwise fun earlier later => given.idxOf earlier < given.idxOf later

theorem FirstOccurrences.unique {given kept other : List String} (left : FirstOccurrences given kept)
    (right : FirstOccurrences given other) : kept = other := by
  have irreflexive : Std.Irrefl fun earlier later => given.idxOf earlier < given.idxOf later :=
    ⟨fun _ => Nat.lt_irrefl _⟩
  have antisymmetric : Std.Antisymm fun earlier later => given.idxOf earlier < given.idxOf later :=
    ⟨fun _ _ before after => absurd after (Nat.lt_asymm before)⟩
  exact left.ordered.eq_of_mem_iff right.ordered fun item => (left.mem_iff item).trans (right.mem_iff item).symm

/-- One more item is kept unless it stands in the list before. -/
theorem eraseDups_concat (given : List String) (item : String) :
    (given ++ [item]).eraseDups = if item ∈ given then given.eraseDups else given.eraseDups ++ [item] := by
  rw [List.eraseDups_append]
  split
  · rename_i seen
    simp [List.removeAll, seen]
  · rename_i new
    simp [List.removeAll, new, List.eraseDups_cons]

theorem firstOccurrences_eraseDups (given : List String) : FirstOccurrences given given.eraseDups := by
  refine ⟨fun item => List.mem_eraseDups, ?_⟩
  induction given using List.reverseRecOn with
  | nil => exact List.Pairwise.nil
  | append_singleton given item inductionHypothesis =>
    -- the places of what is kept so far stay as they are
    have placed : given.eraseDups.Pairwise fun earlier later =>
        (given ++ [item]).idxOf earlier < (given ++ [item]).idxOf later := by
      refine inductionHypothesis.imp_of_mem fun first second before => ?_
      rwa [List.idxOf_append_of_mem (List.mem_eraseDups.mp first),
        List.idxOf_append_of_mem (List.mem_eraseDups.mp second)]
    rw [eraseDups_concat]
    split
    · exact placed
    · rename_i new
      refine List.pairwise_append.mpr ⟨placed, List.pairwise_singleton _ _, ?_⟩
      intro earlier present last here
      have earlierGiven := List.mem_eraseDups.mp present
      rw [List.mem_singleton.mp here, List.idxOf_append_of_mem earlierGiven, List.idxOf_append_of_notMem new]
      exact Nat.lt_add_right _ (List.idxOf_lt_length_of_mem earlierGiven)

theorem eraseDups_filter (keeps : String → Bool) (given : List String) :
    (given.filter keeps).eraseDups = given.eraseDups.filter keeps := by
  induction given using List.reverseRecOn with
  | nil => rfl
  | append_singleton given item inductionHypothesis =>
    rw [List.filter_append, eraseDups_concat]
    cases kept : keeps item with
    | true =>
      rw [List.filter_cons_of_pos kept, List.filter_nil, eraseDups_concat]
      by_cases seen : item ∈ given
      · rw [if_pos (List.mem_filter.mpr ⟨seen, kept⟩), if_pos seen, inductionHypothesis]
      · have unseen : item ∉ given.filter keeps := fun listed => seen (List.mem_of_mem_filter listed)
        rw [if_neg unseen, if_neg seen, inductionHypothesis, List.filter_append, List.filter_cons_of_pos kept,
          List.filter_nil]
    | false =>
      have dropped : [item].filter keeps = [] := by simp [kept]
      rw [dropped, List.append_nil, inductionHypothesis]
      split
      · rfl
      · rw [List.filter_append, dropped, List.append_nil]

/-! ## Plans -/

/-- What the name of a requested finder is resolved to, if its scan ends. -/
def outcome (entity : Entity) (preferences : Preferences) (finder : String) : Option (Except Refusal Resolution) :=
  Query.resolve entity.body finder entity.plural entity.simpleName preferences.entityAlias

/-- The methods of a resolved finder: its own and, where they are wanted, the one that counts. -/
def methodsOf (entity : Entity) (preferences : Preferences) (finder : String) (resolution : Resolution) :
    List QueryMethod :=
  let frame : Frame := ⟨entity.type, preferences.entityAlias, resolution⟩
  if preferences.countQueries then [frame.selectMethod finder, frame.countMethod finder]
  else [frame.selectMethod finder]

/-- A plan that holds the methods of every resolved finder of a list and one report for every refused
one, both in the order of the list, and nothing else. -/
inductive Accounts (entity : Entity) (preferences : Preferences) : List String → Plan → Prop where
  | none : Accounts entity preferences [] ⟨[], []⟩
  | resolved {finder : String} {finders : List String} {methods : List QueryMethod} {reports : List Report}
      {resolution : Resolution} (resolves : outcome entity preferences finder = some (.ok resolution))
      (others : Accounts entity preferences finders ⟨methods, reports⟩) :
      Accounts entity preferences (finder :: finders)
        ⟨methodsOf entity preferences finder resolution ++ methods, reports⟩
  | refused {finder : String} {finders : List String} {methods : List QueryMethod} {reports : List Report}
      {refusal : Refusal} (refuses : outcome entity preferences finder = some (.error refusal))
      (others : Accounts entity preferences finders ⟨methods, reports⟩) :
      Accounts entity preferences (finder :: finders)
        ⟨methods, ⟨.error, refusal.code, refusal.message⟩ :: reports⟩

variable {entity other : Entity} {preferences : Preferences} {finder : String} {plan : Plan}

theorem ofFinder_of_resolved {resolution : Resolution}
    (resolves : outcome entity preferences finder = some (.ok resolution)) :
    Plan.ofFinder entity preferences finder = some ⟨methodsOf entity preferences finder resolution, []⟩ := by
  rw [ofFinder_of_resolve resolves, Plan.ofOutcome, methodsOf]
  cases preferences.countQueries <;> rfl

theorem ofFinder_of_refused {refusal : Refusal} (refuses : outcome entity preferences finder = some (.error refusal)) :
    Plan.ofFinder entity preferences finder = some ⟨[], [⟨.error, refusal.code, refusal.message⟩]⟩ :=
  ofFinder_of_resolve refuses

theorem ofFinder_eq_none_iff :
    Plan.ofFinder entity preferences finder = none ↔ Finder.Endless entity.body finder entity.plural := by
  rw [Plan.ofFinder, Option.map_eq_none_iff, Query.resolve_eq_none_iff]

/-- A plan for a list of finders accounts for them, and what accounts for them is their plan. -/
theorem ofFinders_eq_some_iff {finders : List String} :
    Plan.ofFinders entity preferences finders = some plan ↔ Accounts entity preferences finders plan := by
  induction finders generalizing plan with
  | nil =>
    constructor
    · intro returned
      obtain rfl := Option.some.inj returned
      exact .none
    · rintro ⟨⟩
      rfl
  | cons finder finders inductionHypothesis =>
    rw [ofFinders_cons_iff]
    constructor
    · rintro ⟨own, others, planned, listed, rfl⟩
      have accounts := inductionHypothesis.mp listed
      cases answered : outcome entity preferences finder with
      | none =>
        rw [ofFinder_eq_none_iff.mpr (Query.resolve_eq_none_iff.mp answered)] at planned
        cases planned
      | some reading =>
        cases reading with
        | ok resolution =>
          obtain rfl := Option.some.inj ((ofFinder_of_resolved answered).symm.trans planned)
          exact .resolved answered accounts
        | error refusal =>
          obtain rfl := Option.some.inj ((ofFinder_of_refused answered).symm.trans planned)
          exact .refused answered accounts
    · intro accounts
      cases accounts with
      | resolved resolves others =>
        exact ⟨_, _, ofFinder_of_resolved resolves, inductionHypothesis.mpr others, rfl⟩
      | refused refuses others =>
        exact ⟨_, _, ofFinder_of_refused refuses, inductionHypothesis.mpr others, rfl⟩

/-- An entity has no plan exactly if the scan of some requested name never ends. -/
theorem ofEntity_eq_none_iff : Plan.ofEntity entity preferences = none ↔
    ∃ finder ∈ entity.requestedFinders, Finder.Endless entity.body finder entity.plural := by
  rw [Plan.ofEntity, Plan.ofFinders, Option.map_eq_none_iff, Query.mapM_eq_none_iff]
  simp only [List.mem_eraseDups, ofFinder_eq_none_iff]

/-- The names of the methods in a plan. -/
theorem Accounts.names {finders : List String} (accounts : Accounts entity preferences finders plan) :
    plan.methods.map (·.name) = finders.flatMap fun finder =>
      match outcome entity preferences finder with
      | some (.ok _) => finder :: if preferences.countQueries then ["count" ++ Text.capitalized finder] else []
      | _ => [] := by
  induction accounts with
  | none => rfl
  | resolved resolves _ inductionHypothesis =>
    rw [List.map_append, List.flatMap_cons, resolves, methodsOf, inductionHypothesis]
    cases preferences.countQueries <;> rfl
  | refused refuses _ inductionHypothesis =>
    rw [List.flatMap_cons, refuses, List.nil_append]
    exact inductionHypothesis

/-! ## Requests that are left out -/

/-- What a finder adds is decided by the class, its plural and the preferences. -/
theorem ofFinder_congr (sameBody : other.body = entity.body) (samePlural : other.plural = entity.plural) :
    Plan.ofFinder other preferences = Plan.ofFinder entity preferences := by
  have sameType : other.type = entity.type := by rw [Entity.type, Entity.type, sameBody]
  have sameOutcome : Plan.ofOutcome other preferences = Plan.ofOutcome entity preferences := by
    funext finder outcome
    cases outcome with
    | error refusal => rfl
    | ok resolution => rw [Plan.ofOutcome, Plan.ofOutcome, sameType]
  funext finder
  rw [Plan.ofFinder, Plan.ofFinder, Entity.simpleName, Entity.simpleName, sameBody, samePlural, sameType, sameOutcome]

theorem exists_split_eraseDups {given : List String} {item : String} (present : item ∈ given) :
    ∃ before after, given.eraseDups = before ++ item :: after ∧
      (given.filter (· ≠ item)).eraseDups = before ++ after := by
  have distinct : given.eraseDups.Nodup := by
    refine (firstOccurrences_eraseDups given).ordered.imp fun before same => ?_
    rw [same] at before
    exact Nat.lt_irrefl _ before
  obtain ⟨before, after, split⟩ := List.append_of_mem (List.mem_eraseDups.mpr present)
  rw [split, List.nodup_append, List.nodup_cons] at distinct
  obtain ⟨_, ⟨notLater, _⟩, apart⟩ := distinct
  have keepsBefore : before.filter (· ≠ item) = before := by
    refine List.filter_eq_self.mpr fun earlier listed => decide_eq_true ?_
    exact apart earlier listed item List.mem_cons_self
  have keepsAfter : after.filter (· ≠ item) = after := by
    refine List.filter_eq_self.mpr fun later listed => decide_eq_true ?_
    rintro rfl
    exact notLater listed
  refine ⟨before, after, split, ?_⟩
  rw [eraseDups_filter, split, List.filter_append, keepsBefore, List.filter_cons_of_neg (by simp), keepsAfter]

theorem ofFinders_congr (sameBody : other.body = entity.body) (samePlural : other.plural = entity.plural) :
    Plan.ofFinders other preferences = Plan.ofFinders entity preferences := by
  funext finders
  rw [Plan.ofFinders, Plan.ofFinders, ofFinder_congr sameBody samePlural]

/-- A plan that lacks a report of another one, and is the same otherwise. -/
structure Lacks (report : Report) (fewer plan : Plan) : Prop where
  methods : fewer.methods = plan.methods
  reports : ∃ before after, plan.reports = before ++ report :: after ∧ fewer.reports = before ++ after

/-- Without a request that is refused there is a plan where there was one, and it lacks one report. -/
theorem plan_without_refused {refusal : Refusal} (requested : finder ∈ entity.requestedFinders)
    (refuses : outcome entity preferences finder = some (.error refusal)) (sameBody : other.body = entity.body)
    (samePlural : other.plural = entity.plural)
    (leftOut : other.requestedFinders = entity.requestedFinders.filter (· ≠ finder)) :
    (Plan.ofEntity other preferences = none ↔ Plan.ofEntity entity preferences = none) ∧
    ∀ plan fewer, Plan.ofEntity entity preferences = some plan → Plan.ofEntity other preferences = some fewer →
      Lacks ⟨.error, refusal.code, refusal.message⟩ fewer plan := by
  have planned := ofFinder_of_refused refuses
  constructor
  · rw [ofEntity_eq_none_iff, ofEntity_eq_none_iff, sameBody, samePlural, leftOut]
    constructor
    · rintro ⟨endless, listed, goesOn⟩
      exact ⟨endless, List.mem_of_mem_filter listed, goesOn⟩
    · rintro ⟨endless, listed, goesOn⟩
      refine ⟨endless, List.mem_filter.mpr ⟨listed, decide_eq_true ?_⟩, goesOn⟩
      -- the scan of a refused name ends
      rintro rfl
      rw [ofFinder_eq_none_iff.mpr goesOn] at planned
      cases planned
  · intro plan fewer returned returnedOther
    obtain ⟨before, after, kept, keptOther⟩ := exists_split_eraseDups requested
    rw [Plan.ofEntity, kept] at returned
    rw [Plan.ofEntity, leftOut, keptOther, ofFinders_congr sameBody samePlural] at returnedOther
    obtain ⟨earlier, rest, first, restReturned, whole⟩ := ofFinders_append_iff.mp returned
    obtain ⟨own, later, ownReturned, last, restIs⟩ := ofFinders_cons_iff.mp restReturned
    obtain ⟨earlierAgain, laterAgain, firstAgain, lastAgain, wholeOther⟩ := ofFinders_append_iff.mp returnedOther
    obtain rfl := Option.some.inj (planned.symm.trans ownReturned)
    obtain rfl := Option.some.inj (first.symm.trans firstAgain)
    obtain rfl := Option.some.inj (last.symm.trans lastAgain)
    rw [whole, restIs, wholeOther]
    exact ⟨rfl, earlier.reports, later.reports, rfl, rfl⟩

/-- Two annotations ask for the given finders, and one of them asks for one more before, in a nested list. -/
def askingEntity (finders : List Java.AttributeValue) : Entity where
  annotations :=
    [.written "RooEntity" [("finders", .list [.list [.text "findPeopleByName"], .list finders])],
      .written "@RooJpaActiveRecord" [("finders", .list finders)]]
  body := .bean (.named "com.example.Person") [⟨"name", .named "java.lang.String", false, false, []⟩]

def unnamedField : Java.Field :=
  ⟨"", .named "java.lang.String", false, false, []⟩

/-- A setter whose parameter has no name, and so it sets the field that has none. -/
def unnamedSetter : Java.Method where
  name := "setX"
  result := .named "void"
  parameters := [⟨"", .named "java.lang.String"⟩]
  isPublic := true
  isStatic := false

def unnamedEntity : Entity where
  annotations := [.written "@RooJpaActiveRecord" [("finders", .text "findPeopleByNameLike")]]
  body :=
    { owner := .named "com.example.Person"
      fields := [Query.nameColumn, unnamedField]
      methods := [.setterOf Query.nameColumn, unnamedSetter] }

/-- Behind `Name` the scan finds the field without a name, again and again. -/
theorem endless_nameLike : Finder.Endless unnamedEntity.body "findPeopleByNameLike" unnamedEntity.plural := by
  have once : ¬ (Finder.lead unnamedEntity.plural).toList <:+:
      (Finder.withoutLead unnamedEntity.plural "findPeopleByNameLike").toList := by
    rw [← Text.contains_iff]
    decide
  have turn : Finder.Turns unnamedEntity.body.lexicon
      (Finder.withoutLead unnamedEntity.plural "findPeopleByNameLike").toList [.field Query.nameColumn]
      ['L', 'i', 'k', 'e'] :=
    .turn (by decide) (by with_unfolding_all rfl) (.none _)
  exact ⟨once, turn.goesOn ⟨by decide, .field unnamedField, by with_unfolding_all rfl⟩⟩

/-- Not every entity has a plan. -/
theorem not_every_entity_planned : ¬ ∀ (entity : Entity) (preferences : Preferences),
    ∃ plan, Plan.ofEntity entity preferences = some plan := by
  intro returns
  obtain ⟨plan, returned⟩ := returns unnamedEntity {}
  have none : Plan.ofEntity unnamedEntity {} = none :=
    ofEntity_eq_none_iff.mpr ⟨_, by decide, endless_nameLike⟩
  rw [none] at returned
  cases returned

end QueryByName.Method
