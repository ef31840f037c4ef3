import Mathlib.Data.List.Induction
import QueryByName.Query.Resolution

/-! # Parameters are local to their fields

A row of words binds, place by place, what the field at that place asks for, and nothing but the
word right after the field has a say in it (`parametersAt`).

The same list comes out of one pass that adds a parameter as soon as it meets a field and corrects
itself at the next word: a keyword may take the last parameter back, whatever it is by then.
`Gathering.next_after` is the invariant of that pass.  After every row of words it holds the
parameters of the row, so what is taken back is always the parameter of the field just met.
-/

namespace QueryByName.Query

open QueryByName.Finder (Keyword Word)
open QueryByName.Java (Field Parameter)

/-! ## Parameters by places -/

/-- What a field binds before the given word. -/
def ownParameters (field : Field) : Option Word → List Parameter
  | some (.keyword .isNull) => []
  | some (.keyword .isNotNull) => []
  | some (.keyword .between) =>
    [⟨"min" ++ field.spelling, field.type⟩, ⟨"max" ++ field.spelling, field.type⟩]
  | _ => [⟨field.name, field.type⟩]

/-- What is bound for one place of a row of words; only fields bind anything. -/
def parametersAt (words : List Word) (place : Nat) : List Parameter :=
  match words[place]? with
  | some (.field field) => ownParameters field words[place + 1]?
  | _ => []

theorem ownParameters_eq (field : Field) (next : Option Word) :
    ownParameters field next = fieldParameters field (next.bind Word.keyword?) := by
  cases next with
  | none => rfl
  | some word =>
    cases word with
    | field _ => rfl
    | keyword keyword => cases keyword <;> rfl

@[simp] theorem parametersAt_succ (word : Word) (rest : List Word) (place : Nat) :
    parametersAt (word :: rest) (place + 1) = parametersAt rest place := by
  simp [parametersAt]

theorem parameters_eq_flatMap_places (words : List Word) :
    parameters words = (List.range words.length).flatMap (parametersAt words) := by
  induction words with
  | nil => rfl
  | cons word rest inductionHypothesis =>
    have later : ((List.range rest.length).map Nat.succ).flatMap (parametersAt (word :: rest)) = parameters rest := by
      rw [inductionHypothesis, List.flatMap_map]
      simp
    rw [List.length_cons, List.range_succ_eq_map, List.flatMap_cons, later]
    cases word with
    | keyword _ => simp [parameters, parametersAt]
    | field field => simp [parameters, parametersAt, ownParameters_eq, List.head?_eq_getElem?]

/-! ## One pass over the words -/

/-- Two rows bind together what each of them binds, unless a keyword comes to stand after a field. -/
theorem parameters_append {before after : List Word}
    (apart : ∀ field keyword, before.getLast? = some (.field field) → after.head? ≠ some (.keyword keyword)) :
    parameters (before ++ after) = parameters before ++ parameters after := by
  induction before with
  | nil => rfl
  | cons word rest inductionHypothesis =>
    cases rest with
    | nil =>
      cases word with
      | keyword _ => rfl
      | field field =>
        have noKeyword : after.head?.bind Word.keyword? = none := by
          cases first : after.head? with
          | none => rfl
          | some next =>
            cases next with
            | field _ => rfl
            | keyword keyword => exact absurd first (apart field keyword rfl)
        simp [parameters, noKeyword]
    | cons second rest =>
      -- the words after the first one decide what follows the last one
      have further : parameters (second :: rest ++ after) = parameters (second :: rest) ++ parameters after :=
        inductionHypothesis (by simpa using apart)
      cases word with
      | keyword _ => simpa [parameters] using further
      | field field =>
        rw [List.cons_append, parameters, further, parameters]
        simp

theorem parameters_concat_field (before : List Word) (field : Field) :
    parameters (before ++ [.field field]) = parameters before ++ [⟨field.name, field.type⟩] :=
  parameters_append (by simp)

theorem parameters_concat_field_keyword (before : List Word) (field : Field) (keyword : Keyword) :
    parameters (before ++ [.field field] ++ [.keyword keyword]) =
      parameters before ++ fieldParameters field (some keyword) := by
  rw [List.append_assoc, List.singleton_append, parameters_append (by simp)]
  simp [parameters, Word.keyword?]

theorem parameters_concat_keyword {before : List Word} (noField : ∀ field, before.getLast? ≠ some (.field field))
    (keyword : Keyword) : parameters (before ++ [.keyword keyword]) = parameters before := by
  rw [parameters_append fun field _ last => absurd last (noField field)]
  simp [parameters]

/-- What a pass has gathered so far, and the word it has just met. -/
structure Gathering where
  bound : List Parameter
  previous : Option Word

namespace Gathering

def start : Gathering :=
  ⟨[], none⟩

/-- The next step of the pass.  A field adds its parameter for the time being; the keyword right after
it may take the last parameter back, and may add the ends of a range in its place. -/
def next (gathering : Gathering) (word : Word) : Gathering where
  bound :=
    match gathering.previous, word with
    | _, .field field => gathering.bound ++ [⟨field.name, field.type⟩]
    | some (.field field), .keyword .between =>
      gathering.bound.dropLast ++
        [⟨"min" ++ field.spelling, field.type⟩] ++ [⟨"max" ++ field.spelling, field.type⟩]
    | some (.field _), .keyword keyword =>
      if keyword.needsNoValue then gathering.bound.dropLast else gathering.bound
    | _, .keyword _ => gathering.bound
  previous := some word

/-- The state in which a pass over a row of words should be. -/
def after (words : List Word) : Gathering :=
  ⟨parameters words, words.getLast?⟩

theorem after_concat_field (earlier : List Word) (field : Field) :
    after (earlier ++ [.field field]) = ⟨parameters earlier ++ [⟨field.name, field.type⟩], some (.field field)⟩ := by
  rw [after, parameters_concat_field, List.getLast?_concat]

theorem after_concat_field_keyword (earlier : List Word) (field : Field) (keyword : Keyword) :
    after (earlier ++ [.field field] ++ [.keyword keyword]) =
      ⟨parameters earlier ++ fieldParameters field (some keyword), some (.keyword keyword)⟩ := by
  rw [after, parameters_concat_field_keyword, List.getLast?_concat]

/-- What a keyword takes back is the parameter of the field right before it. -/
theorem next_after_field (earlier : List Word) (field : Field) (keyword : Keyword) :
    (after (earlier ++ [.field field])).next (.keyword keyword) =
      after (earlier ++ [.field field] ++ [.keyword keyword]) := by
  rw [after_concat_field, after_concat_field_keyword]
  cases keyword <;> simp [next, fieldParameters, Keyword.needsNoValue]

theorem next_after (seen : List Word) (word : Word) : (after seen).next word = after (seen ++ [word]) := by
  cases word with
  | field field => simp [next, after, parameters_concat_field]
  | keyword keyword =>
    cases previous : seen.getLast? with
    | none => simp [next, after, previous, parameters_concat_keyword]
    | some word =>
      cases word with
      | keyword _ => simp [next, after, previous, parameters_concat_keyword]
      | field field =>
        -- only here can something be taken back
        obtain ⟨earlier, rfl⟩ := List.getLast?_eq_some_iff.mp previous
        exact next_after_field earlier field keyword

theorem foldl_next (words : List Word) : words.foldl next start = after words := by
  induction words using List.reverseRecOn with
  | nil => rfl
  | append_singleton words word inductionHypothesis =>
    rw [List.foldl_append, inductionHypothesis, List.foldl_cons, List.foldl_nil, next_after]

end Gathering

/-! ## The parameters of a resolution -/

theorem zipWith_parameters (bound : List Parameter) :
    List.zipWith Parameter.mk (bound.map (·.name)) (bound.map (·.type)) = bound := by
  induction bound with
  | nil => rfl
  | cons parameter rest inductionHypothesis => simp [inductionHypothesis]

/-- The parameters of any row of words, by places and by the pass, and as a resolution keeps them. -/
theorem parameters_local (words : List Word) (entityName entityAlias : String) :
    parameters words = (List.range words.length).flatMap (parametersAt words) ∧
    (words.foldl Gathering.next .start).bound = parameters words ∧
    (∀ before field later, words = before ++ .field field :: later →
      ((before ++ [.field field]).foldl Gathering.next .start).bound =
        parameters before ++ [⟨field.name, field.type⟩]) ∧
    ((Resolution.ofWords words entityName entityAlias).parameterNames,
        (Resolution.ofWords words entityName entityAlias).parameterTypes) =
      ((parameters words).map fun parameter => (parameter.name, parameter.type)).unzip ∧
    (Resolution.ofWords words entityName entityAlias).parameterNames.length =
      (Resolution.ofWords words entityName entityAlias).parameterTypes.length ∧
    List.zipWith Parameter.mk (Resolution.ofWords words entityName entityAlias).parameterNames
      (Resolution.ofWords words entityName entityAlias).parameterTypes = parameters words := by
  refine ⟨parameters_eq_flatMap_places words, ?_, ?_, ?_, ?_, zipWith_parameters _⟩
  · rw [Gathering.foldl_next, Gathering.after]
  · intro before field later _
    rw [Gathering.foldl_next, Gathering.after, parameters_concat_field]
  · simp [Resolution.ofWords, Resolution.parameterNames, Resolution.parameterTypes, List.unzip_eq_map]
  · simp [Resolution.parameterNames, Resolution.parameterTypes]

end QueryByName.Query
