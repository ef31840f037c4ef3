import QueryByName.Finder.Lexicon
import QueryByName.Finder.Refusal

/-!
# Reading a finder name as words

A name begins with an optional lead, `find`, the plural of the entity and `By`.  The rest is
read from left to right without going back: the first field of the lexicon that begins the
rest, or else the first such keyword, is the next word.

Nothing sees to it that a word takes letters off the rest.  A field without letters begins
every text, and a scan that comes to it takes it again and again; so what reads a name has a
result only if its scan ends, and is `none` otherwise.
-/

namespace QueryByName.Finder

open QueryByName.Java (Field ClassBody)

def lead (plural : String) : String :=
  "find" ++ plural ++ "By"

/-- The first of the given words that begins a text, with what follows it. -/
def firstWord? (text : List Char) : List Word → Option (Word × List Char)
  | [] => none
  | word :: words =>
    match Text.dropLead? word.spelling.toList text with
    | some rest => some (word, rest)
    | none => firstWord? text words

theorem firstWord?_eq_some {text rest : List Char} {word : Word} {words : List Word}
    (found : firstWord? text words = some (word, rest)) :
    word ∈ words ∧ text = word.spelling.toList ++ rest := by
  induction words with
  | nil => simp [firstWord?] at found
  | cons candidate words inductionHypothesis =>
      unfold firstWord? at found
      split at found
      · rename_i dropped
        obtain ⟨rfl, rfl⟩ := Prod.mk.inj (Option.some.inj found)
        exact ⟨List.mem_cons_self, Text.dropLead?_eq_some_iff.mp dropped⟩
      · obtain ⟨member, split⟩ := inductionHypothesis found
        exact ⟨List.mem_cons_of_mem _ member, split⟩

/-- The next word of a text under a lexicon, with what follows it: a field if one fits, or
else a keyword. -/
def nextWord? (lexicon : List Field) (text : List Char) : Option (Word × List Char) :=
  (firstWord? text (lexicon.map .field)).or (firstWord? text (Keyword.all.map .keyword))

theorem nextWord?_eq_some {lexicon : List Field} {text rest : List Char} {word : Word}
    (found : nextWord? lexicon text = some (word, rest)) :
    word ∈ lexicon.map .field ++ Keyword.all.map .keyword ∧ text = word.spelling.toList ++ rest := by
  rw [nextWord?, Option.or_eq_some_iff] at found
  cases found with
  | inl fieldFound =>
      obtain ⟨member, split⟩ := firstWord?_eq_some fieldFound
      exact ⟨List.mem_append_left _ member, split⟩
  | inr keywordFound =>
      obtain ⟨member, split⟩ := firstWord?_eq_some keywordFound.2
      exact ⟨List.mem_append_right _ member, split⟩

/-- A scan under way: the fields that it looks for, and what it has left of the text. -/
structure Scan where
  lexicon : List Field
  rest : List Char

/-- The words of what is left, or the rest at which no word begins. -/
def Scan.words (scan : Scan) : Option (Except (List Char) (List Word)) :=
  if scan.rest = [] then some (.ok [])
  else
    match nextWord? scan.lexicon scan.rest with
    | none => some (.error scan.rest)
    | some (word, rest) => do
      let further ← { scan with rest } |>.words
      return further.map (word :: ·)
partial_fixpoint

/-- The words of a text, or the rest at which no word begins. -/
def words (lexicon : List Field) (text : List Char) : Option (Except (List Char) (List Word)) :=
  Scan.words ⟨lexicon, text⟩

@[simp] theorem words_nil (lexicon : List Field) : words lexicon [] = some (.ok []) := by
  rw [words, Scan.words, if_pos rfl]

theorem words_of_stopped {lexicon : List Field} {text : List Char} (nonempty : text ≠ [])
    (stopped : nextWord? lexicon text = none) : words lexicon text = some (.error text) := by
  rw [words, Scan.words, if_neg nonempty, stopped]

theorem words_of_taken {lexicon : List Field} {text rest : List Char} {word : Word} (nonempty : text ≠ [])
    (taken : nextWord? lexicon text = some (word, rest)) :
    words lexicon text = (words lexicon rest).map fun further => further.map (word :: ·) := by
  rw [words, Scan.words, if_neg nonempty, taken]
  exact bind_pure_comp _ _

/-- What stands after the lead, or the whole name if it lacks the lead. -/
def withoutLead (plural finder : String) : String :=
  (Text.afterLead? (lead plural) finder).getD finder

/-- What a scan of a name comes to: its words, or the cause for which the name is refused. -/
def answer (body : ClassBody) (finder : String) : Except (List Char) (List Word) → Except Refusal (List Word)
  | .ok found => .ok found
  | .error fragment => .error (.unmatched finder (String.ofList fragment) body.owner.simpleName)

/-- Reads a finder name over the fields of a class as words. -/
def read (body : ClassBody) (finder plural : String) : Option (Except Refusal (List Word)) :=
  if Text.contains (lead plural) (withoutLead plural finder) then
    some (.error (.repeatedLead finder (lead plural)))
  else
    (words body.lexicon (withoutLead plural finder).toList).map (answer body finder)

end QueryByName.Finder
