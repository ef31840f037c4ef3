import QueryByName.Proofs.Finder.WordOrder
import QueryByName.Proofs.Java.SettableFields

/-! # What the lexicon holds

The lexicon of a class comes about by two choices that go opposite ways: of fields with one name the
first is settable, and of settable fields with one spelling the last is listed.  `lexicon_represents`
says what is left of the class in the end, and why it is enough to take the first listed field that
begins a text: spellings come strictly in matching order, and two spellings that begin one text and
have as many bytes are the same, so the first is longer than every other one.
-/

namespace QueryByName.Finder

open QueryByName.Java (ClassBody Field Method)

/-! ## The first and the last of their kind -/

def FirstOfName (fields : List Field) (field : Field) : Prop :=
  ∃ before after, fields = before ++ field :: after ∧ ∀ earlier ∈ before, earlier.name ≠ field.name

def LastOfSpelling (fields : List Field) (field : Field) : Prop :=
  ∃ before after, fields = before ++ field :: after ∧ ∀ later ∈ after, later.spelling ≠ field.spelling

theorem firstOfName_of_mem_settable {body : ClassBody} {field : Field} (settable : field ∈ body.settable) :
    FirstOfName body.fields field := by
  obtain ⟨name, found⟩ := ClassBody.exists_field?_of_mem_settable settable
  obtain ⟨named, before, after, split, passed⟩ := List.find?_eq_some_iff_append.mp found
  obtain rfl : field.name = name := by simpa using named
  exact ⟨before, after, split, fun earlier present => by simpa using passed earlier present⟩

theorem mem_lexicon_iff_lastOfSpelling {body : ClassBody} {field : Field} :
    field ∈ body.lexicon ↔ LastOfSpelling body.mentionable field := by
  rw [ClassBody.lexicon, Ordered.mem_ofList_iff_last, LastOfSpelling]
  refine exists₂_congr fun before after => and_congr_right fun _ => forall₂_congr fun later _ => ?_
  exact not_congr (fieldOrder_eq_iff.trans eq_comm)

/-! ## Spellings in the lexicon -/

theorem pairwise_precedes_lexicon (body : ClassBody) :
    body.lexicon.Pairwise fun earlier later => Precedes earlier.spelling later.spelling :=
  (increasing_lexicon body).imp spellingOrder_eq_lt_iff.mp

theorem nodup_spellings_lexicon (body : ClassBody) : (body.lexicon.map Field.spelling).Nodup := by
  rw [List.Nodup, List.pairwise_map]
  exact (pairwise_precedes_lexicon body).imp Precedes.ne

theorem mem_spellings_lexicon_iff {body : ClassBody} {spelling : String} :
    spelling ∈ body.lexicon.map Field.spelling ↔ spelling ∈ body.mentionable.map Field.spelling := by
  rw [List.mem_map, List.mem_map]
  constructor
  · rintro ⟨field, listed, rfl⟩
    exact ⟨field, mem_mentionable_of_mem_lexicon listed, rfl⟩
  · rintro ⟨field, mentioned, rfl⟩
    exact exists_mem_lexicon mentioned

/-! ## The first field that begins a text -/

def firstBeginning? (fields : List Field) (text : String) : Option Field :=
  fields.find? fun field => field.spelling.toList.isPrefixOf text.toList

/-- A field whose spelling begins a text, when all other spellings of fields that do are shorter. -/
structure LongestAt (fields : List Field) (text : String) (field : Field) : Prop where
  begins : (Word.field field).Begins text.toList
  longest : ∀ other ∈ fields, (Word.field other).Begins text.toList → other.spelling ≠ field.spelling →
    other.spelling.utf8ByteSize < field.spelling.utf8ByteSize

variable {fields : List Field} {text : String} {field : Field}

theorem LongestAt.of_spellings {others : List Field} (longestAt : LongestAt fields text field)
    (spelled : ∀ other ∈ others, other.spelling ∈ fields.map Field.spelling) : LongestAt others text field where
  begins := longestAt.begins
  longest other listed begins different := by
    obtain ⟨alike, alikeListed, same⟩ := List.mem_map.mp (spelled other listed)
    rw [Word.Begins, Word.spelling, ← same] at begins
    rw [← same] at different ⊢
    exact longestAt.longest alike alikeListed begins different

theorem LongestAt.spelling_eq {other : Field} (listed : field ∈ fields) (otherListed : other ∈ fields)
    (longestAt : LongestAt fields text field) (otherLongestAt : LongestAt fields text other) :
    field.spelling = other.spelling := by
  by_contra different
  have shorter := longestAt.longest other otherListed otherLongestAt.begins (Ne.symm different)
  have longer := otherLongestAt.longest field listed longestAt.begins different
  omega

theorem begins_iff_isPrefixOf : (Word.field field).Begins text.toList ↔
    field.spelling.toList.isPrefixOf text.toList = true :=
  List.isPrefixOf_iff_prefix.symm

theorem longestAt_of_firstBeginning?
    (ordered : fields.Pairwise fun earlier later => Precedes earlier.spelling later.spelling)
    (found : firstBeginning? fields text = some field) : LongestAt fields text field := by
  obtain ⟨begins, before, after, rfl, passed⟩ := List.find?_eq_some_iff_append.mp found
  refine ⟨begins_iff_isPrefixOf.mpr begins, fun other listed otherBegins different => ?_⟩
  have precedesLater := (List.pairwise_cons.mp (List.pairwise_append.mp ordered).2.1).1
  -- what stands before the field was passed over, so another field that begins the text stands after it
  cases List.mem_append.mp listed with
  | inl earlier =>
    have unfit := passed other earlier
    simp [begins_iff_isPrefixOf.mp otherBegins] at unfit
  | inr rest =>
    cases List.mem_cons.mp rest with
    | inl here =>
      rw [here] at different
      exact absurd rfl different
    | inr later =>
      have size : other.spelling.utf8ByteSize ≤ field.spelling.utf8ByteSize := by
        cases precedesLater other later with
        | inl shorter => exact Nat.le_of_lt shorter
        | inr alike => exact Nat.le_of_eq alike.1.symm
      have within := prefix_of_utf8ByteSize_le otherBegins (begins_iff_isPrefixOf.mpr begins) size
      exact utf8ByteSize_lt_of_begins within different

theorem firstBeginning?_eq_some_iff
    (ordered : fields.Pairwise fun earlier later => Precedes earlier.spelling later.spelling) :
    firstBeginning? fields text = some field ↔ field ∈ fields ∧ LongestAt fields text field := by
  constructor
  · intro found
    exact ⟨List.mem_of_find?_eq_some found, longestAt_of_firstBeginning? ordered found⟩
  · rintro ⟨listed, longestAt⟩
    have searched : (firstBeginning? fields text).isSome :=
      List.find?_isSome.mpr ⟨field, listed, begins_iff_isPrefixOf.mp longestAt.begins⟩
    obtain ⟨first, found⟩ := Option.isSome_iff_exists.mp searched
    have firstListed : first ∈ fields := List.mem_of_find?_eq_some found
    have alike := longestAt.spelling_eq listed firstListed (longestAt_of_firstBeginning? ordered found)
    -- no two listed fields are spelled alike
    have told := List.inj_on_of_nodup_map (List.pairwise_map.mpr (ordered.imp Precedes.ne)) listed firstListed alike
    rw [found, told]

theorem firstBeginning?_lexicon_eq_some_iff {body : ClassBody} :
    firstBeginning? body.lexicon text = some field ↔
      field ∈ body.lexicon ∧ LongestAt body.mentionable text field := by
  rw [firstBeginning?_eq_some_iff (pairwise_precedes_lexicon body)]
  refine and_congr_right fun _ => ⟨fun longestAt => ?_, fun longestAt => ?_⟩
  · exact longestAt.of_spellings fun other mentioned => mem_spellings_lexicon_iff.mpr (List.mem_map_of_mem mentioned)
  · exact longestAt.of_spellings fun other listed => mem_spellings_lexicon_iff.mp (List.mem_map_of_mem listed)

theorem isSome_firstBeginning?_lexicon_iff {body : ClassBody} :
    (firstBeginning? body.lexicon text).isSome ↔
      ∃ named ∈ body.mentionable, (Word.field named).Begins text.toList := by
  rw [firstBeginning?, List.find?_isSome]
  constructor
  · rintro ⟨named, listed, begins⟩
    exact ⟨named, mem_mentionable_of_mem_lexicon listed, begins_iff_isPrefixOf.mpr begins⟩
  · rintro ⟨named, mentioned, begins⟩
    obtain ⟨kept, listed, same⟩ := exists_mem_lexicon mentioned
    rw [Word.Begins, Word.spelling, ← same] at begins
    exact ⟨kept, listed, begins_iff_isPrefixOf.mp begins⟩

/-! ## Classes -/

/-- The lexicon of a class has one field for each spelling, in matching order, and the first one that
begins a text is the longest that does. -/
theorem lexicon_represents (body : ClassBody) :
    (body.lexicon.Pairwise fun earlier later => Precedes earlier.spelling later.spelling) ∧
    ((body.lexicon.map Field.spelling).Nodup ∧
      ∀ spelling, spelling ∈ body.lexicon.map Field.spelling ↔ spelling ∈ body.mentionable.map Field.spelling) ∧
    (∀ field, field ∈ body.lexicon ↔ LastOfSpelling body.mentionable field) ∧
    (∀ text, (firstBeginning? body.lexicon text).isSome ↔
      ∃ named ∈ body.mentionable, (Word.field named).Begins text.toList) ∧
    (∀ text field, firstBeginning? body.lexicon text = some field ↔
      field ∈ body.lexicon ∧ LongestAt body.mentionable text field) ∧
    (body.settable.map (·.name)).Nodup ∧
    ∀ field ∈ body.settable, FirstOfName body.fields field := by
  refine ⟨pairwise_precedes_lexicon body, ⟨nodup_spellings_lexicon body, fun _ => mem_spellings_lexicon_iff⟩,
    fun _ => mem_lexicon_iff_lastOfSpelling, fun _ => isSome_firstBeginning?_lexicon_iff,
    fun _ _ => firstBeginning?_lexicon_eq_some_iff, ?_, fun _ => firstOfName_of_mem_settable⟩
  exact ClassBody.nodup_names_firstOfEachName _

/-- A class with two settable fields of one spelling; the setter of the second names it only by its
parameter. -/
def alikeBody : ClassBody where
  owner := .named "com.example.Person"
  fields := [⟨"name", .named "java.lang.String", false, false, []⟩, ⟨"Name", .named "int", false, false, []⟩,
    ⟨"nameSuffix", .named "java.lang.String", false, false, []⟩]
  methods := [.setterOf ⟨"name", .named "java.lang.String", false, false, []⟩,
    ⟨"setLabel", .named "void", [⟨"Name", .named "int"⟩], true, false⟩,
    .setterOf ⟨"nameSuffix", .named "java.lang.String", false, false, []⟩]

example : alikeBody.settable.map (·.name) = ["name", "Name", "nameSuffix"] ∧
    alikeBody.lexicon.map (·.name) = ["nameSuffix", "Name"] ∧
    (firstBeginning? alikeBody.lexicon "NameSuffixLike").map (·.name) = some "nameSuffix" := by
  decide +kernel

end QueryByName.Finder
