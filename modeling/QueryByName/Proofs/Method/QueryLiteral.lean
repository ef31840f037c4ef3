import QueryByName.Method.Body

/-! # The literal of a query

The text of a query is written into one line of the body, between quotes and with escapes.
`readLetters` reads such a literal from left to right and stops where it cannot go on.  Each letter of
the text is read back from its own escape, whatever follows (`readLetters_escape`), so what is read is
the text, and the first letter that stops the reading is the quote that closes the literal.

Counting backslashes says the same without reading.  Behind a whole escape an even number of them
stands (`even_endBackslashes_escape`), and a quote inside an escape comes one backslash later.
-/

namespace QueryByName.Method

open QueryByName.Java (Parameter StringLiteral.escape StringLiteral.escapeAll StringLiteral.escaped TypeExpr)

/-! ## Escapes -/

theorem escapeAll_nil : StringLiteral.escapeAll [] = [] := rfl

theorem escapeAll_cons (letter : Char) (letters : List Char) :
    StringLiteral.escapeAll (letter :: letters) = StringLiteral.escape letter ++ StringLiteral.escapeAll letters :=
  List.flatMap_cons

theorem escaped_append (left right : String) :
    StringLiteral.escaped (left ++ right) = StringLiteral.escaped left ++ StringLiteral.escaped right := by
  rw [← String.toList_inj]
  simp [StringLiteral.escaped, StringLiteral.escapeAll]

/-! ## Reading -/

/-- The letters that the beginning of a text stands for inside a literal, and the rest at which the
literal cannot go on: a quote, a line feed, or a backslash that begins no escape. -/
def readLetters : List Char → List Char × List Char
  | [] => ([], [])
  | '\\' :: '\\' :: rest => (readLetters rest).map ('\\' :: ·) id
  | '\\' :: '"' :: rest => (readLetters rest).map ('"' :: ·) id
  | '\\' :: 'n' :: rest => (readLetters rest).map ('\n' :: ·) id
  | letter :: rest =>
    if letter = '\\' ∨ letter = '"' ∨ letter = '\n' then ([], letter :: rest)
    else (readLetters rest).map (letter :: ·) id

theorem readLetters_quote (rest : List Char) : readLetters ('"' :: rest) = ([], '"' :: rest) := by
  simp [readLetters]

theorem readLetters_escape (letter : Char) (rest : List Char) :
    readLetters (StringLiteral.escape letter ++ rest) = (readLetters rest).map (letter :: ·) id := by
  fun_cases StringLiteral.escape letter with
  | case1 => rfl
  | case2 => rfl
  | case3 => rfl
  | case4 _ notBackslash notQuote notLineFeed =>
    -- a letter that is written as it is does not stop the reading
    have plain : ¬ (letter = '\\' ∨ letter = '"' ∨ letter = '\n') := by
      simp only [not_or]
      exact ⟨notBackslash, notQuote, notLineFeed⟩
    rw [List.singleton_append, readLetters, if_neg plain]
    · exact fun _ backslash => absurd backslash notBackslash
    · exact fun _ backslash => absurd backslash notBackslash
    · exact fun _ backslash => absurd backslash notBackslash

theorem readLetters_escapeAll (letters rest : List Char) :
    readLetters (StringLiteral.escapeAll letters ++ rest) = (readLetters rest).map (letters ++ ·) id := by
  induction letters with
  | nil => rfl
  | cons letter letters inductionHypothesis =>
    rw [escapeAll_cons, List.append_assoc, readLetters_escape, inductionHypothesis]
    rfl

/-! ## Backslashes before quotes -/

/-- The number of backslashes at the end of a text, up to the last other letter. -/
def endBackslashes (letters : List Char) : Nat :=
  (letters.reverse.takeWhile (· == '\\')).length

theorem endBackslashes_concat_backslash (letters : List Char) :
    endBackslashes (letters ++ ['\\']) = endBackslashes letters + 1 := by
  simp [endBackslashes]

theorem endBackslashes_concat_of_ne (letters : List Char) {letter : Char} (other : letter ≠ '\\') :
    endBackslashes (letters ++ [letter]) = 0 := by
  simp [endBackslashes, other]

theorem even_endBackslashes_escape {letters : List Char} (even : endBackslashes letters % 2 = 0) (letter : Char) :
    endBackslashes (letters ++ StringLiteral.escape letter) % 2 = 0 := by
  fun_cases StringLiteral.escape letter with
  | case1 =>
    rw [List.append_cons, endBackslashes_concat_backslash, endBackslashes_concat_backslash]
    omega
  | case2 => rw [List.append_cons, endBackslashes_concat_of_ne _ (by decide)]
  | case3 => rw [List.append_cons, endBackslashes_concat_of_ne _ (by decide)]
  | case4 _ notBackslash => rw [endBackslashes_concat_of_ne _ notBackslash]

/-- Only the escape of a quote holds a quote, and one backslash stands before it. -/
theorem eq_backslash_of_quote_in_escape {letter : Char} {before after : List Char} :
    StringLiteral.escape letter = before ++ '"' :: after → before = ['\\'] := by
  fun_cases StringLiteral.escape letter with
  | case1 => simp [List.cons_eq_append_iff]
  | case2 => simp +contextual [List.cons_eq_append_iff]
  | case3 => simp [List.cons_eq_append_iff]
  | case4 _ _ notQuote _ =>
    intro split
    have present : '"' ∈ [letter] := by
      rw [split]
      exact List.mem_append_right _ List.mem_cons_self
    exact absurd (List.mem_singleton.mp present).symm notQuote

theorem odd_endBackslashes_of_quote_in_escape {letters : List Char} (even : endBackslashes letters % 2 = 0)
    {letter : Char} {before after : List Char} (split : StringLiteral.escape letter = before ++ '"' :: after) :
    endBackslashes (letters ++ before) % 2 = 1 := by
  rw [eq_backslash_of_quote_in_escape split, endBackslashes_concat_backslash]
  omega

theorem odd_endBackslashes_of_quote {text letters before after : List Char}
    (even : endBackslashes letters % 2 = 0) (split : StringLiteral.escapeAll text = before ++ '"' :: after) :
    endBackslashes (letters ++ before) % 2 = 1 := by
  induction text generalizing letters before with
  | nil =>
    rw [escapeAll_nil] at split
    exact absurd split.symm (List.append_ne_nil_of_right_ne_nil _ (List.cons_ne_nil _ _))
  | cons letter text inductionHypothesis =>
    have evenFurther := even_endBackslashes_escape even letter
    rw [escapeAll_cons] at split
    -- the quote stands in the escape of the first letter or behind it
    obtain ⟨further, rfl, later⟩ | ⟨further, here, later⟩ := List.append_eq_append_iff.mp split
    · rw [← List.append_assoc]
      exact inductionHypothesis evenFurther later
    · cases further with
      | nil =>
        rw [List.append_nil] at here
        rw [← here, ← List.append_nil (letters ++ _)]
        exact inductionHypothesis evenFurther later.symm
      | cons first further =>
        obtain ⟨rfl, _⟩ := List.cons.inj later
        exact odd_endBackslashes_of_quote_in_escape even here

theorem even_endBackslashes_escapeAll {text letters : List Char} (even : endBackslashes letters % 2 = 0) :
    endBackslashes (letters ++ StringLiteral.escapeAll text) % 2 = 0 := by
  induction text generalizing letters with
  | nil => rwa [escapeAll_nil, List.append_nil]
  | cons letter text inductionHypothesis =>
    rw [escapeAll_cons, ← List.append_assoc]
    exact inductionHypothesis (even_endBackslashes_escape even letter)

theorem lineFeed_notMem_escape (letter : Char) : '\n' ∉ StringLiteral.escape letter := by
  fun_cases StringLiteral.escape letter with
  | case1 => decide
  | case2 => decide
  | case3 => decide
  | case4 _ _ _ notLineFeed => exact fun present => notLineFeed (List.mem_singleton.mp present).symm

theorem lineFeed_notMem_escapeAll (letters : List Char) : '\n' ∉ StringLiteral.escapeAll letters := by
  intro present
  obtain ⟨letter, _, written⟩ := List.mem_flatMap.mp present
  exact lineFeed_notMem_escape letter written

/-- What stands between two quotes is a literal of the text. -/
structure ReadsBack (text : String) (written : List Char) : Prop where
  whole : readLetters written = (text.toList, [])
  /-- Whatever is written behind its closing quote, the literal ends there. -/
  closed : ∀ rest, readLetters (written ++ '"' :: rest) = (text.toList, '"' :: rest)
  oneLine : '\n' ∉ written
  /-- Every quote of the text is escaped, and the closing one is not. -/
  escapedQuotes : ∀ before after, written = before ++ '"' :: after → endBackslashes before % 2 = 1
  closingQuote : endBackslashes written % 2 = 0

theorem readsBack_escaped (text : String) : ReadsBack text (StringLiteral.escaped text).toList := by
  rw [StringLiteral.escaped, String.toList_ofList]
  have atBeginning : endBackslashes [] % 2 = 0 := rfl
  exact
    { whole := by
        rw [← List.append_nil (StringLiteral.escapeAll _), readLetters_escapeAll, readLetters]
        simp
      closed := fun rest => by
        rw [readLetters_escapeAll, readLetters_quote]
        simp
      oneLine := lineFeed_notMem_escapeAll _
      escapedQuotes := fun before after split => odd_endBackslashes_of_quote atBeginning split
      closingQuote := even_endBackslashes_escapeAll atBeginning }

/-! ## The line of a query -/

/-- A text as a string literal. -/
def quoted (text : String) : String :=
  "\"" ++ StringLiteral.escaped text ++ "\""

/-- What a line that creates a query holds before the text of the query. -/
def creationFront (type : TypeExpr) : List Parameter → String
  | [] => type.source ++ " q = em.createQuery("
  | _ :: _ => "StringBuilder queryBuilder = new StringBuilder("

/-- What such a line holds behind the text of the query. -/
def creationBack (resultClass : String) : List Parameter → String
  | [] => ", " ++ resultClass ++ ".class);"
  | _ :: _ => ");"

/-- The text of a query stands in one of the lines that create it, and nowhere else. -/
theorem exists_creationLines (type : TypeExpr) (resultClass entityAlias : String) (collections : List Parameter) :
    ∃ rest, ∀ text, (creationSteps ⟨text, type, resultClass⟩ entityAlias collections).flatMap Statement.lines =
      (creationFront (TypedQuery.type ⟨text, type, resultClass⟩) collections ++ quoted text ++
        creationBack resultClass collections) :: rest := by
  cases collections with
  | nil =>
    refine ⟨[], fun text => ?_⟩
    rw [creationSteps, List.flatMap_singleton, Statement.lines, List.singleton_inj, ← String.toList_inj]
    simp [quoted, creationFront, creationBack]
  | cons first others =>
    let rest : List Statement :=
      (first :: others).flatMap (fun parameter =>
        [.declareCount parameter.name, .appendTests parameter entityAlias]) ++
      [.createBuiltQuery (TypedQuery.type ⟨"", type, resultClass⟩) resultClass]
    refine ⟨rest.flatMap Statement.lines, fun text => ?_⟩
    have begun : (Statement.beginQuery text).lines =
        ["StringBuilder queryBuilder = new StringBuilder(" ++ quoted text ++ ");"] := by
      rw [Statement.lines, List.singleton_inj, ← String.toList_inj]
      simp [quoted]
    rw [creationSteps, List.append_assoc, List.flatMap_append, List.flatMap_singleton, begun]
    · rfl
    · exact List.cons_ne_nil first others

theorem exists_bodyLines (frame : Frame) (type : TypeExpr) (resultClass : String) (last : Statement) :
    ∃ before after, ∀ text, (frame.statements ⟨text, type, resultClass⟩ last).flatMap Statement.lines =
      before ++ (creationFront (TypedQuery.type ⟨text, type, resultClass⟩) frame.collections ++ quoted text ++
        creationBack resultClass frame.collections) :: after := by
  obtain ⟨rest, created⟩ := exists_creationLines type resultClass frame.entityAlias frame.collections
  have split : ∃ before after : List Statement, ∀ text, frame.statements ⟨text, type, resultClass⟩ last =
      before ++ (creationSteps ⟨text, type, resultClass⟩ frame.entityAlias frame.collections ++ after) := by
    refine ⟨argumentChecks frame.resolution.parameters ++
        patternSteps frame.resolution.words frame.resolution.parameters ++ [.obtainManager frame.entityName],
      bindingSteps frame.values frame.collections ++ [last], fun text => ?_⟩
    simp only [Frame.statements, List.append_assoc]
  -- the lines before the creation of the query and those after it do not mention its text
  obtain ⟨before, after, split⟩ := split
  refine ⟨before.flatMap Statement.lines, rest ++ after.flatMap Statement.lines, fun text => ?_⟩
  rw [split, List.flatMap_append, List.flatMap_append, created, List.cons_append]

/-- A body creates a query from a literal, in which the text of the query is read up to the closing quote. -/
def HoldsLiteral (frame : Frame) (query : TypedQuery) (body : List String) : Prop :=
  ∃ before after literal, body = before ++ (creationFront query.type frame.collections ++ "\"" ++ literal) :: after ∧
    readLetters literal.toList =
      (query.text.toList, '"' :: (creationBack query.resultClass frame.collections).toList)

theorem holdsLiteral_statements (frame : Frame) (query : TypedQuery) (last : Statement) :
    HoldsLiteral frame query ((frame.statements query last).flatMap Statement.lines) := by
  obtain ⟨before, after, lines⟩ := exists_bodyLines frame query.resultType query.resultClass last
  refine ⟨before, after,
    StringLiteral.escaped query.text ++ "\"" ++ creationBack query.resultClass frame.collections, ?_, ?_⟩
  · rw [lines query.text]
    simp only [quoted, String.append_assoc]
  · have closed := (readsBack_escaped query.text).closed (creationBack query.resultClass frame.collections).toList
    rw [String.toList_append, String.toList_append, List.append_assoc]
    exact closed

/-- Whatever the text of a query, its literal is read back, and ends at its own closing quote only. -/
theorem literals_read_back : (∀ text, ReadsBack text (StringLiteral.escaped text).toList) ∧
    ∀ (frame : Frame) (name : String),
      HoldsLiteral frame frame.selectQuery (frame.selectMethod name).body ∧
      HoldsLiteral frame frame.countQuery (frame.countMethod name).body :=
  ⟨readsBack_escaped, fun frame _ => ⟨holdsLiteral_statements frame _ _, holdsLiteral_statements frame _ _⟩⟩

example : StringLiteral.escaped "a \"b\" \\c" = "a \\\"b\\\" \\\\c" := by decide

end QueryByName.Method
