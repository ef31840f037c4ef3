import QueryByName.Proofs.Finder.GreedyReading
import QueryByName.Proofs.Text.ByteOrder

/-! # The matching order

Words are compared by their spellings, and a field goes before the keyword that is spelled alike.  So
the order is total (`transCmp_order`), and it finds two words equal exactly if they count as one word
(`order_eq_eq_iff_sameAs`): spellings tell fields apart and keywords apart, and the kind of the word
tells a field from a keyword.  `matchingOrder_words` puts together what sorting and keeping sets of
words rely on.

`Precedes` says what comparing spellings means in bytes.
-/

namespace QueryByName.Finder

open QueryByName.Java (Field)

/-! ## Spellings -/

/-- Whether a spelling goes before another: the one with more bytes, and of equally long ones the one
with the smaller bytes. -/
def Precedes (left right : String) : Prop :=
  right.utf8ByteSize < left.utf8ByteSize ∨
    (left.utf8ByteSize = right.utf8ByteSize ∧ Text.utf8Bytes left < Text.utf8Bytes right)

theorem spellingOrder_eq_lt_iff {left right : String} : spellingOrder left right = .lt ↔ Precedes left right := by
  have letters : compare left right = .lt ↔ left < right := compareOfLessAndEq_eq_lt
  rw [spellingOrder, Ordering.then_eq_lt, Nat.compare_eq_lt, Nat.compare_eq_eq, letters, Text.lt_iff_utf8Bytes_lt,
    Precedes, eq_comm (a := right.utf8ByteSize)]

theorem Precedes.ne {left right : String} (before : Precedes left right) : left ≠ right := by
  rintro rfl
  have itself : spellingOrder left left = .eq := Std.ReflCmp.compare_self
  rw [spellingOrder_eq_lt_iff.mpr before] at itself
  cases itself

theorem Precedes.asymm {left right : String} (before : Precedes left right) : ¬ Precedes right left := by
  intro after
  have around : spellingOrder left left = .lt :=
    Std.TransCmp.lt_trans (spellingOrder_eq_lt_iff.mpr before) (spellingOrder_eq_lt_iff.mpr after)
  exact (spellingOrder_eq_lt_iff.mp around).ne rfl

theorem utf8ByteSize_lt_of_begins {left right : String} (begins : left.toList <+: right.toList) (other : left ≠ right) :
    left.utf8ByteSize < right.utf8ByteSize := by
  by_contra notShorter
  have whole : right.toList <+: left.toList :=
    prefix_of_utf8ByteSize_le (List.prefix_refl _) begins (Nat.not_lt.mp notShorter)
  exact other (String.toList_inj.mp (begins.eq_of_length_le whole.length_le))

/-! ## Words -/

instance transCmpWordSpelling : Std.TransCmp fun left right : Word => spellingOrder left.spelling right.spelling :=
  Ordered.transCmp_key spellingOrder Word.spelling

instance transCmp_order : Std.TransCmp Word.order :=
  inferInstanceAs (Std.TransCmp (compareLex
    (fun left right : Word => spellingOrder left.spelling right.spelling) (compareOn Word.isKeyword)))

theorem order_eq_lt_iff {left right : Word} :
    Word.order left right = .lt ↔ Precedes left.spelling right.spelling ∨
      (left.spelling = right.spelling ∧ left.isKeyword = false ∧ right.isKeyword = true) := by
  have kinds : compare left.isKeyword right.isKeyword = .lt ↔ left.isKeyword = false ∧ right.isKeyword = true := by
    cases left.isKeyword <;> cases right.isKeyword <;> decide
  rw [Word.order, Ordering.then_eq_lt, spellingOrder_eq_lt_iff, kinds, Std.LawfulEqCmp.compare_eq_iff_eq]

theorem order_eq_eq_iff {left right : Word} :
    Word.order left right = .eq ↔ left.spelling = right.spelling ∧ left.isKeyword = right.isKeyword := by
  rw [Word.order, Ordering.then_eq_eq, Std.LawfulEqCmp.compare_eq_iff_eq, Std.LawfulEqCmp.compare_eq_iff_eq]

theorem order_eq_eq_iff_sameAs {left right : Word} : Word.order left right = .eq ↔ left.sameAs right = true := by
  rw [order_eq_eq_iff]
  cases left with
  | field left =>
    cases right with
    | field right => simp [Word.sameAs, Word.spelling, Word.isKeyword]
    | keyword right => simp [Word.sameAs, Word.isKeyword]
  | keyword left =>
    cases right with
    | field right => simp [Word.sameAs, Word.isKeyword]
    | keyword right =>
      -- keywords of one spelling are one keyword
      have spelled : left.spelling = right.spelling ↔ left = right :=
        ⟨Keyword.spelling_injective, congrArg Keyword.spelling⟩
      simp [Word.sameAs, Word.spelling, Word.isKeyword, spelled]

theorem order_field_keyword {field : Field} {keyword : Keyword} (alike : field.spelling = keyword.spelling) :
    Word.order (.field field) (.keyword keyword) = .lt :=
  order_eq_lt_iff.mpr (.inr ⟨alike, rfl, rfl⟩)

theorem not_between_field_keyword {field : Field} {keyword : Keyword} (alike : field.spelling = keyword.spelling)
    {word : Word} (after : Word.order (.field field) word = .lt) : Word.order word (.keyword keyword) ≠ .lt := by
  intro before
  have fieldFirst := order_eq_lt_iff.mp after
  have keywordLast := order_eq_lt_iff.mp before
  simp only [Word.spelling, alike] at fieldFirst keywordLast
  -- a word between them would be spelled like both, and be a keyword and none
  obtain precedes | ⟨same, _, reserved⟩ := fieldFirst
  · obtain follows | ⟨same, _, _⟩ := keywordLast
    · exact precedes.asymm follows
    · exact precedes.ne same.symm
  · obtain follows | ⟨_, unreserved, _⟩ := keywordLast
    · exact follows.ne same.symm
    · rw [reserved] at unreserved
      cases unreserved

/-- A comparison of words by which they can be sorted and kept in sets. -/
structure MatchingOrder (order : Word → Word → Ordering) (same : Word → Word → Bool) : Prop where
  reversed : ∀ left right, order left right = (order right left).swap
  transitive : ∀ first second third outcome, order first second = outcome → order second third = outcome →
    order first third = outcome
  transitiveLE : ∀ first second third, (order first second).isLE → (order second third).isLE →
    (order first third).isLE
  same_iff : ∀ left right, order left right = .eq ↔ same left right = true
  sameFields_iff : ∀ left right : Field,
    same (.field left) (.field right) = true ↔ Text.capitalized left.name = Text.capitalized right.name
  sameKeywords_iff : ∀ left right, same (.keyword left) (.keyword right) = true ↔ left = right
  neverSame : ∀ field keyword,
    same (.field field) (.keyword keyword) = false ∧ same (.keyword keyword) (.field field) = false
  directlyBefore : ∀ field keyword, field.spelling = keyword.spelling →
    order (.field field) (.keyword keyword) = .lt ∧
    ∀ word, order (.field field) word = .lt → order word (.keyword keyword) ≠ .lt
  longerFirst : ∀ left right : Word, right.spelling.toList <+: left.spelling.toList →
    right.spelling ≠ left.spelling → order left right = .lt

theorem matchingOrder_words : MatchingOrder Word.order Word.sameAs where
  reversed _ _ := Std.OrientedCmp.eq_swap
  transitive _ _ _ outcome before after := by
    cases outcome with
    | lt => exact Std.TransCmp.lt_trans before after
    | eq => exact Std.TransCmp.eq_trans before after
    | gt => exact Std.TransCmp.gt_trans before after
  transitiveLE _ _ _ := Std.TransCmp.isLE_trans
  same_iff _ _ := order_eq_eq_iff_sameAs
  sameFields_iff _ _ := beq_iff_eq
  sameKeywords_iff _ _ := beq_iff_eq
  neverSame _ _ := ⟨rfl, rfl⟩
  directlyBefore _ _ alike := ⟨order_field_keyword alike, fun _ => not_between_field_keyword alike⟩
  longerFirst _ _ begins other := order_eq_lt_iff.mpr (.inl (.inl (utf8ByteSize_lt_of_begins begins other)))

end QueryByName.Finder
