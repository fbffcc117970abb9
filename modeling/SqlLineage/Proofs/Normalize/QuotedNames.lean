import SqlLineage.Proofs.Normalize.Copies
import SqlLineage.Proofs.Scan.BareNames
import SqlLineage.Proofs.Scan.Quoting

/-!
# A quoted name behind FROM

The quotes of a table's name are taken away before its statement is scanned. What was in them comes
into the text as it is, but for assignments and for the variables of selections, and so it is
scanned as the text that it looks like.
-/

namespace SqlLineage

/-! ## Quotings -/

namespace Quoting

theorem nameCloser?_opener (quoting : Quoting) :
    Normalize.nameCloser? quoting.opener = some quoting.closer := by
  cases quoting <;> rfl

theorem opener_mem_delimiters (quoting : Quoting) :
    quoting.opener ∈ Normalize.delimiters := by
  cases quoting <;> decide

theorem closer_mem_delimiters (quoting : Quoting) :
    quoting.closer ∈ Normalize.delimiters := by
  cases quoting <;> decide

end Quoting

/-- A character that may stand in any quotes: no delimiter, and not the end of a line. -/
def IsQuotable (c : Char) : Prop :=
  c ∉ Normalize.delimiters ∧ c ≠ '\n'

instance (c : Char) : Decidable (IsQuotable c) :=
  inferInstanceAs (Decidable (_ ∧ _))

/-- A quoted name is one token, and the name is what stands between its delimiters. -/
theorem Quoting.exists_token
    (quoting : Quoting)
    {name : String}
    (quotable : ∀ c ∈ name.toList, IsQuotable c) :
    ∃ token, Scan.tokens (quoting.quote name) = [token] ∧ token.kind = .quotedIdent ∧
      token.identifier? = some name := by
  have closed : quoting.closer ∉ name.toList := fun member =>
    (quotable _ member).1 quoting.closer_mem_delimiters
  have alone := quoting.tokens_quote_double name
  rw [double_eq_self_iff.2 closed] at alone
  exact ⟨_, alone, rfl, quoting.identifier?_quote name 0⟩

/-- The text that selects from a quoted name. -/
def Quoting.selectionFrom (quoting : Quoting) (name : String) : String :=
  Scan.selectionFrom (quoting.quote name)

namespace Normalize

variable {quoting : Quoting}
variable {name : String}

theorem toList_selectionFrom (quoting : Quoting) (name : String) :
    (quoting.selectionFrom name).toList =
      Scan.selection.toList ++ quoting.opener :: (name.toList ++ [quoting.closer]) := by
  rw [Quoting.selectionFrom, Scan.selectionFrom, String.toList_append, Quoting.quote,
    String.toList_ofList]

/-! ## Steps that copy the selection -/

/-- There is nothing to look up in the selection. -/
theorem looksNothingUp_of_suffix
    (quotable : ∀ c ∈ name.toList, IsQuotable c)
    {rest : List Char}
    (within : rest <:+ (quoting.selectionFrom name).toList) :
    LooksNothingUp rest := by
  rw [toList_selectionFrom] at within
  obtain ⟨front, split⟩ := within
  have few {rest : List Char} (within : rest <:+ name.toList ++ [quoting.closer]) :
      rest.count '"' < 2 := by
    have none_ : name.toList.count '"' = 0 := by
      rw [List.count_eq_zero]
      exact fun member => (quotable _ member).1 (by decide)
    have bound := within.sublist.count_le '"'
    rw [List.count_append, none_, Nat.zero_add] at bound
    have one := List.count_le_length (a := '"') (l := [quoting.closer])
    exact Nat.lt_succ_of_le (bound.trans one)
  have harmlessFront : ∀ c ∈ Scan.selection.toList, c ≠ '(' ∧ c ≠ 'g' :=
    forall_mem_of_all (by decide)
  have harmless {c : Char} (isFirst : c ∈ Scan.selection.toList ∨ c = quoting.opener)
      (behind : List Char) : LooksNothingUp (c :: behind) := by
    have other : c ≠ '(' ∧ c ≠ 'g' := by
      rcases isFirst with inFront | rfl
      · exact harmlessFront c inFront
      · cases quoting <;> decide
    exact .inr (by simpa using other)
  rcases List.append_eq_append_iff.1 split with ⟨middle, atFront, behind⟩ | ⟨middle, -, behind⟩
  · cases middle with
    | nil =>
        rw [List.nil_append] at behind
        rw [behind]
        exact harmless (.inr rfl) _
    | cons c middle =>
        rw [behind, List.cons_append]
        refine harmless (.inl ?_) _
        rw [atFront]
        exact List.mem_append_right _ List.mem_cons_self
  · cases middle with
    | nil =>
        rw [List.nil_append] at behind
        rw [← behind]
        exact harmless (.inr rfl) _
    | cons c middle =>
        rw [List.cons_append] at behind
        obtain ⟨-, inName⟩ := List.cons.inj behind
        exact .inl (few ⟨middle, inName.symm⟩)

/-- The selection is no expression. -/
theorem textOfExpression_selectionFrom (quoting : Quoting) (name : String) :
    textOfExpression (quoting.selectionFrom name) = quoting.selectionFrom name := by
  have visible : Text.isBlank quoting.closer = false := by
    cases quoting <;> decide
  have split : (quoting.selectionFrom name).toList =
      'S' :: ("ELECT * FROM ".toList ++ quoting.opener :: name.toList) ++ [quoting.closer] := by
    rw [toList_selectionFrom]
    simp [Scan.selection]
  apply textOfExpression_eq_self
  rw [Text.trim, String.toList_ofList, split, List.cons_append, Text.trimStartList_cons (by decide),
    ← List.cons_append, Text.trimEndList_concat _ visible]
  simp

/-- The selection has no comments. -/
theorem hashComments_selectionFrom
    (quotable : ∀ c ∈ name.toList, IsQuotable c) :
    hashComments true (quoting.selectionFrom name).toList = (quoting.selectionFrom name).toList := by
  have oneLine :
      '\n' ∉ "ELECT * FROM ".toList ++ quoting.opener :: (name.toList ++ [quoting.closer]) := by
    have inName : '\n' ∉ name.toList := fun member => (quotable _ member).2 rfl
    have inQuotes : '\n' ≠ quoting.opener ∧ '\n' ≠ quoting.closer := by
      cases quoting <;> decide
    simp [inName, inQuotes]
  have split : (quoting.selectionFrom name).toList =
      'S' :: ("ELECT * FROM ".toList ++ quoting.opener :: (name.toList ++ [quoting.closer])) :=
    toList_selectionFrom quoting name
  rw [split, hashComments, if_neg (by decide), if_neg (by decide)]
  exact congrArg (List.cons 'S') (hashComments_eq_self oneLine)

/-! ## Steps that edit the selection -/

/-- A step that replaces no delimiters edits what stands in front of a quoted name and what is in
it. -/
theorem Edited.exists_split_quoted
    {edit : List Char → List Char → Prop}
    (nonempty : ∀ old new, edit old new → old ≠ [])
    (undelimited : ∀ old new, edit old new → ∀ c ∈ old, c ∉ delimiters)
    {front inside result : List Char}
    (edited : Edited edit (front ++ quoting.opener :: (inside ++ [quoting.closer])) result) :
    ∃ newFront newInside, result = newFront ++ quoting.opener :: (newInside ++ [quoting.closer]) ∧
      Edited edit front newFront ∧ Edited edit inside newInside := by
  obtain ⟨newFront, behind, rfl, inFront, inBehind⟩ := edited.exists_split fun old new replaces
    member => undelimited old new replaces _ member quoting.opener_mem_delimiters
  obtain ⟨newInside, last, rfl, inInside, atEnd⟩ := inBehind.exists_split fun old new replaces
    member => undelimited old new replaces _ member quoting.closer_mem_delimiters
  obtain rfl := atEnd.eq_nil nonempty
  exact ⟨newFront, newInside, rfl, inFront, inInside⟩

/-- What the steps that edit a text make of a part of it. -/
def Rewritten (source result : List Char) : Prop :=
  ∃ middle, Edited IsAssignment source middle ∧ Edited IsSelectTarget middle result

/-- What holds of a part and of the characters that are put in holds of what becomes of the part. -/
theorem Rewritten.forall_mem
    {property : Char → Prop}
    (equation : property '=')
    (space : property ' ')
    {source result : List Char}
    (rewritten : Rewritten source result)
    (holds : ∀ c ∈ source, property c) :
    ∀ c ∈ result, property c := by
  obtain ⟨middle, toMiddle, toResult⟩ := rewritten
  refine toResult.forall_mem ?_ (toMiddle.forall_mem ?_ holds)
  · intro old new target c member
    rw [target.becomesSpace, List.mem_singleton] at member
    rwa [member]
  · intro old new assigns c member
    rw [assigns.2, List.mem_singleton] at member
    rwa [member]

/-- A part without colons and blanks, or without colons and the first letter of `INTO`, is copied. -/
theorem Rewritten.eq_self
    {source result : List Char}
    (rewritten : Rewritten source result)
    (noColon : ':' ∉ source)
    (noTarget : (∀ c ∈ source, Text.isBlank c = false) ∨ ∀ c ∈ source, Text.foldChar c ≠ 'i') :
    result = source := by
  obtain ⟨middle, toMiddle, toResult⟩ := rewritten
  obtain rfl : middle = source := by
    apply toMiddle.eq_of_unedited
    rintro old new ⟨rfl, -⟩ within
    exact noColon (within.subset List.mem_cons_self)
  apply toResult.eq_of_unedited
  intro old new target within
  rcases noTarget with noBlank | noInto
  · obtain ⟨blank, member, isBlank⟩ := target.hasBlank
    have visible := noBlank blank (within.subset member)
    rw [isBlank] at visible
    cases visible
  · obtain ⟨i, member, isInto⟩ := target.hasInto
    exact noInto i (within.subset member) isInto

/-- The normal form of the selection has no quotes. -/
theorem exists_rewritten
    (quoting : Quoting)
    (quotable : ∀ c ∈ name.toList, IsQuotable c) :
    ∃ front inside, normalize (quoting.selectionFrom name) = String.ofList (front ++ inside) ∧
      Rewritten Scan.selection.toList front ∧ Rewritten name.toList inside ∧
      ∀ c ∈ front ++ inside, IsQuotable c := by
  have copied : textOfExpression (withGlobalKeys (quoting.selectionFrom name)) =
      quoting.selectionFrom name := by
    rw [withGlobalKeys_eq_self fun _ => looksNothingUp_of_suffix quotable,
      textOfExpression_selectionFrom]
  -- Equations first, and then the variables of selections: both steps keep the delimiters.
  have assigned := edited_equations (hashComments true (quoting.selectionFrom name).toList)
  rw [hashComments_selectionFrom quotable, toList_selectionFrom] at assigned
  obtain ⟨frontBetween, insideBetween, between, toFrontBetween, toInsideBetween⟩ :=
    assigned.exists_split_quoted (by rintro old new ⟨rfl, -⟩; simp)
      (by rintro old new ⟨rfl, -⟩; exact forall_mem_of_all (by decide))
  have marked : (withStandardMarks (quoting.selectionFrom name)).toList =
      frontBetween ++ quoting.opener :: (insideBetween ++ [quoting.closer]) := by
    rw [withStandardMarks, String.toList_ofList, hashComments_selectionFrom quotable,
      toList_selectionFrom, between]
  have shortened := edited_dropInto (withStandardMarks (quoting.selectionFrom name)).toList.length
    none (withStandardMarks (quoting.selectionFrom name)).toList
  rw [marked] at shortened
  obtain ⟨front, inside, whole, toFront, toInside⟩ := shortened.exists_split_quoted
    IsSelectTarget.ne_nil fun _ _ target => target.undelimited
  have rewrittenFront : Rewritten Scan.selection.toList front := ⟨_, toFrontBetween, toFront⟩
  have rewrittenInside : Rewritten name.toList inside := ⟨_, toInsideBetween, toInside⟩
  have opensNothing : ∀ c ∈ front, IsQuotable c ∧ c ≠ '-' :=
    rewrittenFront.forall_mem (by decide) (by decide) (forall_mem_of_all (by decide))
  have quotableInside : ∀ c ∈ inside, IsQuotable c :=
    rewrittenInside.forall_mem (by decide) (by decide) quotable
  have quotableAll : ∀ c ∈ front ++ inside, IsQuotable c :=
    List.forall_mem_append.2 ⟨fun c member => (opensNothing c member).1, quotableInside⟩
  have closed : quoting.closer ∉ inside := fun member =>
    (quotableInside _ member).1 quoting.closer_mem_delimiters
  have oneLine {part : List Char} (all : ∀ c ∈ part, IsQuotable c) : '\n' ∉ part :=
    fun member => (all _ member).2 rfl
  have unquoted : withoutNameQuotes
      (withoutSelectTargets (withStandardMarks (quoting.selectionFrom name))) =
        String.ofList (front ++ inside) := by
    rw [withoutNameQuotes, withoutSelectTargets, String.toList_ofList, marked, whole,
      unquoteFrom_plain_append fun c member =>
        ⟨(opensNothing c member).1.1, (opensNothing c member).2⟩,
      unquoteFrom_quoted quoting.nameCloser?_opener closed (oneLine quotableInside)]
  refine ⟨front, inside, ?_, rewrittenFront, rewrittenInside, quotableAll⟩
  rw [normalize, copied, unquoted, collapseBlankLines_eq_self]
  rw [String.toList_ofList]
  exact oneLine quotableAll

/-- A name without colons and blanks comes into the normal form as it is. -/
theorem normalize_selectionFrom
    (quotable : ∀ c ∈ name.toList, IsQuotable c)
    (noColon : ':' ∉ name.toList)
    (noBlank : ∀ c ∈ name.toList, Text.isBlank c = false) :
    normalize (quoting.selectionFrom name) = Scan.selectionFrom name := by
  obtain ⟨front, inside, normalized, toFront, toInside, -⟩ := exists_rewritten quoting quotable
  obtain rfl := toFront.eq_self (by decide) (.inr (forall_mem_of_all (by decide +kernel)))
  obtain rfl := toInside.eq_self noColon (.inl noBlank)
  rw [normalized, Scan.selectionFrom, String.ofList_append, String.ofList_toList,
    String.ofList_toList]

/-- A bare name comes into the normal form as it is. -/
theorem normalize_selectionFrom_of_isBareName
    (quotable : ∀ c ∈ name.toList, IsQuotable c)
    (isName : Scan.IsBareName name) :
    normalize (quoting.selectionFrom name) = Scan.selectionFrom name := by
  apply normalize_selectionFrom quotable
  · intro colon
    have other := isName.forall_mem ':' colon
    revert other
    decide +kernel
  · intro c member
    rw [Bool.eq_false_iff]
    intro blank
    rcases isName.forall_mem c member with rfl | continues | rfl | rfl
    · exact absurd blank (by decide)
    · rw [Scan.continuesWord_of_isBlank blank] at continues
      cases continues
    · exact absurd blank (by decide)
    · exact absurd blank (by decide)

end Normalize
end SqlLineage
