import SqlLineage.Grammar
import SqlLineage.Proofs.Scan.Tokens
import SqlLineage.Scan.Tables

/-!
# Quoted names as tokens

A name may stand between delimiters. A closing delimiter that belongs to the name is doubled, so
that it does not end the name: every name has a quoted form, which is one token. Reading the token
takes away the delimiters around it but leaves the doubled ones as they are, so a name is read back
exactly if it has no closing delimiter.
-/

namespace SqlLineage

/-- The ways to quote a name. -/
inductive Quoting
  | backticks
  | brackets
  | doubleQuotes
deriving DecidableEq

namespace Quoting

/-- The opening delimiter. -/
def opener : Quoting → Char
  | backticks => '\x60'
  | brackets => '['
  | doubleQuotes => '"'

/-- The closing delimiter. -/
def closer : Quoting → Char
  | backticks => '\x60'
  | brackets => ']'
  | doubleQuotes => '"'

/-- A name between its delimiters. -/
def quote (quoting : Quoting) (name : String) : String :=
  String.ofList (quoting.opener :: (name.toList ++ [quoting.closer]))

end Quoting

namespace Scan

/-! ## Doubled delimiters -/

/-- Characters with every `closer` written twice. -/
def doubled (closer : Char) (cs : List Char) : List Char :=
  cs.flatMap fun c => if c = closer then [c, c] else [c]

theorem doubled_cons_self (closer : Char) (cs : List Char) :
    doubled closer (closer :: cs) = closer :: closer :: doubled closer cs := by
  simp [doubled]

theorem doubled_cons_of_ne
    {closer c : Char}
    (differs : c ≠ closer)
    (cs : List Char) :
    doubled closer (c :: cs) = c :: doubled closer cs := by
  simp [doubled, differs]

theorem length_doubled (closer : Char) (cs : List Char) :
    (doubled closer cs).length = cs.length + cs.count closer := by
  induction cs with
  | nil => rfl
  | cons c cs inductionHypothesis =>
      by_cases same : c = closer
      · subst same
        rw [doubled_cons_self, List.length_cons, List.length_cons, inductionHypothesis,
          List.length_cons, List.count_cons_self]
        omega
      · rw [doubled_cons_of_ne same, List.length_cons, inductionHypothesis, List.length_cons,
          List.count_cons_of_ne same]
        omega

/-- Doubling changes what has a closing delimiter, and nothing else. -/
theorem doubled_eq_self_iff {closer : Char} {cs : List Char} :
    doubled closer cs = cs ↔ closer ∉ cs := by
  constructor
  · intro same
    have length := length_doubled closer cs
    rw [same] at length
    rw [← List.count_eq_zero]
    omega
  · intro absent
    induction cs with
    | nil => rfl
    | cons c cs inductionHypothesis =>
        obtain ⟨differs, absent⟩ : closer ≠ c ∧ closer ∉ cs := by simpa using absent
        rw [doubled_cons_of_ne differs.symm, inductionHypothesis absent]

theorem delimitedLength_closer_closer (closer : Char) (cs : List Char) :
    delimitedLength closer (closer :: closer :: cs) = delimitedLength closer cs + 2 := by
  simp [delimitedLength]

theorem delimitedLength_cons_of_ne
    {closer c : Char}
    (differs : c ≠ closer)
    (cs : List Char) :
    delimitedLength closer (c :: cs) = delimitedLength closer cs + 1 := by
  cases cs <;> simp [delimitedLength, differs]

/-- A doubled delimiter ends nothing, so the scan goes on to the delimiter behind the name. -/
theorem delimitedLength_doubled (closer : Char) (cs : List Char) :
    delimitedLength closer (doubled closer cs ++ [closer]) = (doubled closer cs).length + 1 := by
  induction cs with
  | nil => rfl
  | cons c cs inductionHypothesis =>
      by_cases same : c = closer
      · subst same
        rw [doubled_cons_self, List.cons_append, List.cons_append, delimitedLength_closer_closer,
          inductionHypothesis]
        rfl
      · rw [doubled_cons_of_ne same, List.cons_append, delimitedLength_cons_of_ne same,
          inductionHypothesis]
        rfl

end Scan

/-! ## Quoted names -/

namespace Quoting

/-- The form in which a name may be quoted: its closing delimiters are doubled. -/
def double (quoting : Quoting) (name : String) : String :=
  String.ofList (Scan.doubled quoting.closer name.toList)

theorem double_eq_self_iff {quoting : Quoting} {name : String} :
    quoting.double name = name ↔ quoting.closer ∉ name.toList := by
  rw [← Scan.doubled_eq_self_iff, ← String.toList_inj, double, String.toList_ofList]

theorem closer_opener (quoting : Quoting) :
    Scan.Token.closer quoting.opener = quoting.closer := by
  cases quoting <;> rfl

theorem measure_opener (quoting : Quoting) (cs : List Char) :
    Scan.measure quoting.opener cs =
      (.quotedIdent, Scan.delimitedLength quoting.closer cs) := by
  cases quoting <;> rfl

/-- A quoted name whose closing delimiters are doubled is one token. -/
theorem tokens_quote_double (quoting : Quoting) (name : String) :
    Scan.tokens (quoting.quote (quoting.double name)) =
      [⟨.quotedIdent, quoting.quote (quoting.double name), 0⟩] := by
  have visible : Text.isBlank quoting.opener = false := by
    cases quoting <;> decide
  have measured : Scan.measure quoting.opener ((quoting.double name).toList ++ [quoting.closer]) =
      (.quotedIdent, ((quoting.double name).toList ++ [quoting.closer]).length) := by
    rw [measure_opener, double, String.toList_ofList, Scan.delimitedLength_doubled,
      List.length_append, List.length_singleton]
  have ends : (Scan.measure quoting.opener
      (((quoting.double name).toList ++ [quoting.closer]) ++ [])).2 =
        ((quoting.double name).toList ++ [quoting.closer]).length := by
    rw [List.append_nil, measured]
  have read := Scan.tokensFrom_cons_append visible ends 0
  rw [List.append_nil, measured, Scan.tokensFrom_nil] at read
  rw [Scan.tokens, quote, String.toList_ofList, read]

/-- What is read from a quoted name is what stands between its delimiters. -/
theorem identifier?_quote (quoting : Quoting) (name : String) (offset : Nat) :
    (Scan.Token.mk .quotedIdent (quoting.quote name) offset).identifier? = some name := by
  simp [Scan.Token.identifier?, quote, Scan.Token.unquoted, closer_opener]

/-- **A quoted name is read back exactly if it has no closing delimiter.** Every name has a quoted
form that is one token. What is read from the token is the name with its closing delimiters doubled,
as they stand in the text. -/
theorem quoted_name_read_back_iff (quoting : Quoting) (name : String) :
    let quoted := quoting.quote (quoting.double name)
    Scan.tokens quoted = [⟨.quotedIdent, quoted, 0⟩] ∧
      (Scan.Token.mk .quotedIdent quoted 0).identifier? = some (quoting.double name) ∧
      ((Scan.Token.mk .quotedIdent quoted 0).identifier? = some name ↔
        quoting.closer ∉ name.toList) := by
  intro quoted
  have read := quoting.identifier?_quote (quoting.double name) 0
  refine ⟨quoting.tokens_quote_double name, read, ?_⟩
  rw [read, Option.some_inj, double_eq_self_iff]

/-- A bracket in a name between brackets is read twice. A grammar reads it once, so that the same
table has two names. -/
theorem closing_bracket_read_twice :
    (¬∀ (quoting : Quoting) (name : String), ∃ token,
      Scan.tokens (quoting.quote (quoting.double name)) = [token] ∧
        token.kind = .quotedIdent ∧ token.identifier? = some name) ∧
      brackets.quote (brackets.double "a]b") = "[a]]b]" ∧
      (Scan.tokens "[a]]b]").map Scan.Token.identifier? = [some "a]]b"] ∧
      (Scan.readTables "SELECT * FROM [a]]b]").toList = ["a]]b"] ∧
      ((SqlGrammar.mk .mssql "mssql" 50).facts "SELECT * FROM [a]]b]").toOption.map
        (·.tables.toList) = some ["a]b"] := by
  have twice : (Scan.tokens "[a]]b]").map Scan.Token.identifier? = [some "a]]b"] := by
    decide +kernel
  refine ⟨fun always => ?_, by decide +kernel, twice, by decide +kernel, by decide +kernel⟩
  obtain ⟨token, alone, -, once⟩ := always brackets "a]b"
  have quoted : brackets.quote (brackets.double "a]b") = "[a]]b]" := by decide +kernel
  rw [quoted] at alone
  rw [alone, List.map_singleton, once] at twice
  revert twice
  decide

end Quoting
end SqlLineage
