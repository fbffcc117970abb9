import SqlLineage.Proofs.Collector.Visited
import SqlLineage.Proofs.Normalize.QuotedNames

/-!
# Tables with quoted names

Scanning would understand a quoted name, but the quotes are gone by then. So a table is registered
under its quoted name exactly if the name may do without quotes.
-/

namespace SqlLineage
namespace Reading

variable {quoting : Quoting}
variable {name : String}

/-- A selection from a quoted name that is bare is scanned as one statement that reads the name. -/
theorem ofSql_selectionFrom_of_isBareName
    (grammar : SqlGrammar)
    (quotable : ∀ c ∈ name.toList, IsQuotable c)
    (isName : Scan.IsBareName name) :
    ofSql grammar .patternOnly (quoting.selectionFrom name) = scanned [([name], none)] := by
  unfold ofSql
  rw [Normalize.normalize_selectionFrom_of_isBareName quotable isName]
  exact congrArg scanned isName.codeStatements_selectionFrom

/-- What is read from a selection from a quoted name has a bare name. -/
theorem isBareName_of_mem_reads
    (grammar : SqlGrammar)
    (quotable : ∀ c ∈ name.toList, IsQuotable c)
    {table : String}
    (isRead : table ∈ (ofSql grammar .patternOnly (quoting.selectionFrom name)).reads) :
    Scan.IsBareName table := by
  obtain ⟨front, inside, normalized, -, -, unquoted⟩ :=
    Normalize.exists_rewritten quoting quotable
  rw [reads_ofSql_patternOnly, normalized, List.mem_flatMap] at isRead
  obtain ⟨statement, member, inStatement⟩ := isRead
  refine Scan.isBareName_of_mem_readTables (fun c inChars opens => ?_) inStatement
  have inScript := Scan.mem_script_of_mem_statement member inChars
  rw [String.toList_ofList] at inScript
  refine (unquoted c inScript).1 ?_
  rcases opens with rfl | rfl | rfl <;> decide

/-- **A quoted table is registered under its name exactly if the name needs no quotes.** Its quoted
name is one token whose name is what stands between the quotes, whatever that is. But the quotes are
taken away before the text is scanned, so that the table that is registered is the name exactly if
the name is made of words with dots between them, the first of them not reserved. Such a name is all
that is registered; any other is not registered at all, nor is any table whose name is not of this
kind. A name without colons and blanks is scanned as it stands, whatever quotes it had. -/
theorem quoted_table_registered_iff_bare
    (grammar : SqlGrammar)
    (component : String)
    (quoting : Quoting)
    (name : String)
    (quotable : ∀ c ∈ name.toList, IsQuotable c) :
    let reading := ofSql grammar .patternOnly (quoting.selectionFrom name)
    (∃ token, Scan.tokens (quoting.quote name) = [token] ∧ token.kind = .quotedIdent ∧
      token.identifier? = some name) ∧
    (reading.addTo component .empty = JobLineage.empty.addInput component name ↔
      Scan.IsBareName name) ∧
    (Scan.IsBareName name →
      ∀ lineage, reading.addTo component lineage = lineage.addInput component name) ∧
    (∀ table ∈ (reading.addTo component .empty).inputs.toList, Scan.IsBareName table) ∧
    (':' ∉ name.toList → (∀ c ∈ name.toList, Text.isBlank c = false) →
      Normalize.normalize (quoting.selectionFrom name) = Scan.selectionFrom name) := by
  intro reading
  have bareTables : ∀ table ∈ (reading.addTo component .empty).inputs.toList,
      Scan.IsBareName table := by
    intro table member
    rw [inputs_addTo, UniqueList.mem_extend] at member
    have isRead : table ∈ reading.reads := member.resolve_left List.not_mem_nil
    exact isBareName_of_mem_reads grammar quotable isRead
  have registered (isName : Scan.IsBareName name) (lineage : JobLineage) :
      reading.addTo component lineage = lineage.addInput component name := by
    have read : reading = scanned [([name], none)] :=
      ofSql_selectionFrom_of_isBareName grammar quotable isName
    rw [read]
    rfl
  have bare (exactly : reading.addTo component .empty = JobLineage.empty.addInput component name) :
      Scan.IsBareName name := by
    apply bareTables
    rw [exactly]
    exact List.mem_singleton_self name
  refine ⟨quoting.exists_token quotable, ?_, registered, bareTables, ?_⟩
  · exact ⟨bare, fun isName => registered isName .empty⟩
  · exact Normalize.normalize_selectionFrom quotable

/-- A name of two words may do without its brackets. -/
theorem bracketed_table_registered :
    (∀ c ∈ "sales.orders".toList, IsQuotable c) ∧
      Quoting.brackets.selectionFrom "sales.orders" = "SELECT * FROM [sales.orders]" ∧
      ∀ lineage, (ofSql .generic .patternOnly "SELECT * FROM [sales.orders]").addTo "in" lineage =
        lineage.addInput "in" "sales.orders" := by
  have quotable : ∀ c ∈ "sales.orders".toList, IsQuotable c :=
    Normalize.forall_mem_of_all (by decide)
  have isName : Scan.IsBareName "sales.orders" :=
    ⟨"sales", ["orders"], by decide, by decide +kernel, by decide⟩
  obtain ⟨-, -, registered, -⟩ :=
    quoted_table_registered_iff_bare .generic "in" .brackets "sales.orders" quotable
  exact ⟨quotable, rfl, registered isName⟩

/-- A name of two words with a blank between them is cut short: the second word is taken for an
alias. -/
theorem blank_in_quoted_table_cuts_it_short :
    (¬∀ (quoting : Quoting) (name : String), name ≠ "" → (∀ c ∈ name.toList, IsQuotable c) →
      (ofSql .generic .patternOnly (quoting.selectionFrom name)).addTo snippetName .empty =
        JobLineage.empty.addInput snippetName name) ∧
    (JobLineage.ofSnippet .generic .patternOnly "SELECT * FROM [a b]").inputs.toList = ["a"] := by
  have short : (JobLineage.ofSnippet .generic .patternOnly "SELECT * FROM [a b]").inputs.toList =
      ["a"] := by
    decide +kernel
  refine ⟨fun always => ?_, short⟩
  have exactly := always .brackets "a b" (by decide)
    (Normalize.forall_mem_of_all (by decide))
  have inputs := congrArg (fun lineage => lineage.inputs.toList) exactly
  have differs : ["a"] = ["a b"] := short.symm.trans inputs
  revert differs
  decide

end Reading
end SqlLineage
