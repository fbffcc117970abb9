import SqlLineage.Facts
import SqlLineage.Scan.Lexer

/-!
# Tables found without a grammar

The tables that a statement reads are those behind `FROM` and `JOIN`, and the table that it writes
stands behind its first keyword. Nothing else of the statement is understood, so less is found in a
text that is no SQL, but nothing ever fails.
-/

namespace SqlLineage

namespace Scan

/-- Words that are no tables behind `FROM` and `JOIN`. -/
def reservedWords : List String :=
  ["SELECT", "FROM", "WHERE", "JOIN", "INNER", "LEFT", "RIGHT", "FULL", "OUTER", "CROSS",
    "NATURAL", "ON", "USING", "GROUP", "ORDER", "BY", "HAVING", "LIMIT", "UNION", "EXCEPT",
    "INTERSECT", "MINUS", "WITH", "AS", "SET", "VALUES", "INTO", "AND", "OR", "NOT", "LATERAL",
    "UNNEST", "TABLE", "DUAL", "WINDOW", "QUALIFY", "OFFSET", "FETCH", "FOR", "CASE", "WHEN",
    "THEN", "ELSE", "END"]

/-- Functions whose arguments use `FROM` for something else. -/
def fromArgumentFunctions : List String :=
  ["EXTRACT", "SUBSTRING", "TRIM", "OVERLAY", "POSITION"]

/-- Whether a word is reserved, in any case of letters. -/
def isReserved (word : String) : Bool :=
  reservedWords.any fun reserved => Text.eqIgnoreAsciiCase reserved word

/-- A token, and whether a function whose arguments use `FROM` stands right in front of it. -/
structure Mark where
  /-- The token. -/
  token : Token
  /-- Whether such a function stands in front of it. -/
  behindFunction : Bool

namespace Mark

/-- The token of a mark is of the given kind. -/
def is (mark : Mark) (kind : Kind) : Bool :=
  mark.token.kind == kind

/-- Whether a token is the name of a function whose arguments use `FROM`. -/
def isFunction (token : Token) : Bool :=
  fromArgumentFunctions.any token.isKeyword

/-- The marks of tokens; `behindFunction` is about the first of them. -/
def ofTokens (behindFunction : Bool) : List Token → List Mark
  | [] => []
  | token :: tokens => ⟨token, behindFunction⟩ :: ofTokens (isFunction token) tokens

/-- The mark of the next token is of the given kind. -/
def next (kind : Kind) : List Mark → Bool
  | [] => false
  | mark :: _ => mark.is kind

end Mark

/-- The parts of a name behind its first one, and what is behind the name. -/
def nameParts : List Mark → List String × List Mark
  | [] => ([], [])
  | [mark] => ([], [mark])
  | dot :: part :: marks =>
    if dot.is .dot then
      match part.token.identifier? with
      | some name =>
        let (names, rest) := nameParts marks
        (name :: names, rest)
      | none => ([], dot :: part :: marks)
    else ([], dot :: part :: marks)

/-- A name of one or more parts, and what is behind it. A reserved word is no name unless it is
quoted. -/
def qualifiedName? : List Mark → Option (String × List Mark)
  | [] => none
  | mark :: marks =>
    match mark.token.identifier? with
    | none => none
    | some first =>
      if mark.is .word && isReserved first then none
      else
        let (parts, rest) := nameParts marks
        some (".".intercalate (first :: parts), rest)

/-- What is behind an alias, or the same if there is none. -/
def skipBareAlias : List Mark → List Mark
  | [] => []
  | mark :: marks =>
    if mark.is .quotedIdent || (mark.is .word && !isReserved mark.token.literal) then marks
    else mark :: marks

/-- What is behind an alias with or without `AS`, or the same if there is none. -/
def skipAlias : List Mark → List Mark
  | [] => []
  | mark :: marks =>
    if mark.token.isKeyword "AS" then skipBareAlias marks else skipBareAlias (mark :: marks)

/-- What is behind the parts of a name is not longer. -/
theorem length_nameParts_le (marks : List Mark) :
    (nameParts marks).2.length ≤ marks.length := by
  fun_induction nameParts marks with
  | case1 => simp
  | case2 mark => simp
  | case3 dot part marks isDot name named names rest parts inductionHypothesis =>
      have bound : rest.length ≤ marks.length := by simpa [parts] using inductionHypothesis
      simp only [List.length_cons]
      omega
  | case4 dot part marks isDot noName => simp
  | case5 dot part marks noDot => simp

/-- What is behind a name is shorter. -/
theorem length_qualifiedName?_lt {marks rest : List Mark} {name : String}
    (found : qualifiedName? marks = some (name, rest)) : rest.length < marks.length := by
  cases marks with
  | nil => simp [qualifiedName?] at found
  | cons mark marks =>
    simp only [qualifiedName?] at found
    split at found
    · simp at found
    · split at found
      · simp at found
      · have bound := length_nameParts_le marks
        simp only [Option.some.injEq, Prod.mk.injEq] at found
        rw [← found.2]
        simp
        omega

/-- What is behind an alias is not longer. -/
theorem length_skipBareAlias_le (marks : List Mark) :
    (skipBareAlias marks).length ≤ marks.length := by
  cases marks with
  | nil => simp [skipBareAlias]
  | cons mark marks =>
    simp only [skipBareAlias]
    split <;> simp

/-- What is behind an alias is not longer. -/
theorem length_skipAlias_le (marks : List Mark) : (skipAlias marks).length ≤ marks.length := by
  cases marks with
  | nil => simp [skipAlias]
  | cons mark marks =>
    simp only [skipAlias]
    split
    · have bound := length_skipBareAlias_le marks
      simp
      omega
    · exact length_skipBareAlias_le (mark :: marks)

/-- The tables of a list of tables, and what is behind them. A name with arguments is a table
function, where the list is left; only behind `FROM` can a comma continue it. -/
def listedTables (isFrom : Bool) (found : UniqueList String) (marks : List Mark) :
    UniqueList String × List Mark :=
  match _named : qualifiedName? marks with
  | none => (found, marks)
  | some (name, rest) =>
    if Mark.next .lparen rest then (found, marks)
    else
      match _behind : skipAlias rest with
      | [] => (found.insert name, [])
      | mark :: more =>
        if isFrom && mark.is .comma then listedTables isFrom (found.insert name) more
        else (found.insert name, mark :: more)
termination_by marks.length
decreasing_by
  have shorter := length_qualifiedName?_lt _named
  have bound := length_skipAlias_le rest
  rw [_behind] at bound
  simp at bound
  omega

/-- What is behind a list of tables is not longer. -/
theorem length_listedTables_le (isFrom : Bool) (found : UniqueList String) (marks : List Mark) :
    (listedTables isFrom found marks).2.length ≤ marks.length := by
  fun_induction listedTables isFrom found marks with
  | case1 => simp
  | case2 => simp
  | case3 => simp
  | case4 found marks name rest named _ mark more behind _ ih =>
    have shorter := length_qualifiedName?_lt named
    have bound := length_skipAlias_le rest
    simp only [behind, List.length_cons] at bound
    omega
  | case5 found marks name rest named _ mark more behind =>
    have shorter := length_qualifiedName?_lt named
    have bound := length_skipAlias_le rest
    simp only [behind] at bound
    exact Nat.le_trans bound (Nat.le_of_lt shorter)

/-- The tables behind `FROM` and `JOIN`. For each open parenthesis, `parens` says whether it holds
the arguments of a function that uses `FROM` for something else. -/
def tablesFrom (parens : List Bool) (found : UniqueList String) (marks : List Mark) :
    UniqueList String :=
  match marks with
  | [] => found
  | mark :: marks =>
    match mark.token.kind with
    | .lparen => tablesFrom (mark.behindFunction :: parens) found marks
    | .rparen => tablesFrom parens.tail found marks
    | .word =>
      if parens.head? == some true then tablesFrom parens found marks
      else if mark.token.isKeyword "FROM" || mark.token.isKeyword "JOIN" then
        let listed := listedTables (mark.token.isKeyword "FROM") found marks
        tablesFrom parens listed.1 listed.2
      else tablesFrom parens found marks
    | _ => tablesFrom parens found marks
termination_by marks.length
decreasing_by
  all_goals first
    | (simp; done)
    | (have bound := length_listedTables_le (mark.token.isKeyword "FROM") found marks
       simp only [List.length_cons]
       omega)

/-- The tables that a text reads: those behind `FROM` and `JOIN`, in order. -/
def readTables (text : String) : UniqueList String :=
  tablesFrom [] .empty (Mark.ofTokens false (codeTokens text))

/-- The words that may stand between a first keyword and the table that it writes; nothing if the
keyword writes no table. -/
def wordsBeforeTarget (first : Token) : Option (List String) :=
  if first.isKeyword "INSERT" then
    some ["INTO", "IGNORE", "OVERWRITE", "TABLE", "LOW_PRIORITY", "DELAYED", "HIGH_PRIORITY"]
  else if first.isKeyword "UPDATE" then some ["LOW_PRIORITY", "IGNORE", "ONLY"]
  else if first.isKeyword "REPLACE" || first.isKeyword "UPSERT" || first.isKeyword "MERGE" then
    some ["INTO", "LOW_PRIORITY", "DELAYED"]
  else none

/-- The table that a text writes, which its first keyword decides. -/
def writtenTable? (text : String) : Option String :=
  match codeTokens text with
  | [] => none
  | first :: tokens =>
    match wordsBeforeTarget first with
    | none => none
    | some words =>
      let rest := tokens.dropWhile fun token => words.any token.isKeyword
      (qualifiedName? (Mark.ofTokens false rest)).map Prod.fst

/-- The facts that are found without a grammar; there are never functions among them. -/
def facts (text : String) : Facts :=
  ⟨readTables text, .empty⟩

end Scan

end SqlLineage
