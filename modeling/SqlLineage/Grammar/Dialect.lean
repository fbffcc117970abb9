import SqlLineage.Text.Class
import SqlLineage.Text.Case

/-!
# SQL dialects

A dialect decides which characters begin and continue an identifier, which quotes delimit one, how
tightly operators bind, and which clauses are understood. Each decision is one function of the
dialect; a reader that wants to know what a dialect understands looks the clause up here.
-/

namespace SqlLineage

namespace Grammar

/-- The dialects of SQL that can be parsed. -/
inductive Dialect
  | generic
  | ansi
  | bigquery
  | clickhouse
  | databricks
  | duckdb
  | hive
  | mssql
  | mysql
  | postgresql
  | redshift
  | snowflake
  | sqlite
deriving DecidableEq, Repr

/-- How tightly an operator binds its operands. -/
inductive Binding
  | doubleColon
  | timeZone
  | product
  | sum
  | xor
  | ampersand
  | caret
  | pipe
  | between
  | equality
  | like
  | is
  | other
  | not
  | and
  | or
deriving DecidableEq, Repr

namespace Dialect

/-- The dialect called `name`, in any case of letters. -/
def ofName? (name : String) : Option Dialect :=
  match Text.lower name with
  | "generic" => some generic
  | "mysql" => some mysql
  | "postgresql" => some postgresql
  | "postgres" => some postgresql
  | "hive" => some hive
  | "sqlite" => some sqlite
  | "snowflake" => some snowflake
  | "redshift" => some redshift
  | "mssql" => some mssql
  | "clickhouse" => some clickhouse
  | "bigquery" => some bigquery
  | "ansi" => some ansi
  | "duckdb" => some duckdb
  | "databricks" => some databricks
  | _ => none

/-! ## Identifiers -/

/-- Whether `c` opens a quoted identifier. -/
def opensQuoted (dialect : Dialect) (c : Char) : Bool :=
  match dialect with
  | postgresql => c == '"'
  | mysql | bigquery | databricks => c == '`'
  | mssql => c == '"' || c == '['
  | sqlite => c == '`' || c == '"' || c == '['
  | _ => c == '"' || c == '`'

/-- Whether `c` may begin a bare identifier. -/
def beginsWord (dialect : Dialect) (c : Char) : Bool :=
  match dialect with
  | generic | mssql => Text.isAlphabetic c || c == '_' || c == '#' || c == '@'
  | ansi => Text.isAsciiLetter c
  | bigquery | clickhouse | databricks | snowflake => Text.isAsciiLetter c || c == '_'
  | duckdb | postgresql => Text.isAlphabetic c || c == '_'
  | hive => Text.isAsciiLetter c || Text.isAsciiDigit c || c == '$'
  | mysql =>
    Text.isAlphabetic c || c == '_' || c == '$' || c == '@' || ('\u0080' ≤ c && c ≤ '\uffff')
  | redshift => Text.isAlphabetic c || c == '_' || c == '#'
  | sqlite => Text.isAsciiLetter c || c == '_' || ('\u007f' ≤ c && c ≤ '\uffff')

/-- Whether `c` may continue a bare identifier. -/
def continuesWord (dialect : Dialect) (c : Char) : Bool :=
  match dialect with
  | generic | mssql =>
    Text.isAlphabetic c || Text.isAsciiDigit c || c == '@' || c == '$' || c == '#' || c == '_'
  | ansi => Text.isAsciiLetter c || Text.isAsciiDigit c || c == '_'
  | snowflake => Text.isAsciiLetter c || Text.isAsciiDigit c || c == '$' || c == '_'
  | duckdb | postgresql => Text.isAlphabetic c || Text.isAsciiDigit c || c == '$' || c == '_'
  | hive =>
    Text.isAsciiLetter c || Text.isAsciiDigit c || c == '_' || c == '$' || c == '\x7b' ||
      c == '\x7d'
  | redshift =>
    Text.isAlphabetic c || Text.isAsciiDigit c || c == '$' || c == '_' || c == '#'
  | bigquery | clickhouse | databricks | mysql | sqlite =>
    dialect.beginsWord c || Text.isAsciiDigit c

/-- Whether `c` may continue an operator that users define. -/
def continuesOperator (dialect : Dialect) (c : Char) : Bool :=
  dialect == postgresql && "+-*/<>=~!@#%^&|`?".toList.contains c

/-! ## Literals and comments -/

/-- Whether a word may begin with a digit. -/
def wordsBeginWithDigits (dialect : Dialect) : Bool :=
  dialect == mysql || dialect == hive

/-- Whether a backslash escapes a character of a string. -/
def backslashEscapes (dialect : Dialect) : Bool :=
  match dialect with
  | bigquery | clickhouse | mysql | snowflake => true
  | _ => false

/-- Whether an escaped wildcard keeps its backslash. -/
def keepsEscapedWildcards (dialect : Dialect) : Bool :=
  dialect == mysql

/-- Whether strings may stand between triple quotes. -/
def hasTripleQuotes (dialect : Dialect) : Bool :=
  dialect == bigquery

/-- Whether `E'...'` is a value. -/
def hasEscapeStrings (dialect : Dialect) : Bool :=
  dialect == generic || dialect == postgresql

/-- Whether `U&'...'` is a string with code points. -/
def hasUnicodeStrings (dialect : Dialect) : Bool :=
  dialect == generic || dialect == postgresql

/-- Whether block comments nest. -/
def nestsComments (dialect : Dialect) : Bool :=
  dialect == generic || dialect == postgresql

/-- Whether `#` begins a comment that ends with the line. -/
def hasHashComments (dialect : Dialect) : Bool :=
  match dialect with
  | snowflake | bigquery | mysql | hive => true
  | _ => false

/-- Whether `$name` may hold further dollar signs instead of fencing a text. -/
def hasDollarPlaceholders (dialect : Dialect) : Bool :=
  dialect == sqlite

/-- Whether `TRUE` and `FALSE` are literals. -/
def hasBooleans (dialect : Dialect) : Bool :=
  dialect != mssql

/-- Whether a unit must follow the value of an interval. -/
def intervalsNeedUnits (dialect : Dialect) : Bool :=
  match dialect with
  | ansi | bigquery | clickhouse | databricks | hive | mysql => true
  | _ => false

/-- Whether a brace opens a dictionary literal. -/
def hasDictionaries (dialect : Dialect) : Bool :=
  match dialect with
  | generic | clickhouse | duckdb | snowflake => true
  | _ => false

/-- Whether `MAP` before a brace opens a map literal. -/
def hasMaps (dialect : Dialect) : Bool :=
  dialect == generic || dialect == duckdb

/-- Whether `STRUCT` builds a value. -/
def hasStructs (dialect : Dialect) : Bool :=
  match dialect with
  | generic | bigquery | databricks => true
  | _ => false

/-! ## Expressions -/

/-- Whether a keyword is never an identifier, even where its special meaning fails. -/
def reservesWord (dialect : Dialect) (keyword : String) : Bool :=
  match keyword with
  | "EXISTS" | "STRUCT" | "TRIM" => true
  | "INTERVAL" => dialect != postgresql && dialect != snowflake
  | _ => false

/-- The strength of a binding; a larger number binds more tightly. -/
def strength (dialect : Dialect) (binding : Binding) : Nat :=
  if dialect == postgresql then
    match binding with
    | .doubleColon => 140
    | .timeZone => 110
    | .caret => 100
    | .product => 90
    | .sum => 80
    | .xor => 75
    | .ampersand => 70
    | .pipe => 70
    | .other => 70
    | .between => 60
    | .like => 60
    | .equality => 50
    | .is => 40
    | .not => 30
    | .and => 20
    | .or => 10
  else
    match binding with
    | .doubleColon => 50
    | .timeZone => 41
    | .product => 40
    | .sum => 30
    | .xor => 24
    | .ampersand => 23
    | .caret => 22
    | .pipe => 21
    | .between => 20
    | .equality => 20
    | .like => 19
    | .is => 17
    | .other => 16
    | .not => 15
    | .and => 10
    | .or => 5

/-- Whether arguments may be named with `=>`. -/
def namesArgumentsByArrow (dialect : Dialect) : Bool :=
  dialect != mssql

/-- Whether arguments may be named with `:=`. -/
def namesArgumentsByAssign (dialect : Dialect) : Bool :=
  dialect == generic || dialect == duckdb

/-- Whether arguments may be named with `=`. -/
def namesArgumentsByEq (dialect : Dialect) : Bool :=
  dialect == duckdb

/-- Whether arguments may be named with a colon. -/
def namesArgumentsByColon (dialect : Dialect) : Bool :=
  dialect == mssql || dialect == postgresql

/-- Whether the name of an argument may be any expression. -/
def namesArgumentsByExpression (dialect : Dialect) : Bool :=
  dialect == mssql

/-- Whether `FILTER (WHERE ...)` may follow an aggregate. -/
def filtersAggregates (dialect : Dialect) : Bool :=
  match dialect with
  | postgresql | sqlite | hive | duckdb | databricks => true
  | _ => false

/-- Whether `IGNORE NULLS` may stand among the arguments. -/
def treatsNullsInArguments (dialect : Dialect) : Bool :=
  match dialect with
  | generic | bigquery | snowflake => true
  | _ => false

/-- Whether `x -> body` is a function. -/
def hasLambdas (dialect : Dialect) : Bool :=
  dialect == databricks

/-- Whether `!` negates. -/
def bangNegates (dialect : Dialect) : Bool :=
  dialect == hive

/-- Whether `!` after a number is the factorial. -/
def hasFactorial (dialect : Dialect) : Bool :=
  dialect == postgresql

/-- Whether brackets walk into semi-structured values. -/
def hasPaths (dialect : Dialect) : Bool :=
  dialect == redshift || dialect == snowflake

/-- Whether brackets take elements and slices of arrays. -/
def hasSubscripts (dialect : Dialect) : Bool :=
  match dialect with
  | generic | bigquery | clickhouse | duckdb | postgresql => true
  | _ => false

/-- Whether `(+)` marks the outer side of a join. -/
def marksOuterJoins (dialect : Dialect) : Bool :=
  dialect == mssql || dialect == snowflake

/-- Whether `IN ()` is allowed. -/
def allowsEmptyIn (dialect : Dialect) : Bool :=
  dialect == sqlite

/-- Whether `CONVERT` takes the type before the value. -/
def convertsTypeFirst (dialect : Dialect) : Bool :=
  dialect == mssql || dialect == redshift

/-- Whether `TRY_CONVERT` is understood. -/
def triesConversions (dialect : Dialect) : Bool :=
  dialect == generic || dialect == mssql

/-- Whether `EXTRACT` takes fields of any name. -/
def extractsAnyField (dialect : Dialect) : Bool :=
  match dialect with
  | generic | postgresql | snowflake => true
  | _ => false

/-! ## Queries -/

/-- Whether a comma may end any list. -/
def allowsTrailingCommas (dialect : Dialect) : Bool :=
  dialect == duckdb

/-- Whether a comma may end the projection. -/
def allowsTrailingProjectionComma (dialect : Dialect) : Bool :=
  match dialect with
  | bigquery | duckdb | snowflake => true
  | _ => false

/-- Whether a comma may end the list of tables. -/
def allowsTrailingFromComma (dialect : Dialect) : Bool :=
  dialect == snowflake

/-- Whether the projection may be empty. -/
def allowsEmptyProjection (dialect : Dialect) : Bool :=
  dialect == generic || dialect == postgresql

/-- Whether `alias = expression` names a column. -/
def aliasesByEq (dialect : Dialect) : Bool :=
  dialect == mssql

/-- Whether `* EXCEPT (...)` leaves columns out. -/
def wildcardExcept (dialect : Dialect) : Bool :=
  match dialect with
  | generic | bigquery | clickhouse | databricks => true
  | _ => false

/-- Whether `TOP` may stand before `DISTINCT`. -/
def topBeforeDistinct (dialect : Dialect) : Bool :=
  dialect == redshift

/-- Whether `LIMIT a, b` gives offset and limit. -/
def limitsWithComma (dialect : Dialect) : Bool :=
  match dialect with
  | generic | mysql | sqlite | clickhouse => true
  | _ => false

/-- Whether `GROUP BY` knows grouping sets, cubes and rollups. -/
def groupsByExpression (dialect : Dialect) : Bool :=
  match dialect with
  | generic | databricks | duckdb | postgresql => true
  | _ => false

/-- Whether modifiers may follow the grouping. -/
def groupsWithModifier (dialect : Dialect) : Bool :=
  dialect == generic || dialect == clickhouse

/-- Whether hierarchies are queried with `CONNECT BY`. -/
def connectsBy (dialect : Dialect) : Bool :=
  match dialect with
  | generic | mssql | redshift | snowflake => true
  | _ => false

/-- Whether rows are matched with `MATCH_RECOGNIZE`. -/
def matchesRows (dialect : Dialect) : Bool :=
  dialect == generic || dialect == snowflake

/-- Whether a window may be defined as another window's name. -/
def namesWindowsByName (dialect : Dialect) : Bool :=
  dialect == generic || dialect == bigquery

/-- Whether old versions of a table can be read. -/
def readsVersions (dialect : Dialect) : Bool :=
  match dialect with
  | bigquery | mssql | snowflake => true
  | _ => false

/-- Whether a sample stands before the alias of a table. -/
def samplesBeforeAlias (dialect : Dialect) : Bool :=
  dialect == hive

/-! ## Statements -/

/-- Whether `INSERT INTO FUNCTION` writes to a table function. -/
def insertsIntoFunctions (dialect : Dialect) : Bool :=
  dialect == clickhouse

/-- Whether `INSERT ... SET` assigns columns. -/
def insertsBySet (dialect : Dialect) : Bool :=
  dialect == mysql

/-- Whether a format may follow an insertion. -/
def insertsFormats (dialect : Dialect) : Bool :=
  dialect == clickhouse

/-- Whether a query may follow `CREATE TABLE` without `AS`. -/
def createsFromSelect (dialect : Dialect) : Bool :=
  dialect == mysql

/-- Whether options may follow `CREATE INDEX`. -/
def indexesWithOptions (dialect : Dialect) : Bool :=
  dialect == generic || dialect == postgresql

/-- Whether columns are defined with `ASC` or `DESC`. -/
def ordersColumnDefinitions (dialect : Dialect) : Bool :=
  dialect == generic || dialect == sqlite

/-- Whether `COMMENT ON` is a statement. -/
def commentsOn (dialect : Dialect) : Bool :=
  match dialect with
  | generic | postgresql | snowflake => true
  | _ => false

/-- Whether `DESCRIBE` needs the word `TABLE`. -/
def describesWithTable (dialect : Dialect) : Bool :=
  dialect == clickhouse || dialect == snowflake

/-- Whether `EXPLAIN` takes options in parentheses. -/
def explainsWithOptions (dialect : Dialect) : Bool :=
  match dialect with
  | generic | duckdb | postgresql => true
  | _ => false

/-- Whether `LISTEN` and `NOTIFY` are statements. -/
def notifies (dialect : Dialect) : Bool :=
  dialect == postgresql

/-- Whether `LOAD name` loads an extension. -/
def loadsExtensions (dialect : Dialect) : Bool :=
  match dialect with
  | generic | duckdb | postgresql => true
  | _ => false

/-- Whether `LOAD DATA` loads a file. -/
def loadsData (dialect : Dialect) : Bool :=
  dialect == hive

/-- Whether a transaction begins with a modifier. -/
def modifiesTransactions (dialect : Dialect) : Bool :=
  match dialect with
  | generic | mssql | sqlite => true
  | _ => false

/-- Whether `END` takes a modifier. -/
def endsBlocks (dialect : Dialect) : Bool :=
  dialect == mssql

/-- Whether variables are set between parentheses. -/
def setsTuples (dialect : Dialect) : Bool :=
  match dialect with
  | generic | bigquery | snowflake => true
  | _ => false

/-- Whether `SET` works without an operator. -/
def setsWithoutOperator (dialect : Dialect) : Bool :=
  dialect == mssql

/-- Whether `SHOW ... LIKE` comes before `IN`. -/
def showsLikeFirst (dialect : Dialect) : Bool :=
  dialect == snowflake

/-- Whether a grantee may name a host. -/
def grantsToHosts (dialect : Dialect) : Bool :=
  dialect == generic || dialect == mysql

end Dialect

end Grammar

end SqlLineage
