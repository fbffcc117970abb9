/-!
# Quoted names

The delimiters of quoted names are removed, so that a name looks the same however it is written. An
opening delimiter counts only if its closing one stands on the same line; string literals and line
comments are copied as they are.
-/

namespace SqlLineage

namespace Normalize

/-- Where a character of a text stands. -/
inductive Place
  /-- Outside of everything. -/
  | plain
  /-- Inside a string literal. -/
  | literal
  /-- Inside a line comment. -/
  | comment
  /-- Inside a quoted name that ends with a delimiter. -/
  | name (closer : Char)
deriving DecidableEq, Repr

/-- The delimiter that closes a quoted name, if a character opens one. -/
def nameCloser? : Char → Option Char
  | '\x60' => some '\x60'
  | '[' => some ']'
  | '"' => some '"'
  | _ => none

/-- Whether a character stands on the first line of a text. -/
def onLine (c : Char) (cs : List Char) : Bool :=
  (cs.takeWhile (· != '\n')).contains c

/-- The characters without the delimiters of quoted names, where the first one stands at `place`. -/
def unquoteFrom (place : Place) : List Char → List Char
  | [] => []
  | c :: cs =>
    match place with
    | .literal => c :: unquoteFrom (if c = '\'' then .plain else .literal) cs
    | .comment => c :: unquoteFrom (if c = '\n' then .plain else .comment) cs
    | .name closer =>
      if c = closer then unquoteFrom .plain cs else c :: unquoteFrom (.name closer) cs
    | .plain =>
      if c = '\'' then c :: unquoteFrom .literal cs
      else if c = '-' ∧ cs.head? = some '-' then c :: unquoteFrom .comment cs
      else
        match nameCloser? c with
        | some closer =>
          if onLine closer cs then unquoteFrom (.name closer) cs else c :: unquoteFrom .plain cs
        | none => c :: unquoteFrom .plain cs

/-- The text without the delimiters of quoted names. -/
def withoutNameQuotes (text : String) : String :=
  String.ofList (unquoteFrom .plain text.toList)

end Normalize

end SqlLineage
