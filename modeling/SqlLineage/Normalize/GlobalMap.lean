import SqlLineage.Text.Class

/-!
# Values of the global map

`globalMap.get("key")` gives a value that is known only when a job runs. The key stands in for it,
with or without a cast around the call.
-/

namespace SqlLineage

namespace Normalize

/-- The characters without the blanks in front. -/
def skipSpace (cs : List Char) : List Char :=
  cs.dropWhile Text.isBlank

/-- What is behind a character, if a text begins with it. -/
def behindChar? (c : Char) : List Char → Option (List Char)
  | [] => none
  | d :: cs => if d = c then some cs else none

/-- What is behind a fixed text, if a text begins with it. -/
def behindText? : List Char → List Char → Option (List Char)
  | [], cs => some cs
  | c :: expected, cs => (behindChar? c cs).bind (behindText? expected)

/-- Whether a character may stand in the name of a type. -/
def inTypeName (c : Char) : Bool :=
  Text.isWordChar c || c == '.'

/-- What is behind a cast and the blanks around it, if a cast stands here. -/
def behindCast? (cs : List Char) : Option (List Char) := do
  let inner := skipSpace (← behindChar? '(' cs)
  if inner.head?.any inTypeName then
    let behind ← behindChar? ')' (skipSpace (inner.dropWhile inTypeName))
    return skipSpace behind
  none

/-- The key of a lookup and what is behind the lookup, if one stands here. -/
def lookup? (cs : List Char) : Option (List Char × List Char) := do
  let behind ← behindText? "globalMap.get(".toList cs
  let quoted ← behindChar? '"' (skipSpace behind)
  let key := quoted.takeWhile (· != '"')
  let closed ← behindChar? '"' (quoted.drop key.length)
  return (key, ← behindChar? ')' (skipSpace closed))

/-- The key of a lookup with a cast, both between parentheses, and what is behind them. -/
def enclosedLookup? (cs : List Char) : Option (List Char × List Char) := do
  let inner := skipSpace (← behindChar? '(' cs)
  let (key, behind) ← lookup? (← behindCast? inner)
  return (key, ← behindChar? ')' (skipSpace behind))

/-- The key of a lookup with or without a cast, and what is behind it. -/
def castLookup? (cs : List Char) : Option (List Char × List Char) :=
  match (behindCast? cs).bind lookup? with
  | some found => some found
  | none => lookup? cs

/-- The characters with keys in place of what `find` recognises, where at most `fuel` characters are
read. -/
def keysFor (find : List Char → Option (List Char × List Char)) : Nat → List Char → List Char
  | 0, cs => cs
  | fuel + 1, cs =>
    match cs with
    | [] => []
    | c :: rest =>
      match find (c :: rest) with
      | some (key, behind) => '"' :: key ++ '"' :: keysFor find fuel behind
      | none => c :: keysFor find fuel rest

/-- The text with the keys of lookups in place of the lookups. -/
def withGlobalKeys (text : String) : String :=
  let cs := text.toList
  let enclosed := keysFor enclosedLookup? cs.length cs
  String.ofList (keysFor castLookup? enclosed.length enclosed)

end Normalize

end SqlLineage
