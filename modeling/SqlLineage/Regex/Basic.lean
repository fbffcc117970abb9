import SqlLineage.Regex.CharSet

/-!
# Regular expressions

A regular expression is read as a relation between places of a text: from a place it leads to all
places where a match that starts there may end. How greedy a repetition is does not matter to that,
so the tree does not say it.

Nothing is said about how a match is found, only where it may end.
-/

namespace SqlLineage

namespace Regex

/-- A condition on the characters around a place. -/
inductive Look
  /-- The text starts here. -/
  | textStart
  /-- The text ends here. -/
  | textEnd
  /-- A line starts here; a carriage return ends a line if `crlf` is set. -/
  | lineStart (crlf : Bool)
  /-- A line ends here; a carriage return ends a line if `crlf` is set. -/
  | lineEnd (crlf : Bool)
  /-- A word starts or ends here. -/
  | wordEdge (ascii : Bool)
  /-- No word starts or ends here. -/
  | noWordEdge (ascii : Bool)
  /-- A word starts here. -/
  | wordStart (ascii : Bool)
  /-- A word ends here. -/
  | wordEnd (ascii : Bool)
  /-- No character of a word comes before. -/
  | noWordBefore (ascii : Bool)
  /-- No character of a word comes next. -/
  | noWordBehind (ascii : Bool)
deriving DecidableEq, Repr

namespace Look

/-- Whether a character belongs to words. -/
def inWord (ascii : Bool) (c : Option Char) : Bool :=
  match c with
  | some c => if ascii then CharSet.asciiWord.contains c else Text.isWordChar c
  | none => false

/-- Whether the condition holds between two characters, of which each may be missing. -/
def holds (look : Look) (before next : Option Char) : Bool :=
  match look with
  | textStart => before.isNone
  | textEnd => next.isNone
  | lineStart crlf =>
    before.isNone || before == some '\n' || (crlf && before == some '\r' && next != some '\n')
  | lineEnd crlf =>
    next.isNone || (next == some '\n' && !(crlf && before == some '\r')) ||
      (crlf && next == some '\r')
  | wordEdge ascii => inWord ascii before != inWord ascii next
  | noWordEdge ascii => inWord ascii before == inWord ascii next
  | wordStart ascii => !inWord ascii before && inWord ascii next
  | wordEnd ascii => inWord ascii before && !inWord ascii next
  | noWordBefore ascii => !inWord ascii before
  | noWordBehind ascii => !inWord ascii next

end Look

end Regex

/-- A regular expression. -/
inductive Regex
  /-- The empty text. -/
  | empty
  /-- One character. -/
  | one (set : Regex.CharSet)
  /-- A condition on a place. -/
  | look (condition : Regex.Look)
  /-- One expression behind another. -/
  | seq (first second : Regex)
  /-- One expression or another. -/
  | alt (first second : Regex)
  /-- An expression some number of times. -/
  | repeated (body : Regex) (least : Nat) (most : Option Nat)

namespace Regex

/-- The places of two lists. -/
def merge (places others : List Nat) : List Nat :=
  others.foldl (fun places place => if places.contains place then places else places ++ [place])
    places

/-- What `count` steps lead to. -/
def stepsOf (step : List Nat → List Nat) : Nat → List Nat → List Nat
  | 0, places => places
  | count + 1, places => stepsOf step count (step places)

/-- What at most `count` steps lead to. -/
def stepsUpTo (step : List Nat → List Nat) : Nat → List Nat → List Nat
  | 0, places => places
  | count + 1, places => stepsUpTo step count (merge places (step places))

/-- The character in front of a place. -/
def charBefore (text : Array Char) (place : Nat) : Option Char :=
  if place = 0 then none else text[place - 1]?

/-- Where matches that start at one of `places` may end. A step never leads back, so repeating it
more often than there are places leads nowhere else. -/
def ends (text : Array Char) : Regex → List Nat → List Nat
  | empty, places => places
  | one set, places =>
    places.filterMap fun place =>
      match text[place]? with
      | some c => if set.contains c then some (place + 1) else none
      | none => none
  | look condition, places =>
    places.filter fun place => condition.holds (charBefore text place) text[place]?
  | seq first second, places => ends text second (ends text first places)
  | alt first second, places => merge (ends text first places) (ends text second places)
  | repeated body least most, places =>
    let enough := text.size + 2
    let further := match most with
      | some most => min (most - least) enough
      | none => enough
    stepsUpTo (ends text body) further (stepsOf (ends text body) (min least enough) places)

/-- Whether a match occurs anywhere in a text. -/
def occursIn (regex : Regex) (text : String) : Bool :=
  let cs := text.toList.toArray
  !(ends cs regex (List.range (cs.size + 1))).isEmpty

end Regex

end SqlLineage
