import SqlLineage.Text.MachineWord

/-!
# Order of versions

Versions are compared part by part at their dots, and a part that is missing counts as zero. Two
numbers are compared as numbers, and any other two parts as texts.
-/

namespace SqlLineage

namespace Version

/-- The parts of a version between its dots. -/
def partsList : List Char → List (List Char)
  | [] => [[]]
  | c :: cs =>
    if c = '.' then [] :: partsList cs
    else
      match partsList cs with
      | [] => [[c]]
      | part :: others => (c :: part) :: others

/-- The parts of a version between its dots. -/
def parts (version : String) : List String :=
  (partsList version.toList).map String.ofList

/-- The order of two parts. -/
def comparePart (a b : String) : Ordering :=
  match Text.readWord a, Text.readWord b with
  | .ok m, .ok n => compare m n
  | _, _ => compare a b

/-- The order of two lists of parts, of which the shorter one goes on with zeros. -/
def compareParts : List String → List String → Ordering
  | [], [] => .eq
  | [], b :: bs => (comparePart "0" b).then (compareParts [] bs)
  | a :: as, [] => (comparePart a "0").then (compareParts as [])
  | a :: as, b :: bs => (comparePart a b).then (compareParts as bs)

/-- The order of two versions. -/
def order (a b : String) : Ordering :=
  compareParts (parts a) (parts b)

end Version

end SqlLineage
