import SqlLineage.Text.Class

/-!
# Blanks around a text

Trimming removes the blanks at the ends of a text and nothing else.
-/

namespace SqlLineage

namespace Text

/-- The characters without the blanks in front. -/
def trimStartList (cs : List Char) : List Char :=
  cs.dropWhile isBlank

/-- The characters without the blanks behind. -/
def trimEndList (cs : List Char) : List Char :=
  (trimStartList cs.reverse).reverse

/-- The text without the blanks behind. -/
def trimEnd (s : String) : String :=
  String.ofList (trimEndList s.toList)

/-- The text without the blanks at its ends. -/
def trim (s : String) : String :=
  String.ofList (trimEndList (trimStartList s.toList))

/-- Whether a text consists of blanks. -/
def allBlank (s : String) : Bool :=
  s.toList.all isBlank

end Text

end SqlLineage
