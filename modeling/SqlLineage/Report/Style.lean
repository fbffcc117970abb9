/-!
# Styles of terminal text

Styled text stands between a sequence that turns the style on and one that resets it. A reset inside
of the text is followed by the style again.
-/

namespace SqlLineage

namespace Report

/-- The styles of reports. -/
inductive Style
  /-- Bold letters. -/
  | bold
  /-- Green letters. -/
  | green
  /-- Yellow letters. -/
  | yellow
  /-- Cyan letters. -/
  | cyan
  /-- Bright cyan letters. -/
  | brightCyan
  /-- Bold letters with a line below. -/
  | heading
deriving DecidableEq, Repr

namespace Style

/-- The sequence that turns a style on. -/
def sequence : Style → List Char
  | bold => "\x1b[1m".toList
  | green => "\x1b[32m".toList
  | yellow => "\x1b[33m".toList
  | cyan => "\x1b[36m".toList
  | brightCyan => "\x1b[96m".toList
  | heading => "\x1b[1m\x1b[4m".toList

/-- The sequence that resets all styles. -/
def reset : List Char :=
  "\x1b[0m".toList

/-- A text in which the style is turned on again behind each reset. -/
def resume (style : Style) : List Char → List Char
  | [] => []
  | c :: cs =>
    if reset.isPrefixOf (c :: cs) then
      c :: cs.take (reset.length - 1) ++ style.sequence ++
        resume style (cs.drop (reset.length - 1))
    else c :: resume style cs
termination_by cs => cs.length

/-- A text in a style, if styles are wanted. -/
def apply (style : Style) (color : Bool) (text : String) : String :=
  if color then String.ofList (style.sequence ++ resume style text.toList ++ reset) else text

end Style

end Report

end SqlLineage
