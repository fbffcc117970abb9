import SqlLineage.Grammar.Token

/-!
# Reading characters with their positions

A reader is the text that is left and the position of its first character. Every operation moves
the position over exactly the characters it takes.
-/

namespace SqlLineage

namespace Grammar

/-- The rest of a text and where it begins. -/
structure Reader where
  /-- The characters that are left. -/
  rest : List Char
  /-- The position of the first of them. -/
  position : Position

namespace Reader

/-- The beginning of a text. -/
def ofList (cs : List Char) : Reader :=
  ⟨cs, ⟨1, 1⟩⟩

/-- The position behind a character that stands at `position`. -/
def step (c : Char) (position : Position) : Position :=
  if c = '\n' then ⟨position.line + 1, 1⟩ else ⟨position.line, position.column + 1⟩

/-- The next character. -/
def peek? (reader : Reader) : Option Char :=
  reader.rest.head?

/-- Whether the next character is `c`. -/
def sees (reader : Reader) (c : Char) : Bool :=
  reader.peek? == some c

/-- The reader behind the next character. -/
def skip (reader : Reader) : Reader :=
  match reader.rest with
  | [] => reader
  | c :: cs => ⟨cs, step c reader.position⟩

/-- The next character and the reader behind it. -/
def next? (reader : Reader) : Option (Char × Reader) :=
  match reader.rest with
  | [] => none
  | c :: cs => some (c, ⟨cs, step c reader.position⟩)

/-- The longest run of characters that satisfy `p`, where `taken` was taken before, reversed. -/
def spanFrom (p : Char → Bool) (taken : List Char) (position : Position) :
    List Char → List Char × Reader
  | [] => (taken.reverse, ⟨[], position⟩)
  | c :: cs =>
    if p c then spanFrom p (c :: taken) (step c position) cs
    else (taken.reverse, ⟨c :: cs, position⟩)

/-- The longest run of characters that satisfy `p`, and the reader behind it. -/
def span (reader : Reader) (p : Char → Bool) : String × Reader :=
  let (taken, reader) := spanFrom p [] reader.position reader.rest
  (String.ofList taken, reader)

end Reader

end Grammar

end SqlLineage
