/-!
# Lengths in bytes

Offsets into a text count the bytes of its UTF-8 form, while its characters are handled as a list.
-/

namespace SqlLineage

namespace Text

/-- How many bytes characters take in UTF-8. -/
def byteLength : List Char → Nat
  | [] => 0
  | c :: cs => c.utf8Size + byteLength cs

/-- The characters behind the first `count` bytes. -/
def dropBytes (count : Nat) : List Char → List Char
  | [] => []
  | c :: cs => if count = 0 then c :: cs else dropBytes (count - c.utf8Size) cs

/-- The characters in the first `count` bytes. -/
def takeBytes (count : Nat) : List Char → List Char
  | [] => []
  | c :: cs => if count = 0 then [] else c :: takeBytes (count - c.utf8Size) cs

/-- The characters between two byte offsets. -/
def byteSlice (start stop : Nat) (cs : List Char) : List Char :=
  takeBytes (stop - start) (dropBytes start cs)

end Text

end SqlLineage
