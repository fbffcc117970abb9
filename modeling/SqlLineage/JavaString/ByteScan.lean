import SqlLineage.JavaString

/-!
# Scanning the bytes of an expression

The segments of an expression can also be found by a scan of its bytes in UTF-8, which looks for
quotes and backslashes only and cuts the expression at byte offsets. Behind a backslash the scan
passes over a single byte, also where a character stands that takes several. An offset may run past
the end, so that it is cut back to the end before a slice is taken there.
-/

namespace SqlLineage

namespace JavaString

/-- A part of the bytes of an expression, from `start` up to `stop`. -/
inductive Slice
  /-- A string literal with its quotes. -/
  | literal (start stop : Nat)
  /-- What stands outside of string literals. -/
  | code (start stop : Nat)
deriving DecidableEq, Repr

namespace ByteScan

/-- The byte of an apostrophe. -/
def apostrophe : UInt8 := 39

/-- The byte of a double quote. -/
def doubleQuote : UInt8 := 34

/-- The byte of a backslash. -/
def backslash : UInt8 := 92

/-- The bytes of characters. -/
def utf8 (cs : List Char) : List UInt8 :=
  cs.flatMap String.utf8EncodeChar

/-- The offset of the first `quote` from `offset` on that is not the byte behind a backslash; if
there is none, an offset at the end or past it. -/
def closing (bytes : List UInt8) (quote : UInt8) (offset : Nat) : Nat :=
  if _inside : offset < bytes.length then
    if bytes[offset] = quote then offset
    else closing bytes quote (offset + if bytes[offset] = backslash then 2 else 1)
  else offset
termination_by bytes.length - offset
decreasing_by
  split <;> omega

/-- A scan for a quote does not go back. -/
theorem le_closing (bytes : List UInt8) (quote : UInt8) (offset : Nat) :
    offset ≤ closing bytes quote offset := by
  fun_induction closing bytes quote offset with
  | case1 offset inside found => exact Nat.le_refl offset
  | case2 offset inside other inductionHypothesis =>
      exact Nat.le_trans (Nat.le_add_right offset _) inductionHypothesis
  | case3 offset behind => exact Nat.le_refl offset

/-- The bytes between two offsets as code, if there are any. -/
def codeSlice (start stop : Nat) : List Slice :=
  if start < stop then [.code start stop] else []

/-- The slices of an expression from `start` on, where the bytes in front of `offset` were read as
code. -/
def slicesFrom (bytes : List UInt8) (start offset : Nat) : List Slice :=
  if _inside : offset < bytes.length then
    if bytes[offset] = apostrophe then
      slicesFrom bytes start (closing bytes apostrophe (offset + 1) + 1)
    else if bytes[offset] = doubleQuote then
      let stop := min (closing bytes doubleQuote (offset + 1) + 1) bytes.length
      codeSlice start offset ++ .literal offset stop :: slicesFrom bytes stop stop
    else slicesFrom bytes start (offset + 1)
  else codeSlice start bytes.length
termination_by bytes.length - offset
decreasing_by
  · have forward := le_closing bytes apostrophe (offset + 1)
    omega
  · have forward := le_closing bytes doubleQuote (offset + 1)
    omega
  · omega

/-- The slices of an expression. -/
def slices (expression : String) : List Slice :=
  slicesFrom (utf8 expression.toList) 0 0

end ByteScan

end JavaString

end SqlLineage
