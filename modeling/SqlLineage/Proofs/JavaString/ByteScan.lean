import SqlLineage.JavaString.ByteScan
import SqlLineage.Proofs.JavaString.Segments
import SqlLineage.Proofs.Text.Bytes

/-!
# Bytes and characters of an expression

Quotes and backslashes are single bytes, and all bytes of a character that takes several are larger.
So a scan of bytes that passes over the first byte of a character behind a backslash passes over the
others too, and cuts an expression between characters only, into the segments that its characters
give.
-/

namespace SqlLineage
namespace JavaString
namespace ByteScan

/-! ## The bytes of characters -/

theorem utf8EncodeChar_of_ascii
    {c : Char}
    (ascii : c.toNat < 128) :
    String.utf8EncodeChar c = [UInt8.ofNat c.toNat] := by
  rw [String.utf8EncodeChar]
  exact if_pos (Nat.le_of_lt_succ ascii)

/-- The bytes of a character that takes several are those that no ASCII character has. -/
theorem le_toNat_of_mem_utf8EncodeChar
    {c : Char}
    (wide : 128 ≤ c.toNat)
    {byte : UInt8}
    (member : byte ∈ String.utf8EncodeChar c) :
    128 ≤ byte.toNat := by
  have notSingle : ¬ c.val.toNat ≤ 127 := Nat.not_le.2 wide
  rw [String.utf8EncodeChar] at member
  simp only [if_neg notSingle] at member
  split at member
  · simp only [List.mem_cons, List.not_mem_nil, or_false] at member
    rcases member with rfl | rfl <;> simp <;> omega
  · split at member
    · simp only [List.mem_cons, List.not_mem_nil, or_false] at member
      rcases member with rfl | rfl | rfl <;> simp <;> omega
    · simp only [List.mem_cons, List.not_mem_nil, or_false] at member
      rcases member with rfl | rfl | rfl | rfl <;> simp <;> omega

/-- Behind its first byte a character has no byte of an ASCII character. -/
theorem exists_utf8EncodeChar_eq_cons (c : Char) :
    ∃ first more, String.utf8EncodeChar c = first :: more ∧ ∀ byte ∈ more, 128 ≤ byte.toNat := by
  by_cases ascii : c.toNat < 128
  · exact ⟨_, [], utf8EncodeChar_of_ascii ascii, by simp⟩
  · have large : ∀ byte ∈ String.utf8EncodeChar c, 128 ≤ byte.toNat := fun _ member =>
      le_toNat_of_mem_utf8EncodeChar (Nat.not_lt.1 ascii) member
    have length := String.length_utf8EncodeChar c
    have positive := c.utf8Size_pos
    cases bytes : String.utf8EncodeChar c with
    | nil =>
        rw [bytes, List.length_nil] at length
        omega
    | cons first more =>
        refine ⟨first, more, rfl, fun byte member => large byte ?_⟩
        rw [bytes]
        exact List.mem_cons_of_mem _ member

/-- The byte of an ASCII character is no byte of another character. -/
theorem ne_of_mem_utf8EncodeChar
    {c d : Char}
    (ascii : d.toNat < 128)
    (different : c ≠ d)
    {byte : UInt8}
    (member : byte ∈ String.utf8EncodeChar c) :
    byte ≠ UInt8.ofNat d.toNat := by
  rintro rfl
  by_cases single : c.toNat < 128
  · rw [utf8EncodeChar_of_ascii single, List.mem_singleton, ← UInt8.toNat_inj] at member
    simp only [UInt8.toNat_ofNat', Nat.reducePow] at member
    rw [Nat.mod_eq_of_lt (by omega), Nat.mod_eq_of_lt (by omega)] at member
    exact different (Char.toNat_inj.1 member.symm)
  · have large := le_toNat_of_mem_utf8EncodeChar (Nat.not_lt.1 single) member
    simp only [UInt8.toNat_ofNat', Nat.reducePow] at large
    omega

@[simp] theorem utf8_nil : utf8 [] = [] := rfl

@[simp] theorem utf8_cons (c : Char) (cs : List Char) :
    utf8 (c :: cs) = String.utf8EncodeChar c ++ utf8 cs := rfl

@[simp] theorem utf8_append (front back : List Char) :
    utf8 (front ++ back) = utf8 front ++ utf8 back :=
  List.flatMap_append

@[simp] theorem length_utf8 (cs : List Char) : (utf8 cs).length = Text.byteLength cs := by
  induction cs with
  | nil => rfl
  | cons c cs inductionHypothesis => simp [inductionHypothesis]

/-- At an offset of the bytes, which is then one between characters, the characters `cs` are left. -/
def Left (bytes : List UInt8) (offset : Nat) (cs : List Char) : Prop :=
  ∃ read, bytes = utf8 (read ++ cs) ∧ offset = Text.byteLength read

namespace Left

variable {bytes : List UInt8} {offset : Nat} {cs : List Char}

theorem drop_eq
    (left : Left bytes offset cs) :
    bytes.drop offset = utf8 cs := by
  obtain ⟨read, rfl, rfl⟩ := left
  rw [utf8_append, ← length_utf8, List.drop_left]

theorem length_eq
    (left : Left bytes offset cs) :
    bytes.length = offset + Text.byteLength cs := by
  obtain ⟨read, rfl, rfl⟩ := left
  rw [length_utf8, Text.byteLength_append]

/-- Behind the next characters the others are left. -/
theorem append
    {next rest : List Char}
    (left : Left bytes offset (next ++ rest)) :
    Left bytes (offset + Text.byteLength next) rest := by
  obtain ⟨read, rfl, rfl⟩ := left
  exact ⟨read ++ next, by rw [List.append_assoc], by rw [Text.byteLength_append]⟩

end Left

/-! ## The end of a quoted text -/

section

variable {bytes middle rest : List UInt8} {quote : UInt8} {offset : Nat}

theorem closing_of_drop_nil
    (drop : bytes.drop offset = []) :
    closing bytes quote offset = offset := by
  rw [closing, dif_neg (Nat.not_lt.2 (List.drop_eq_nil_iff.1 drop))]

theorem closing_of_drop_cons
    {byte : UInt8}
    (drop : bytes.drop offset = byte :: rest) :
    closing bytes quote offset =
      if byte = quote then offset
      else closing bytes quote (offset + if byte = backslash then 2 else 1) := by
  have inside : offset < bytes.length := by
    rw [← Nat.not_le, ← List.drop_eq_nil_iff, drop]
    simp
  rw [List.drop_eq_getElem_cons inside, List.cons.injEq] at drop
  rw [closing, dif_pos inside, drop.1]

/-- A scan for a quote passes over bytes that are neither that quote nor a backslash. -/
theorem closing_of_drop_append
    (passed : ∀ byte ∈ middle, byte ≠ quote ∧ byte ≠ backslash)
    (drop : bytes.drop offset = middle ++ rest) :
    closing bytes quote offset = closing bytes quote (offset + middle.length) := by
  induction middle generalizing offset with
  | nil => rfl
  | cons byte middle inductionHypothesis =>
      obtain ⟨⟨notQuote, notBackslash⟩, passedTail⟩ := List.forall_mem_cons.1 passed
      have next : bytes.drop (offset + 1) = middle ++ rest := by
        rw [← List.drop_drop, drop]
        rfl
      rw [closing_of_drop_cons drop, if_neg notQuote, if_neg notBackslash,
        inductionHypothesis passedTail next, List.length_cons, Nat.add_assoc, Nat.add_comm 1]

end

section

variable {quote : Char} {bytes : List UInt8} {offset : Nat} {cs : List Char}

/-- A scan for a quote ends where that quote stands. -/
theorem closing_of_left_quote
    (ascii : quote.toNat < 128)
    (left : Left bytes offset (quote :: cs)) :
    closing bytes (UInt8.ofNat quote.toNat) offset = offset := by
  have drop := left.drop_eq
  rw [utf8_cons, utf8EncodeChar_of_ascii ascii, List.singleton_append] at drop
  rw [closing_of_drop_cons drop, if_pos rfl]

/-- A scan for a quote passes over a character that is neither that quote nor a backslash. -/
theorem closing_of_left_cons
    {c : Char}
    (ascii : quote.toNat < 128)
    (notQuote : c ≠ quote)
    (notBackslash : c ≠ '\\')
    (left : Left bytes offset (c :: cs)) :
    closing bytes (UInt8.ofNat quote.toNat) offset =
      closing bytes (UInt8.ofNat quote.toNat) (offset + Text.byteLength [c]) := by
  have passed : ∀ byte ∈ String.utf8EncodeChar c,
      byte ≠ UInt8.ofNat quote.toNat ∧ byte ≠ backslash := fun byte member =>
    ⟨ne_of_mem_utf8EncodeChar ascii notQuote member,
      ne_of_mem_utf8EncodeChar (by decide) notBackslash member⟩
  rw [closing_of_drop_append passed left.drop_eq, String.length_utf8EncodeChar]
  rfl

theorem backslash_ne
    (ascii : quote.toNat < 128)
    (notBackslash : quote ≠ '\\') :
    backslash ≠ UInt8.ofNat quote.toNat :=
  ne_of_mem_utf8EncodeChar (c := '\\') ascii notBackslash.symm (by decide)

/-- A scan for a quote passes over a backslash and the whole character behind it. -/
theorem closing_of_left_backslash
    {d : Char}
    (ascii : quote.toNat < 128)
    (notBackslash : quote ≠ '\\')
    (left : Left bytes offset ('\\' :: d :: cs)) :
    closing bytes (UInt8.ofNat quote.toNat) offset =
      closing bytes (UInt8.ofNat quote.toNat) (offset + Text.byteLength ['\\', d]) := by
  obtain ⟨first, more, encoded, large⟩ := exists_utf8EncodeChar_eq_cons d
  have size : d.utf8Size = more.length + 1 := by
    rw [← String.length_utf8EncodeChar, encoded, List.length_cons]
  have drop : bytes.drop offset = backslash :: first :: (more ++ utf8 cs) := by
    rw [left.drop_eq, utf8_cons, utf8_cons, encoded]
    rfl
  -- The scan goes on inside of the character if that has more bytes.
  have inside : bytes.drop (offset + 2) = more ++ utf8 cs := by
    rw [← List.drop_drop, drop]
    rfl
  have passed : ∀ byte ∈ more, byte ≠ UInt8.ofNat quote.toNat ∧ byte ≠ backslash := by
    intro byte member
    have bound := large byte member
    constructor
    · rintro rfl
      rw [UInt8.toNat_ofNat'] at bound
      omega
    · rintro rfl
      exact absurd bound (by decide)
  have length : Text.byteLength ['\\', d] = 2 + more.length := by
    rw [Text.byteLength_cons, Text.byteLength_cons, size]
    change 1 + (more.length + 1 + 0) = _
    omega
  rw [closing_of_drop_cons drop, if_neg (backslash_ne ascii notBackslash), if_pos rfl,
    closing_of_drop_append passed inside, length, Nat.add_assoc]

/-- A scan for a quote ends with the quoted text that the characters give, or past the end if that
text does not end. -/
theorem min_closing
    (ascii : quote.toNat < 128)
    (notBackslash : quote ≠ '\\')
    (left : Left bytes offset cs) :
    min (closing bytes (UInt8.ofNat quote.toNat) offset + 1) bytes.length =
      offset + Text.byteLength (quotedRest quote cs).1 := by
  have quoteSize : quote.utf8Size = 1 := by
    rw [← String.length_utf8EncodeChar, utf8EncodeChar_of_ascii ascii, List.length_singleton]
  have length := left.length_eq
  fun_induction quotedRest quote cs generalizing offset with
  | case1 =>
      rw [closing_of_drop_nil left.drop_eq, length]
      simp
  | case2 c =>
      by_cases quoted : c = quote
      · subst quoted
        rw [closing_of_left_quote ascii left, length]
        simp [quoteSize]
      · -- Behind this character, and behind the byte that a backslash would skip, the scan is over.
        have size := c.utf8Size_pos
        have ends (distance : Nat) (far : Text.byteLength [c] ≤ distance) :
            closing bytes (UInt8.ofNat quote.toNat) (offset + distance) = offset + distance := by
          apply closing_of_drop_nil
          rw [List.drop_eq_nil_iff, length]
          exact Nat.add_le_add_left far offset
        by_cases escapes : c = '\\'
        · subst escapes
          have drop : bytes.drop offset = [backslash] := left.drop_eq
          rw [closing_of_drop_cons drop, if_neg (backslash_ne ascii notBackslash),
            if_pos rfl, ends 2 (by decide), length]
          exact Nat.min_eq_right (Nat.add_le_add_left (by decide : 1 ≤ 3) offset)
        · rw [closing_of_left_cons ascii quoted escapes left, ends _ (Nat.le_refl _), length]
          exact Nat.min_eq_right (Nat.le_succ _)
  | case3 d cs =>
      rw [closing_of_left_quote ascii left, length]
      simp only [Text.byteLength_cons, Text.byteLength_nil, quoteSize]
      omega
  | case4 d cs taken rest read notQuote inductionHypothesis =>
      have behind : Left bytes (offset + Text.byteLength ['\\', d]) cs := left.append
      rw [closing_of_left_backslash ascii notBackslash left,
        inductionHypothesis behind behind.length_eq, read, Nat.add_assoc,
        ← Text.byteLength_append]
      rfl
  | case5 c d cs notQuote single taken rest read inductionHypothesis =>
      have behind : Left bytes (offset + Text.byteLength [c]) (d :: cs) := left.append
      rw [closing_of_left_cons ascii notQuote single left,
        inductionHypothesis behind behind.length_eq, read, Nat.add_assoc,
        ← Text.byteLength_append]
      rfl

end

/-! ## Slices -/

section

variable {bytes middle rest : List UInt8} {start offset : Nat}

theorem slicesFrom_of_le
    (behind : bytes.length ≤ offset) :
    slicesFrom bytes start offset = codeSlice start bytes.length := by
  rw [slicesFrom, dif_neg (Nat.not_lt.2 behind)]

/-- Past the end a scan finds what it finds at the end. -/
theorem slicesFrom_min (bytes : List UInt8) (start offset : Nat) :
    slicesFrom bytes start (min offset bytes.length) = slicesFrom bytes start offset := by
  rcases Nat.le_total offset bytes.length with within | behind
  · rw [Nat.min_eq_left within]
  · rw [Nat.min_eq_right behind, slicesFrom_of_le behind, slicesFrom_of_le (Nat.le_refl _)]

theorem slicesFrom_of_drop_cons
    {byte : UInt8}
    (drop : bytes.drop offset = byte :: rest) :
    slicesFrom bytes start offset =
      if byte = apostrophe then
        slicesFrom bytes start (closing bytes apostrophe (offset + 1) + 1)
      else if byte = doubleQuote then
        codeSlice start offset ++
          .literal offset (min (closing bytes doubleQuote (offset + 1) + 1) bytes.length) ::
            slicesFrom bytes (min (closing bytes doubleQuote (offset + 1) + 1) bytes.length)
              (min (closing bytes doubleQuote (offset + 1) + 1) bytes.length)
      else slicesFrom bytes start (offset + 1) := by
  have inside : offset < bytes.length := by
    rw [← Nat.not_le, ← List.drop_eq_nil_iff, drop]
    simp
  rw [List.drop_eq_getElem_cons inside, List.cons.injEq] at drop
  rw [slicesFrom, dif_pos inside, drop.1]

/-- A scan passes over bytes that are no quotes. -/
theorem slicesFrom_of_drop_append
    (passed : ∀ byte ∈ middle, byte ≠ apostrophe ∧ byte ≠ doubleQuote)
    (drop : bytes.drop offset = middle ++ rest) :
    slicesFrom bytes start offset = slicesFrom bytes start (offset + middle.length) := by
  induction middle generalizing offset with
  | nil => rfl
  | cons byte middle inductionHypothesis =>
      obtain ⟨⟨notApostrophe, notQuote⟩, passedTail⟩ := List.forall_mem_cons.1 passed
      have next : bytes.drop (offset + 1) = middle ++ rest := by
        rw [← List.drop_drop, drop]
        rfl
      rw [slicesFrom_of_drop_cons drop, if_neg notApostrophe, if_neg notQuote,
        inductionHypothesis passedTail next, List.length_cons, Nat.add_assoc, Nat.add_comm 1]

end

section

variable {bytes : List UInt8} {start offset : Nat} {cs : List Char}

/-- A scan passes over a character that is no quote. -/
theorem slicesFrom_of_left_cons
    {c : Char}
    (notApostrophe : c ≠ '\'')
    (notQuote : c ≠ '"')
    (left : Left bytes offset (c :: cs)) :
    slicesFrom bytes start offset =
      slicesFrom bytes start (offset + Text.byteLength [c]) := by
  have passed : ∀ byte ∈ String.utf8EncodeChar c, byte ≠ apostrophe ∧ byte ≠ doubleQuote :=
    fun byte member => ⟨ne_of_mem_utf8EncodeChar (d := '\'') (by decide) notApostrophe member,
      ne_of_mem_utf8EncodeChar (d := '"') (by decide) notQuote member⟩
  rw [slicesFrom_of_drop_append passed left.drop_eq, String.length_utf8EncodeChar]
  rfl

/-- A scan passes over a character literal. -/
theorem slicesFrom_of_left_apostrophe
    (left : Left bytes offset ('\'' :: cs)) :
    slicesFrom bytes start offset =
      slicesFrom bytes start
        (offset + Text.byteLength ('\'' :: (quotedRest '\'' cs).1)) := by
  have drop : bytes.drop offset = apostrophe :: utf8 cs := left.drop_eq
  have behind : Left bytes (offset + Text.byteLength ['\'']) cs := left.append
  have ends : min (closing bytes apostrophe (offset + 1) + 1) bytes.length =
      offset + 1 + Text.byteLength (quotedRest '\'' cs).1 := by
    have taken : min (closing bytes (UInt8.ofNat '\''.toNat) (offset + 1) + 1) bytes.length = _ :=
      min_closing (by decide) (by decide) behind
    exact taken
  rw [slicesFrom_of_drop_cons drop, if_pos rfl, ← slicesFrom_min, ends, Nat.add_assoc]
  rfl

/-- A scan takes a string literal as a slice, and what stands in front of it as code. -/
theorem slicesFrom_of_left_quote
    (left : Left bytes offset ('"' :: cs)) :
    slicesFrom bytes start offset =
      codeSlice start offset ++
        .literal offset (offset + Text.byteLength ('"' :: (quotedRest '"' cs).1)) ::
          slicesFrom bytes (offset + Text.byteLength ('"' :: (quotedRest '"' cs).1))
            (offset + Text.byteLength ('"' :: (quotedRest '"' cs).1)) := by
  have drop : bytes.drop offset = doubleQuote :: utf8 cs := left.drop_eq
  have behind : Left bytes (offset + Text.byteLength ['"']) cs := left.append
  have ends : min (closing bytes doubleQuote (offset + 1) + 1) bytes.length =
      offset + Text.byteLength ('"' :: (quotedRest '"' cs).1) := by
    have taken : min (closing bytes (UInt8.ofNat '"'.toNat) (offset + 1) + 1) bytes.length = _ :=
      min_closing (by decide) (by decide) behind
    rw [Nat.add_assoc] at taken
    exact taken
  rw [slicesFrom_of_drop_cons drop, if_neg (by decide), if_pos rfl, ends]

end

end ByteScan

/-! ## Slices and segments -/

/-- The offsets `start` and `stop` are in the bounds of an expression, in order and between
characters, and `text` stands between them. -/
def StandsBetween (expression : List Char) (start stop : Nat) (text : String) : Prop :=
  ∃ front back, expression = front ++ (text.toList ++ back) ∧ start = Text.byteLength front ∧
    stop = Text.byteLength front + Text.byteLength text.toList

/-- A slice of an expression is a segment. -/
def Slice.CutsOut (expression : List Char) : Slice → Segment → Prop
  | .literal start stop, .literal text => StandsBetween expression start stop text
  | .code start stop, .code text => StandsBetween expression start stop text
  | .literal _ _, .code _ => False
  | .code _ _, .literal _ => False

namespace ByteScan

theorem forall₂_codeSlice
    {expression front code back : List Char}
    (whole : expression = front ++ (code.reverse ++ back)) :
    List.Forall₂ (Slice.CutsOut expression)
      (codeSlice (Text.byteLength front) (Text.byteLength (front ++ code.reverse)))
      (codeSegment code) := by
  cases code with
  | nil => simp [codeSlice, codeSegment]
  | cons c code =>
      have positive := c.utf8Size_pos
      have nonempty : Text.byteLength front < Text.byteLength (front ++ (c :: code).reverse) := by
        simp only [List.reverse_cons, Text.byteLength_append, Text.byteLength_cons]
        omega
      rw [codeSlice, if_pos nonempty, codeSegment, if_neg (by simp)]
      refine .cons ⟨front, back, ?_, rfl, ?_⟩ .nil
      · rw [String.toList_ofList, whole]
      · rw [String.toList_ofList, Text.byteLength_append]

theorem left_of_whole
    {expression front code cs : List Char}
    (whole : expression = front ++ (code.reverse ++ cs)) :
    Left (utf8 expression) (Text.byteLength (front ++ code.reverse)) cs :=
  ⟨front ++ code.reverse, by rw [whole, List.append_assoc], rfl⟩

/-- A scan of bytes cuts out the segments that the characters give. -/
theorem forall₂_slicesFrom (expression code cs : List Char) :
    ∀ front, expression = front ++ (code.reverse ++ cs) →
      List.Forall₂ (Slice.CutsOut expression)
        (slicesFrom (utf8 expression) (Text.byteLength front)
          (Text.byteLength (front ++ code.reverse)))
        (segmentsFrom code cs) := by
  fun_induction segmentsFrom code cs with
  | case1 code =>
      intro front whole
      have length := (left_of_whole whole).length_eq
      rw [Text.byteLength_nil, Nat.add_zero] at length
      rw [slicesFrom_of_le (Nat.le_of_eq length), length]
      exact forall₂_codeSlice whole
  | case2 code cs split inductionHypothesis =>
      intro front whole
      have wholeBehind :
          expression = front ++ ((split.1.reverse ++ '\'' :: code).reverse ++ split.2) := by
        simp [whole, split, quotedRest_append]
      have read : Text.byteLength (front ++ (split.1.reverse ++ '\'' :: code).reverse) =
          Text.byteLength (front ++ code.reverse) + Text.byteLength ('\'' :: split.1) := by
        rw [← Text.byteLength_append]
        simp
      rw [slicesFrom_of_left_apostrophe (left_of_whole whole), ← read]
      exact inductionHypothesis front wholeBehind
  | case3 code cs split _ inductionHypothesis =>
      intro front whole
      have wholeBehind :
          expression = (front ++ code.reverse ++ '"' :: split.1) ++ ([].reverse ++ split.2) := by
        simp [whole, split, quotedRest_append]
      have behind := inductionHypothesis _ wholeBehind
      rw [List.reverse_nil, List.append_nil, Text.byteLength_append _ ('"' :: split.1)] at behind
      rw [slicesFrom_of_left_quote (left_of_whole whole)]
      refine List.rel_append (forall₂_codeSlice whole) (.cons ?_ behind)
      refine ⟨front ++ code.reverse, split.2, ?_, rfl, ?_⟩
      · simp [whole, split, quotedRest_append]
      · rw [String.toList_ofList]
  | case4 code c cs notApostrophe notQuote inductionHypothesis =>
      intro front whole
      have wholeBehind : expression = front ++ ((c :: code).reverse ++ cs) := by
        simp [whole]
      have read : Text.byteLength (front ++ (c :: code).reverse) =
          Text.byteLength (front ++ code.reverse) + Text.byteLength [c] := by
        rw [← Text.byteLength_append]
        simp
      rw [slicesFrom_of_left_cons notApostrophe notQuote (left_of_whole whole), ← read]
      exact inductionHypothesis front wholeBehind

/-- **Segments split an expression without loss, between characters only.** A scan of the bytes of
an expression, which passes over one byte behind a backslash, takes slices that are in bounds, in
order and between characters, and they are the segments that the scan of its characters gives, which
passes over the whole character behind a backslash. The segments are not empty, put together they
are the expression, and code reaches from one string literal to the next. A string literal begins
with a quote and ends at its first quote that is not escaped; if it has none it is the last segment,
so that it reaches to the end. -/
theorem slices_cut_out_segments (expression : String) :
    List.Forall₂ (Slice.CutsOut expression.toList) (slices expression) (segments expression) ∧
      (segments expression).flatMap (·.text.toList) = expression.toList ∧
      (∀ segment ∈ segments expression, segment.text ≠ "") ∧
      (segments expression).IsChain Segment.Separate ∧
      ∀ text after, .literal text :: after <:+ segments expression →
        IsClosedLiteral text ∨ after = [] ∧ IsOpenLiteral text := by
  refine ⟨?_, ?_, ?_, ?_, ?_⟩
  · exact forall₂_slicesFrom expression.toList [] expression.toList [] rfl
  · exact flatMap_text_segmentsFrom [] expression.toList
  · exact fun _ => text_ne_empty_of_mem_segmentsFrom
  · exact isChain_segmentsFrom [] expression.toList
  · exact fun _ _ => literal_of_suffix_segmentsFrom

example :
    slices "\"\\é\"+'\"'" = [.literal 0 5, .code 5 9] ∧
      segments "\"\\é\"+'\"'" = [.literal "\"\\é\"", .code "+'\"'"] := by
  decide +kernel

end ByteScan
end JavaString
end SqlLineage
