import SqlLineage.Binary64
import SqlLineage.Text.Quoted
import SqlLineage.Yaml.Event

/-!
# Reading values from documents

A value is read from the events of a document as the type that its place asks for. A plain scalar has
a type of its own, by its spelling, but it is also a text, and where a text is asked for its spelling
is taken. An empty plain scalar is also an empty mapping or sequence. The first value that is not what
is asked for is the error, even if the text fails behind it.
-/

namespace SqlLineage

namespace Yaml

/-- Where a value is in a document. -/
inductive Route
  /-- It is the whole document. -/
  | root
  /-- It is an element of a sequence. -/
  | element (sequence : Route) (index : Nat)
  /-- It is the value of a key of a mapping. -/
  | entry (mapping : Route) (key : String)
  /-- It is the value of a key that is no scalar. -/
  | unnamed (mapping : Route)
deriving DecidableEq, Repr

namespace Route

/-- The route as users see it, empty for the root. -/
def render : Route → String
  | root => ""
  | element root index => s!".[{index}]"
  | element sequence index => sequence.render ++ s!"[{index}]"
  | entry root key => key
  | entry mapping key => mapping.render ++ "." ++ key
  | unnamed root => "?"
  | unnamed mapping => mapping.render ++ ".?"

end Route

/-- What a scalar is by its spelling. -/
inductive ScalarValue
  /-- Nothing. -/
  | null
  /-- A truth value. -/
  | bool (value : Bool)
  /-- A whole number, with the name of the type that is needed to hold it if it is large. -/
  | int (value : Int) (type : String)
  /-- A number that is not whole. -/
  | float (numeral : String)
  /-- A text. -/
  | text (value : String)
deriving DecidableEq, Repr

namespace ScalarValue

/-- A value as an error names it. -/
def describe : ScalarValue → String
  | null => "unit value"
  | bool value => "boolean \x60" ++ toString value ++ "\x60"
  | int value type => "integer \x60" ++ toString value ++ "\x60" ++ type
  | float numeral => "floating point \x60" ++ numeral ++ "\x60"
  | text value => "string " ++ Text.quoted value

/-- The truth value that a text spells. -/
def bool? : String → Option Bool
  | "true" | "True" | "TRUE" => some true
  | "false" | "False" | "FALSE" => some false
  | _ => none

/-- Whether a text spells that there is no value. -/
def isNull (text : String) : Bool :=
  ["null", "Null", "NULL", "~"].contains text

/-- The value of a digit in a base. -/
def digit? (base : Nat) (c : Char) : Option Nat :=
  let value :=
    if '0' ≤ c ∧ c ≤ '9' then c.toNat - '0'.toNat
    else if 'a' ≤ c ∧ c ≤ 'z' then c.toNat - 'a'.toNat + 10
    else if 'A' ≤ c ∧ c ≤ 'Z' then c.toNat - 'A'.toNat + 10
    else base
  if value < base then some value else none

/-- The number with digits in a base. -/
def number? (base : Nat) (digits : List Char) : Option Nat :=
  if digits.isEmpty then none
  else digits.foldlM (fun n c => (digit? base c).map (n * base + ·)) 0

/-- Whether a text is digits behind a zero, which is no number. -/
def isPadded (cs : List Char) : Bool :=
  let digits := match cs with
    | '-' :: cs => cs
    | '+' :: cs => cs
    | cs => cs
  1 < digits.length && digits.head? == some '0' && digits.all Text.isAsciiDigit

/-- The number that digits with or without the mark of a base spell; `negative` tells whether a
minus comes before. -/
def magnitude? (negative : Bool) (cs : List Char) : Option Nat :=
  match cs with
  | '0' :: 'x' :: digits => number? 16 digits
  | '0' :: 'o' :: digits => number? 8 digits
  | '0' :: 'b' :: digits => number? 2 digits
  | digits => if isPadded (if negative then '-' :: digits else digits) then none else number? 10 digits

/-- The whole number that a text spells. -/
def int? (text : String) : Option Int :=
  match text.toList with
  | '+' :: cs => (magnitude? false cs).map Int.ofNat
  | '-' :: cs => (magnitude? true cs).map fun n => -(n : Int)
  | cs => (magnitude? false cs).map Int.ofNat

/-- The number that is not whole, or too large to be held as a whole one, that a text spells. -/
def float? (text : String) : Option String :=
  let unsigned := match text.toList with
    | '+' :: cs => cs
    | cs => cs
  let negative := text.toList.head? == some '-'
  if [".inf", ".Inf", ".INF"].contains (String.ofList unsigned) then some "inf"
  else if ["-.inf", "-.Inf", "-.INF"].contains text then some "-inf"
  else if [".nan", ".NaN", ".NAN"].contains text then some "NaN"
  else if isPadded text.toList then none
  else
    (Binary64.ofNumeral? (if negative then unsigned.tail else unsigned)).map fun number =>
      (if negative then "-" else "") ++ number.render

/-- A whole number with the type that holds it, if one of 128 binary digits does. -/
def sized? (value : Int) : Option ScalarValue :=
  if -Int.pow 2 63 ≤ value ∧ value < Int.pow 2 64 then some (int value "")
  else if 0 ≤ value ∧ value < Int.pow 2 128 then some (int value " as u128")
  else if value < 0 ∧ -Int.pow 2 127 ≤ value then some (int value " as i128")
  else none

/-- What a plain scalar is. -/
def ofPlain (value : String) : ScalarValue :=
  if value.isEmpty || isNull value then null
  else
    match bool? value with
    | some b => bool b
    | none =>
      match (int? value).bind sized? with
      | some number => number
      | none =>
        match float? value with
        | some number => float number
        | none => text value

end ScalarValue

/-- The state of reading values. -/
structure Position where
  /-- The events that have not been read. -/
  rest : List (Event × Mark)
  /-- How many aliases have been followed. -/
  jumps : Nat

/-- A reader of values from a document. -/
abbrev Decoder := ReaderT Document (StateT Position (Except Error))

namespace Decoder

/-- The next event with its place. -/
def peek : Decoder (Event × Mark) := do
  match (← get).rest with
  | event :: _ => return event
  | [] => throw ((← read).failure.getD .endOfDocument)

/-- Goes past the next event. -/
def next : Decoder (Event × Mark) := do
  let event ← peek
  modify fun position => { position with rest := position.rest.tail }
  return event

/-- Fails because of the value on a route that starts at a place. -/
def fail {α : Type} (route : Route) (mark : Mark) (reason : String) : Decoder α :=
  throw (.content reason route.render mark)

/-- What an event is by its tag or spelling, or what is wrong with it. -/
def classify (value : String) (style : Style) (tag : Option String) :
    Except String ScalarValue :=
  let wrong (expected : String) : Except String ScalarValue :=
    .error ("invalid value: string " ++ Text.quoted value ++ ", expected " ++ expected)
  match tag with
  | some "tag:yaml.org,2002:bool" =>
    match ScalarValue.bool? value with
    | some b => .ok (.bool b)
    | none => wrong "a boolean"
  | some "tag:yaml.org,2002:int" =>
    match (ScalarValue.int? value).bind ScalarValue.sized? with
    | some number => .ok number
    | none => wrong "an integer"
  | some "tag:yaml.org,2002:float" =>
    match ScalarValue.float? value with
    | some number => .ok (.float number)
    | none => wrong "a float"
  | some "tag:yaml.org,2002:null" =>
    if ScalarValue.isNull value then .ok .null else wrong "null"
  | some tag =>
    if tag.toList.head? == some '!' && style == .plain then .ok (.ofPlain value)
    else .ok (.text value)
  | none => .ok (if style = .plain then .ofPlain value else .text value)

/-- Fails because an event is not what is expected. -/
def mismatch {α : Type} (route : Route) (event : Event) (mark : Mark) (expected : String) :
    Decoder α :=
  let wrong (found : String) : Decoder α :=
    fail route mark ("invalid type: " ++ found ++ ", expected " ++ expected)
  match event with
  | .scalar value style tag =>
    match classify value style tag with
    | .ok value => wrong value.describe
    | .error reason => fail route mark reason
  | .sequenceStart => wrong "sequence"
  | .mappingStart => wrong "map"
  | _ => throw .endOfDocument

/-- Reads a value at the anchor with a number, and goes on behind the alias. -/
def follow {α : Type} (anchor : Nat) (reader : Decoder α) : Decoder α := do
  let document ← read
  let position ← get
  if document.events.length * 100 < position.jumps + 1 then throw .repetitionLimit
  let target := (document.targets.lookup anchor).getD document.events.length
  set (⟨document.events.drop target, position.jumps + 1⟩ : Position)
  let value ← reader
  modify fun inside => { inside with rest := position.rest }
  return value

/-- Reads a value from the event that is next, or from the one that an alias stands for. -/
def resolving {α : Type} (reader : Event → Mark → Decoder α) : Decoder α := do
  let (event, mark) ← next
  match event with
  | .alias anchor =>
    follow anchor do
      let (event, mark) ← next
      reader event mark
  | _ => reader event mark

/-- A text. -/
def string (expected : String) (route : Route) : Decoder String :=
  resolving fun event mark =>
    match event with
    | .scalar value _ _ => return value
    | _ => mismatch route event mark expected

/-- Whether a scalar may be read by its spelling, being plain or a literal block with a tag. -/
def isSpelled (expected : String) (style : Style) (tag : Option String) : Bool :=
  style == .plain || (style == .literal && tag == some expected)

/-- A truth value. -/
def boolean (route : Route) : Decoder Bool :=
  resolving fun event mark => do
    if let .scalar value style tag := event then
      if isSpelled "tag:yaml.org,2002:bool" style tag then
        if let some b := ScalarValue.bool? value then return b
    mismatch route event mark "a boolean"

/-- A whole number that fits a machine word. -/
def word (expected : String) (route : Route) : Decoder Nat :=
  resolving fun event mark => do
    if let .scalar value style tag := event then
      if isSpelled "tag:yaml.org,2002:int" style tag && value.toList.head? != some '-' then
        if let some n := ScalarValue.int? value then
          if n < Int.pow 2 64 then return n.toNat
    mismatch route event mark expected

/-- Goes past the rest of a value whose open collections have a depth. -/
def skipRest : Nat → Nat → Decoder Unit
  | _, 0 => throw .endOfDocument
  | depth, fuel + 1 => do
    let (event, _) ← next
    let depth := match event with
      | .sequenceStart => depth + 1
      | .mappingStart => depth + 1
      | .sequenceEnd => depth - 1
      | .mappingEnd => depth - 1
      | _ => depth
    if depth = 0 then return
    skipRest depth fuel

/-- Goes past a value. -/
def skipValue : Decoder Unit := do
  skipRest 0 ((← get).rest.length + 1)

/-- Whether an event is an empty collection by itself. -/
def isVacant : Event → Bool
  | .void => true
  | .scalar "" .plain _ => true
  | _ => false

/-- The elements of a sequence up to its end, of which `index` come before. -/
def elements {α : Type} (route : Route) (element : Route → Decoder α) (index : Nat) :
    Nat → Decoder (List α)
  | 0 => throw .endOfDocument
  | fuel + 1 => do
    let (event, _) ← peek
    if event = .sequenceEnd then
      let _ ← next
      return []
    let value ← element (.element route index)
    return value :: (← elements route element (index + 1) fuel)

/-- A sequence. -/
def sequence {α : Type} (element : Route → Decoder α) (route : Route) : Decoder (List α) :=
  resolving fun event mark => do
    if event = .sequenceStart then elements route element 0 ((← get).rest.length + 1)
    else if isVacant event then return []
    else mismatch route event mark "a sequence"

/-- What the entries of a mapping up to its end make of a value. -/
def entries {β : Type} (route : Route) (mark : Mark)
    (entry : Mark → β → String → Route → Decoder β) (value : β) : Nat → Decoder β
  | 0 => throw .endOfDocument
  | fuel + 1 => do
    let (event, _) ← peek
    if event = .mappingEnd then
      let _ ← next
      return value
    let inner := match event with
      | .scalar key _ _ => Route.entry route key
      | _ => .unnamed route
    let key ← string "field identifier" route
    let value ← entry mark value key inner
    entries route mark entry value fuel

/-- What the entries of a mapping make of a value, with the place where the mapping starts. -/
def mapping {β : Type} (expected : String) (entry : Mark → β → String → Route → Decoder β)
    (start : β) (route : Route) : Decoder (β × Mark) :=
  resolving fun event mark => do
    if event = .mappingStart then
      return (← entries route mark entry start ((← get).rest.length + 1), mark)
    else if isVacant event then return (start, mark)
    else mismatch route event mark expected

/-- The value of a key in the mapping on a route, which must not have been read yet. -/
def once {α : Type} (mapping : Route) (mark : Mark) (key : String) (current : Option α)
    (value : Decoder α) : Decoder (Option α) := do
  if current.isSome then fail mapping mark ("duplicate field \x60" ++ key ++ "\x60")
  return some (← value)

/-- The value of a key that the mapping on a route must have. -/
def required {α : Type} (mapping : Route) (mark : Mark) (key : String) (value : Option α) :
    Decoder α :=
  match value with
  | some value => return value
  | none => fail mapping mark ("missing field \x60" ++ key ++ "\x60")

/-- The value of the only document of a text. -/
def ofText {α : Type} (reader : Route → Decoder α) (text : String) : Except Error α := do
  let document := Document.ofText text
  let (value, _) ← (reader .root).run document |>.run ⟨document.events, 0⟩
  match document.failure with
  | some error => throw error
  | none => if document.followed then throw .moreThanOneDocument else return value

end Decoder

end Yaml

end SqlLineage
