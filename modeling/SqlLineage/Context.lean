import SqlLineage.Job
import SqlLineage.Normalize

/-!
# Context variables

The code of a job refers to the parameters of its context as `context.name`. A reference outside of
string literals is replaced by a literal of the parameter's value; inside a literal it is text.
-/

namespace SqlLineage

/-- The values of context variables. -/
structure Context where
  /-- The bindings, of which the first of a name counts. -/
  bindings : List (String × String)
deriving DecidableEq, Repr, Inhabited

/-- A reference to a variable without a value. -/
structure UnresolvedVariable where
  /-- The name of the variable. -/
  name : String
deriving DecidableEq, Repr

/-- The message for a user. -/
def UnresolvedVariable.message (error : UnresolvedVariable) : String :=
  "[C001] Context variable context." ++ error.name ++ " has no value"

namespace Context

/-- The context without variables. -/
def empty : Context :=
  ⟨[]⟩

/-- The context in which `name` has `value`, whatever value it had. -/
def bind (context : Context) (name value : String) : Context :=
  ⟨(name, value) :: context.bindings⟩

/-- The context of parameters, of which the last one of a name counts. -/
def ofParameters (parameters : List ContextParameter) : Context :=
  parameters.foldl (fun context parameter => context.bind parameter.name parameter.value) empty

/-- The value of a variable. -/
def get? (context : Context) (name : String) : Option String :=
  context.bindings.lookup name

/-- Whether a variable's name may go on with `c`. -/
def isNameChar (c : Char) : Bool :=
  Text.isLetter c || Text.isNumber c || c == '_'

/-- The name and the rest of a text that starts with a reference. -/
def reference? (cs : List Char) : Option (List Char × List Char) :=
  if "context.".toList.isPrefixOf cs then
    match cs.drop "context.".length with
    | c :: rest =>
      if Text.isLetter c || c == '_' then
        some (c :: rest.takeWhile isNameChar, rest.dropWhile isNameChar)
      else none
    | [] => none
  else none

/-- What is behind a reference is shorter than the text with it. -/
theorem length_lt_of_reference? {cs name rest : List Char}
    (found : reference? cs = some (name, rest)) : rest.length < cs.length := by
  simp only [reference?] at found
  split at found
  · split at found
    next c tail split =>
      split at found
      · have suffix := (List.dropWhile_suffix (l := tail) isNameChar).length_le
        have dropped := congrArg List.length split
        simp only [List.length_drop, List.length_cons] at dropped
        simp only [Option.some.injEq, Prod.mk.injEq] at found
        rw [← found.2]
        omega
      · simp at found
    next => simp at found
  · simp at found

/-- A part of an expression. -/
inductive Part
  /-- Text that is kept. -/
  | plain (text : String)
  /-- A reference to a variable. -/
  | reference (name : String)
deriving DecidableEq, Repr

/-- The parts of code. A reference starts at a word; `inWord` tells whether a character of a word
comes before the code. -/
def codeParts (inWord : Bool) (code : List Char) : List Part :=
  match code with
  | [] => []
  | c :: cs =>
    match _found : if inWord then none else reference? (c :: cs) with
    | some (name, rest) =>
      .reference (String.ofList name) ::
        codeParts ((name.getLast?.map Text.isWordChar).getD false) rest
    | none => .plain (String.singleton c) :: codeParts (Text.isWordChar c) cs
termination_by code.length
decreasing_by
  · split at _found
    · simp at _found
    · exact length_lt_of_reference? _found
  · simp

/-- The parts of a segment. -/
def segmentParts : JavaString.Segment → List Part
  | .literal text => [.plain text]
  | .code text => codeParts false text.toList

/-- The parts of an expression. -/
def parts (expression : String) : List Part :=
  (JavaString.segments expression).flatMap segmentParts

/-- The text that replaces a part. -/
def partText (context : Context) : Part → Except UnresolvedVariable String
  | .plain text => .ok text
  | .reference name =>
    match context.get? name with
    | some value => .ok (JavaString.literalOf value)
    | none => .error ⟨name⟩

/-- The expression with literals in place of its references. The first reference without a value is
the error. -/
def replace (context : Context) (expression : String) : Except UnresolvedVariable String := do
  return String.join (← (parts expression).mapM context.partText)

/-- The plain text that a parameter's value gives: of a reference, of an expression of literals and
references, or of text that is taken as it is. -/
def resolve (context : Context) (value : String) : Except UnresolvedVariable String := do
  return Text.trim (Normalize.textOfExpression (← context.replace value))

end Context

end SqlLineage
