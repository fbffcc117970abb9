import SqlLineage.JavaString
import SqlLineage.Normalize.Enclosures
import SqlLineage.Normalize.GlobalMap
import SqlLineage.Normalize.Lines
import SqlLineage.Normalize.SelectInto

/-!
# Normal form of embedded SQL

The SQL inside a job is written as a Java expression, with comments and quotes of many tools. The
steps here turn it into text that a grammar accepts; what they do not recognise they keep.
-/

namespace SqlLineage

namespace Normalize

/-- The SQL text that a Java string expression gives. An operand that is no string literal is kept
as it is written, and a text that does not begin with a literal is SQL already. -/
def textOfExpression (code : String) : String :=
  let trimmed := Text.trim code
  if trimmed.toList.head? == some '"' then
    String.join ((JavaString.operands trimmed).map fun operand =>
      (JavaString.textOfLiteral? operand).getD (Text.trim operand))
  else code

/-- The text after all steps. -/
def normalize (text : String) : String :=
  collapseBlankLines
    (withoutNameQuotes
      (withoutSelectTargets
        (withStandardMarks
          (textOfExpression (withGlobalKeys text)))))

end Normalize

end SqlLineage
