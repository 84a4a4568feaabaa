import MemberSpec.Source.Grammar.Types

/-!
# Expressions

Expressions are matched without regard to the rank of operators, since only their extent matters. An
expression is a chain: an operand, what is selected from it, and an operator with a further
expression. An assignment is possible only where the chain so far ends in a name, a field or an
element.
-/

namespace MemberSpec.Source.Grammar

/-- A text literal, with or without expressions in it. -/
def textLiteral : P :=
  oneOf [ofKind .text,
    row [ofKind .textOpen, expression, many (row [ofKind .textPart, expression]), ofKind .textClose]]

def literal : P :=
  oneOf [ofKind .number, ofKind .character, textLiteral, among ["true", "false", "null"]]

def prefixOperator : P := among ["+", "-", "!", "~", "++", "--"]

def binaryOperator : P :=
  oneOf [row [">", glued ">", glued ">"], row [">", glued ">"], row [">", glued "="], ">",
    among ["<=", "<<", "<", "==", "!=", "&&", "||", "+", "-", "*", "/", "&", "|", "^", "%"]]

def assignmentOperator : P :=
  oneOf [among ["=", "+=", "-=", "*=", "/=", "&=", "|=", "^=", "%=", "<<="],
    row [">", glued ">", glued "="], row [">", glued ">", glued ">", glued "="]]

/-! ### Selections -/

/-- The words that are no names behind the dot of an operand. -/
def selectionWords : List String := ["new", "super", "this"]

/-- A reference to a method behind `::`. -/
def methodReference : P := row ["::", typeArguments, word]

/-- A call behind a dot. -/
def callSuffix (excluded : List String) : P :=
  oneOf [row [".", wordBut excluded, rule .arguments],
    row [".", rule .typeArguments, word, rule .arguments],
    row [".", "super", ".", typeArguments, wordBut ["this"], rule .arguments], methodReference]

/-- A field behind a dot. -/
def fieldSuffix (excluded : List String) : P :=
  oneOf [row [".", wordBut excluded], row [".", "this"], row [".", "super", ".", word]]

/-- What can be selected from an operand and cannot be assigned to. -/
def valueSuffix : P :=
  oneOf [callSuffix selectionWords, row [".", rule .objectCreation], row [".", textLiteral]]

/-- What can be selected from an operand and can be assigned to. -/
def placeSuffix : P := oneOf [fieldSuffix selectionWords, row ["[", expression, "]"]]

/-! ### Operands -/

/-- The words that are no first name of a type where an operand can start. -/
def operandStarts : List String := contextual ++ operandWords

/-- A method or the class of a type. -/
def typeReference : P :=
  row [noneOf operandStarts,
    oneOf [row [simpleTypeBut ["class"], optional (rule .dimensions), ".", "class"],
      row [typeUse, methodReference]]]

/-- Values in braces. -/
def arrayInitializer : P := row ["\x7b", list (rule .initializer), optional ",", "\x7d"]

def arrayCreation : P :=
  row ["new", annotations, rule .simpleType,
    oneOf [row [atLeastOne (row [annotations, "[", expression, "]"]), optional (rule .dimensions)],
      row [rule .dimensions, arrayInitializer]]]

/-- An expression in parentheses, where the parameters of a lambda expression can stand as well. -/
def parenthesized : P :=
  row ["(", noneOf modifierWords, refusing nonSealed, expression, ")"]

/-- An operand that cannot be assigned to. -/
def valueOperand : P :=
  oneOf [literal, typeReference, "this", row ["super", callSuffix ["super", "this"]],
    rule .objectCreation, arrayCreation, parenthesized, row [operandName, rule .arguments]]

/-- An operand that can be assigned to. -/
def placeOperand : P := oneOf [operandName, row ["super", fieldSuffix ["super", "this"]]]

def primaryRule : P :=
  row [oneOf [valueOperand, placeOperand], many (oneOf [valueSuffix, placeSuffix])]

/-- What is selected from an operand such that the last selection is a field. -/
def fieldTailRule : P :=
  oneOf [row [oneOf [valueSuffix, placeSuffix], rule .fieldTail], fieldSuffix selectionWords]

/-- An expression that is a field of something. -/
def fieldAccess : P :=
  oneOf [row [oneOf [valueOperand, placeOperand], rule .fieldTail],
    row ["super", fieldSuffix ["super", "this"]]]

def argumentsRule : P := row ["(", list expression, ")"]

def objectCreationRule : P :=
  row ["new", annotations, optional (row [rule .typeArguments, annotations]), rule .simpleType,
    rule .arguments, optional (rule .classBody)]

/-- The value of a variable: an expression, or values in braces. -/
def initializerRule : P := oneOf [arrayInitializer, expression]

/-! ### Expressions -/

def lambdaParameters : P :=
  oneOf [operandName,
    row ["(", noneOf modifierWords, operandName, many (row [",", word]), ")"],
    rule (.formalParameters true)]

def lambdaExpression : P :=
  row [lambdaParameters, "->", oneOf [row [rule .block, rule (.ending true)], expression]]

/-- A test of the class of an operand. In a label of a switch, a guard can follow. -/
def instanceTest (lambda : Bool) : P :=
  row ["instanceof", optional "final",
    oneOf [rule .recordPattern,
      row [noneOf contextual, typeUse,
        optional (wordBut ("instanceof" :: if lambda then [] else ["when"]))]]]

/-- What cannot be the operand of a cast, since it goes on behind an expression in parentheses. -/
def parenthesizedTail (lambda : Bool) : P :=
  oneOf (instanceTest lambda :: if lambda then [] else ["when"])

/-- A cast to one type, or to several types at once, which an operand or a lambda has to follow. -/
def castExpression (lambda : Bool) : P :=
  row ["(", noneOf (operandStarts ++ modifierWords), typeUse,
    oneOf [row [")", refusing (parenthesizedTail lambda), rule (.expression lambda)],
      row [atLeastOne (row ["&", typeUse]), ")", refusing (parenthesizedTail lambda),
        oneOf [lambdaExpression, row [rule .primary, rule (.ending lambda)]]]]]

/-- What follows a chain that is selected from no more. -/
def endingRule (lambda : Bool) : P :=
  row [many (oneOf ["++", "--", instanceTest lambda]),
    optional (oneOf [row [binaryOperator, rule (.expression lambda)],
      row ["?", expression, ":", rule (.expression lambda)]])]

def chainRule (lambda place : Bool) : P :=
  oneOf ([row [valueSuffix, rule (.chain lambda false)], row [placeSuffix, rule (.chain lambda true)]]
    ++ (if place then [row [assignmentOperator, rule (.expression lambda)]] else [])
    ++ [rule (.ending lambda)])

def expressionRule (lambda : Bool) : P :=
  oneOf ((if lambda then [lambdaExpression] else []) ++
    [row [prefixOperator, rule (.expression lambda)],
     castExpression lambda,
     row [rule .switch, rule (.ending lambda)],
     row [valueOperand, rule (.chain lambda false)],
     row [placeOperand, rule (.chain lambda true)]])

/-! ### Patterns and switches -/

def patternComponent : P :=
  oneOf ["_", rule .recordPattern, row [noneOf contextual, plainType, word]]

def recordPatternRule : P :=
  row [oneOf [row [noneOf contextual, genericType], wordBut basicWords],
    "(", list patternComponent, ")"]

/-- A type with a name for the value. -/
def typePattern : P :=
  row [refusing (row [wordBut basicWords, among ["instanceof", "when"]]), noneOf contextual,
    plainType, word]

def guardClause : P := optional (row ["when", rule (.expression false)])

/-- A label of a switch with the token that closes it. -/
def switchLabel (close : String) : P :=
  oneOf [
    row ["case", noneOf operandWords, oneOf [rule .recordPattern, typePattern], guardClause, close],
    row ["case", separated (rule (.expression false)) ",", guardClause, close],
    row ["default", close]]

def throwStatement : P := row ["throw", expression, ";"]

def switchRow : P :=
  row [switchLabel "->",
    oneOf [rule .block, throwStatement, row [noneOf ["throw"], expression, ";"]]]

def switchGroup : P :=
  row [atLeastOne (switchLabel ":"), many (row [noneOf ["case"], rule .statement])]

def switchRule : P :=
  row ["switch", "(", expression, ")",
    oneOf [row ["\x7b", atLeastOne switchRow, "\x7d"], row ["\x7b", many switchGroup, "\x7d"]]]

end MemberSpec.Source.Grammar
