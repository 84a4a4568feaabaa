import MemberSpec.Source.Grammar.Expressions

/-!
# Statements
-/

namespace MemberSpec.Source.Grammar

def blockRule : P := node .block (row ["\x7b", many (rule .statement), "\x7d"])

def condition : P := row ["(", expression, ")"]

/-- A name and a test of its class. Where both a declaration and an expression can start, this is no
declaration of something with the name `instanceof`. -/
def testedName : P :=
  row [wordBut (basicWords ++ modifierWords ++ statementWords), "instanceof"]

/-! ### Statements with keywords -/

def catchClause : P :=
  row ["catch", "(", modifiers, separated plainType "|", declaratorName, ")", rule .block]

def finallyClause : P := row ["finally", rule .block]

def lastClause : P := oneOf [finallyClause, noneOf ["catch", "finally"]]

/-- The words that start no type where modifiers or an operand can start. -/
def variableStarts : List String := operandStarts.filter (· != "sealed")

/-- A resource: a declaration with a value, a field or a name. -/
def resource : P :=
  oneOf [row [noneOf variableStarts, modifiers, plainType, declaratorName, "=", expression],
    row [noneOf modifierWords, fieldAccess],
    wordBut (basicWords ++ operandStarts ++ modifierWords)]

def tryStatement : P :=
  row ["try",
    oneOf [
      row [rule .block, oneOf [row [atLeastOne catchClause, lastClause], finallyClause]],
      row ["(", separated resource ";", optional ";", ")", rule .block, many catchClause,
        lastClause]]]

/-- The variables of a loop. -/
def loopVariables (declared : P) : P :=
  row [noneOf variableStarts, refusing testedName, modifiers, plainType, declared]

def forStatement : P :=
  row ["for", "(",
    oneOf [
      row [loopVariables declaratorName, ":", expression, ")"],
      row [oneOf [row [loopVariables declarators, ";"],
          row [noneOf modifierWords, refusing nonSealed, list expression, ";"]],
        optional expression, ";", list expression, ")"]],
    rule .statement]

/-- The statements that start with a keyword or a symbol of their own. -/
def markedStatement : P :=
  oneOf [rule .block, ";",
    row ["if", condition, rule .statement, oneOf [row ["else", rule .statement], noneOf ["else"]]],
    row ["while", condition, rule .statement],
    forStatement,
    row ["return", optional expression, ";"],
    row ["assert", expression, optional (row [":", expression]), ";"],
    row ["do", rule .statement, "while", condition, ";"],
    row ["break", optional word, ";"],
    row ["continue", optional word, ";"],
    throwStatement, tryStatement,
    row [rule .switch, optional (row [rule (.ending true), ";"])],
    row ["synchronized", condition, rule .block]]

/-! ### Other statements -/

/-- The words that start no type where a statement can start. -/
def statementStarts : List String := operandStarts ++ modifierWords ++ statementWords

/-- Modifiers in front of the type of a declaration among statements. -/
def statementModifiers : P :=
  row [refusing testedName, refusing (row [annotations, among ["module", "open", "package"]]),
    oneOf [row [rule (.modifiers true), noneOf memberWords], noneOf statementStarts]]

/-- A declaration of local variables. -/
def localVariables : P := row [statementModifiers, plainType, declarators, ";"]

/-- The other statements that are no declarations of packages, imports or types. -/
def plainStatement : P :=
  oneOf [localVariables,
    row ["yield", noneOf ["instanceof"], expression, ";"],
    row [wordBut (basicWords ++ statementStarts), ":", rule .statement],
    row [noneOf (modifierWords ++ statementWords), refusing nonSealed, expression, ";"]]

/-! ### Packages, imports and modules -/

/-- The annotations in front of a package or a module, where an annotation type can start as well. -/
def clauseAnnotations : P := many (row [refusing annotationSign, rule .annotationUse])

def packageClause : P := node .packageClause (row [clauseAnnotations, "package", qualifiedName, ";"])

def importClause : P :=
  node .importClause
    (row ["import", optional "static", qualifiedName, optional (row [".", "*"]), ";"])

def moduleDirective : P :=
  oneOf [row ["requires", many (among ["transitive", "static"]), qualifiedName, ";"],
    row [among ["exports", "opens"], qualifiedName,
      optional (row ["to", separated qualifiedName ","]), ";"],
    row ["uses", qualifiedName, ";"],
    row ["provides", qualifiedName, "with", separated qualifiedName ",", ";"]]

def moduleDeclaration : P :=
  node .statement (row [clauseAnnotations, optional "open", "module", qualifiedName,
    "\x7b", many moduleDirective, "\x7d"])

def statementRule : P :=
  oneOf [node .statement markedStatement, packageClause, importClause,
    row [refusing testedName, oneOf [moduleDeclaration, rule .typeDeclaration]],
    node .statement plainStatement]

end MemberSpec.Source.Grammar
