import MemberSpec.Source.Grammar.Statements

/-!
# Declarations of types and their members
-/

namespace MemberSpec.Source.Grammar

/-! ### Parameters -/

/-- A type with no modifier in front. -/
def bareType : P := row [noneOf ("sealed" :: modifierWords), refusing nonSealed, plainType]

/-- The parameter that stands for the object itself. -/
def receiverParameter : P :=
  node .receiverParameter
    (row [annotations, bareType,
      optional (row [wordBut ("this" :: "_" :: contextual), ".", many (row [wordBut ["this"], "."])]),
      "this"])

def spreadParameter : P :=
  node .spreadParameter (row [modifiers, plainType, "...", annotations, declarator])

def formalParameter : P :=
  node .formalParameter (row [modifiers, role .type plainType, declaratorName])

def parameter : P := oneOf [spreadParameter, formalParameter]

/-- Parameters. Those of a lambda expression stand where an expression in parentheses can stand. -/
def formalParametersRule (lambda : Bool) : P :=
  node .parameters (row ["(",
    if lambda then row [noneOf variableStarts, refusing testedName] else .empty,
    oneOf [row [receiverParameter, ")"],
      row [receiverParameter, ",", list parameter, ")"],
      row [refusing (row [bareType, "this"]), separated parameter ",", ")"],
      ")"]])

def formalParameters : P := role .parameters (rule (.formalParameters false))

/-! ### Members -/

def throwsClause : P := optional (row ["throws", separated typeUse ","])

/-- A method behind its modifiers. A lone underscore could only be the name of a variable there,
except behind type parameters. -/
def method (modifiers : P) : P :=
  node .methodDeclaration (row [modifiers,
    oneOf [
      row [rule .typeParameters, annotations, plainType, role .name name],
      row [plainType, role .name (node .name (wordBut ["_"]))]],
    formalParameters, optional (rule .dimensions), throwsClause, oneOf [rule .block, ";"]])

/-- A call of another constructor at the start of a constructor. -/
def constructorCall : P :=
  row [oneOf [row [typeArguments, among ["this", "super"]],
      row [noneOf (modifierWords ++ statementWords), rule .primary, ".", typeArguments, "super"]],
    rule .arguments, ";"]

/-- The name of a constructor. -/
def constructorName (excluded : List String) : P :=
  role .name (node .name (wordBut (basicWords ++ excluded)))

def constructor : P :=
  node .constructorDeclaration (row [modifiersBut [],
    oneOf [row [rule .typeParameters, constructorName []], constructorName memberWords],
    formalParameters, throwsClause,
    node .block (row ["\x7b", optional constructorCall, many (rule .statement), "\x7d"])])

/-- A constructor of a record that leaves out the parameters. -/
def compactConstructor : P := row [modifiersBut [], constructorName memberWords, rule .block]

def field (words : List String) : P := row [modifiersBut words, plainType, declarators, ";"]

def memberRule : P :=
  oneOf [";", rule .typeDeclaration, method (modifiersBut memberWords), constructor,
    field memberWords, compactConstructor, row ["static", rule .block], rule .block]

def interfaceMember : P :=
  oneOf [";", rule .typeDeclaration, method (modifiersBut memberWords), field memberWords]

/-- An element of an annotation type. -/
def element : P :=
  row [modifiersBut typeWords, plainType, wordBut ["_"], "(", ")", optional (rule .dimensions),
    optional (row ["default", rule .elementValue]), ";"]

/-! ### Types -/

def typeList : P := separated typeUse ","

def extendsClause (types : P) : P := optional (row ["extends", types])

def implementsClause : P := optional (row ["implements", typeList])

def permitsClause : P := optional (row ["permits", typeList])

def typeName : P := role .name name

/-- A body in braces. -/
def bodyOf (content : P) : P := node .body (row ["\x7b", content, "\x7d"])

def classBodyRule : P := bodyOf (many (rule .member))

def classBody : P := role .body (rule .classBody)

def classDeclaration : P :=
  node .classDeclaration (row [modifiersBut [], "class", typeName, typeParameters,
    extendsClause typeUse, implementsClause, permitsClause, classBody])

def recordDeclaration : P :=
  node .recordDeclaration (row [modifiersBut [], "record", typeName, typeParameters,
    rule (.formalParameters false), implementsClause, classBody])

def interfaceDeclaration : P :=
  node .interfaceDeclaration (row [modifiersBut [], "interface", typeName, typeParameters,
    extendsClause typeList, permitsClause, role .body (bodyOf (many interfaceMember))])

def enumConstant : P :=
  row [modifiers, word, optional (rule .arguments), optional (rule .classBody)]

/-- The body of an enum. Its members are in a node of their own behind the constants. -/
def enumBody : P :=
  bodyOf (row [list enumConstant, optional ",",
    optional (node .body (row [";", many (rule .member)]))])

def enumDeclaration : P :=
  node .enumDeclaration (row [modifiersBut [], "enum", typeName, implementsClause, role .body enumBody])

/-- The declarations inside an annotation type are those of any type other than a record. -/
def annotationMember : P :=
  oneOf [";", classDeclaration, interfaceDeclaration, enumDeclaration, rule .annotationDeclaration,
    element, field typeWords]

def annotationDeclarationRule : P :=
  node .annotationDeclaration (row [modifiersBut [], annotationSign, typeName,
    role .body (bodyOf (many annotationMember))])

def typeDeclarationRule : P :=
  oneOf [classDeclaration, interfaceDeclaration, enumDeclaration, recordDeclaration,
    rule .annotationDeclaration]

end MemberSpec.Source.Grammar
