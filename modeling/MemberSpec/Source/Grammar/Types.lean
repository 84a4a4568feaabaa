import MemberSpec.Source.Grammar.Rule

/-!
# Types, annotations and modifiers
-/

namespace MemberSpec.Source.Grammar

def typeArguments : P := optional (rule .typeArguments)

/-- A further part of a qualified type. -/
def dottedName (excluded : List String) : P := row [".", annotations, wordBut excluded]

/-- A type without dimensions: a keyword, or names with type arguments behind any of them. The excluded
words are no names behind a dot. -/
def simpleTypeBut (excluded : List String) : P :=
  oneOf [among basicWords,
    row [wordBut basicWords, typeArguments, many (row [dottedName excluded, typeArguments])]]

def simpleTypeRule : P := simpleTypeBut []

def plainTypeRule : P := node .typeUse (row [rule .simpleType, optional (rule .dimensions)])

def typeUseRule : P :=
  oneOf [node .typeUse (row [atLeastOne (rule .annotationUse), plainType]), plainType]

/-- A type with type arguments behind its last name. -/
def genericType : P :=
  row [wordBut basicWords, many (dottedName []), rule .typeArguments,
    many (row [atLeastOne (dottedName []), rule .typeArguments])]

def wildcard : P := row [annotations, "?", optional (row [among ["extends", "super"], typeUse])]

def typeArgumentsRule : P := row ["<", list (oneOf [wildcard, typeUse]), ">"]

def dimensionsRule : P := node .dimensions (atLeastOne (row [annotations, "[", "]"]))

/-! ### Annotations and modifiers -/

def elementValueRule : P :=
  oneOf [rule .annotationUse, row ["\x7b", list (rule .elementValue), optional ",", "\x7d"],
    expression]

/-- The arguments of an annotation: named values, or one value without a name. -/
def annotationArguments : P :=
  row ["(", oneOf [
    row [operandName, "=", rule .elementValue, many (row [",", word, "=", rule .elementValue]), ")"],
    ")",
    row [rule .elementValue, ")"]]]

def annotationUseRule : P :=
  node .annotationUse (row ["@", role .name qualifiedName, optional annotationArguments])

/-- What starts the declaration of an annotation type. -/
def annotationSign : P := row ["@", glued "interface"]

def nonSealed : P := node .keyword (row ["non", glued "-", glued "sealed"])

/-- Modifiers. In front of a declaration, an annotation type can start in place of an annotation. -/
def modifiersRule (declaration : Bool) : P :=
  node .modifiers (atLeastOne (oneOf [
    row [if declaration then refusing annotationSign else .empty, rule .annotationUse],
    among modifierWords, "sealed", nonSealed]))

def modifiers : P := optional (rule (.modifiers false))

/-- Modifiers in front of a declaration, with none of the words behind them. -/
def modifiersBut (words : List String) : P :=
  row [optional (rule (.modifiers true)), noneOf words]

/-! ### Type parameters and variables -/

def typeBound : P := node .typeBound (row ["extends", separated typeUse "&"])

def typeParameter : P := node .typeParameter (row [annotations, name, optional typeBound])

def typeParametersRule : P := node .typeParameters (row ["<", separated typeParameter ",", ">"])

def typeParameters : P := optional (rule .typeParameters)

/-- The name of a variable and the dimensions behind it. -/
def declaratorName : P := row [role .name name, optional (role .dimensions (rule .dimensions))]

def declarator : P := node .declarator (row [declaratorName, optional (row ["=", rule .initializer])])

def declarators : P := separated declarator ","

end MemberSpec.Source.Grammar
