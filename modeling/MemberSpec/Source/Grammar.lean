import MemberSpec.Source.Grammar.Declarations

/-!
# The Java grammar

The pattern of every rule, and of a whole source file. The grammar is wider than the language:
statements and methods can stand outside of types, and packages and imports anywhere.
-/

namespace MemberSpec.Source

open Grammar

def grammar : Rule → Pattern Rule
  | .typeUse => typeUseRule
  | .plainType => plainTypeRule
  | .simpleType => simpleTypeRule
  | .typeArguments => typeArgumentsRule
  | .dimensions => dimensionsRule
  | .annotationUse => annotationUseRule
  | .elementValue => elementValueRule
  | .modifiers declaration => modifiersRule declaration
  | .expression lambda => expressionRule lambda
  | .chain lambda place => chainRule lambda place
  | .ending lambda => endingRule lambda
  | .primary => primaryRule
  | .fieldTail => fieldTailRule
  | .arguments => argumentsRule
  | .objectCreation => objectCreationRule
  | .initializer => initializerRule
  | .recordPattern => recordPatternRule
  | .switch => switchRule
  | .block => blockRule
  | .statement => statementRule
  | .typeParameters => typeParametersRule
  | .formalParameters lambda => formalParametersRule lambda
  | .classBody => classBodyRule
  | .member => memberRule
  | .typeDeclaration => typeDeclarationRule
  | .annotationDeclaration => annotationDeclarationRule

/-- A source file. -/
def sourceFile : Pattern Rule :=
  node .program (many (oneOf [rule .statement, method statementModifiers]))

end MemberSpec.Source
