import MemberSpec.Executable
import MemberSpec.Nullability

/-!
# Member specifications

What is extracted for a constructor or method: its compiled form with the parameter names of the
source, the nullability of the parameters and the tags of its documentation.
-/

namespace MemberSpec

/-- A formal parameter: type from the compiled form, name and nullability from the source. -/
structure Parameter where
  type : JavaType
  name : String
  nullability : Nullability
deriving DecidableEq, Repr

def Parameter.display (p : Parameter) : String :=
  let text := p.type.canonicalName ++ " " ++ p.name
  if p.nullability = .unknown then text else text ++ " [" ++ p.nullability.label ++ "]"

/-- A tag of a documentation comment. A parameter tag refers to a parameter by position. -/
inductive Tag where
  | param (position : Nat) (comment : String)
  | returns (comment : String)
  | throws (exception : JavaType) (comment : String)
deriving DecidableEq, Repr

namespace Tag

def comment : Tag → String
  | param _ comment => comment
  | returns comment => comment
  | throws _ comment => comment

def kind : Tag → String
  | param .. => "param"
  | returns .. => "return"
  | throws .. => "throws"

end Tag

/-- The specification of a constructor or method. -/
structure Member where
  className : String
  kind : MemberKind
  name : String
  modifiers : Modifiers
  returnType : Option JavaType
  parameters : List Parameter
  tags : List Tag
deriving DecidableEq, Repr

namespace Member

/-- The parameter tags with the parameters they refer to. -/
def paramTags (m : Member) : List (Parameter × String) :=
  m.tags.filterMap fun tag =>
    match tag with
    | .param position comment => m.parameters[position]?.map fun p => (p, comment)
    | _ => none

/-- The comment of the first return tag. -/
def returnTag? (m : Member) : Option String :=
  m.tags.findSome? fun tag =>
    match tag with
    | .returns comment => some comment
    | _ => none

/-- The exception types and comments of the throws tags. -/
def throwsTags (m : Member) : List (JavaType × String) :=
  m.tags.filterMap fun tag =>
    match tag with
    | .throws exception comment => some (exception, comment)
    | _ => none

/-- The name with the simple names of the parameter types. -/
def signature (m : Member) : String :=
  signatureOf m.name (m.parameters.map fun p => p.type.simpleName)

/-- The line of a tag. -/
def tagLine (m : Member) : Tag → String
  | .param position comment =>
    let name := (m.parameters[position]?.map (·.name)).getD "?"
    "  @param " ++ name ++ " " ++ comment ++ "\n"
  | .returns comment => "  @return " ++ comment ++ "\n"
  | .throws exception comment => "  @throws " ++ exception.canonicalName ++ " " ++ comment ++ "\n"

/-- The specification as text: a line for the member and one for each tag. -/
def display (m : Member) : String :=
  let modifiers := m.modifiers.display
  let lead := if modifiers.isEmpty then "" else modifiers ++ " "
  let returns := match m.returnType with
    | some type => type.canonicalName ++ " "
    | none => ""
  let parameters := String.intercalate ", " (m.parameters.map Parameter.display)
  lead ++ returns ++ m.name ++ "(" ++ parameters ++ ")\n" ++ String.join (m.tags.map m.tagLine)

end Member

end MemberSpec
