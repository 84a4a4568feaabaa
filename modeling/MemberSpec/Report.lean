import MemberSpec.Extract
import MemberSpec.JsonValue

/-!
# Members as JSON values
-/

namespace MemberSpec

open JsonValue (string number array object strings)

def Parameter.toJson (p : Parameter) : JsonValue :=
  object [("type", string p.type.canonicalName), ("name", string p.name),
    ("nullability", string p.nullability.code)]

def Tag.toJson (t : Tag) : JsonValue :=
  match t with
  | .param position comment =>
    object [("kind", string t.kind), ("position", number position), ("comment", string comment)]
  | .returns comment => object [("kind", string t.kind), ("comment", string comment)]
  | .throws exception comment =>
    object [("kind", string t.kind), ("exception", string exception.canonicalName),
      ("comment", string comment)]

/-- A member as a value. Only methods have a return type. -/
def Member.toJson (m : Member) : JsonValue :=
  object ([("class_name", string m.className), ("kind", string m.kind.label),
      ("name", string m.name), ("modifiers", strings m.modifiers.keywords)]
    ++ (m.returnType.map fun type => ("return_type", string type.canonicalName)).toList
    ++ [("parameters", array (m.parameters.map Parameter.toJson)),
      ("tags", array (m.tags.map Tag.toJson))])

def ExtractError.toJson (e : ExtractError) : JsonValue :=
  object [("status", string e.status), ("message", string e.message),
    ("suggestions", strings e.suggestions)]

/-- The outcome for a class: its members, or the error. -/
def ClassExtraction.toJson (c : ClassExtraction) : JsonValue :=
  object [("class", string c.className),
    match c.members with
    | .ok members => ("members", array (members.map Member.toJson))
    | .error e => ("error", e.toJson)]

end MemberSpec
