import MemberSpec.Member
import MemberSpec.Resolve

/-!
# Tags of a member

The block tags of a documentation comment become the tags of a member, in order: parameter tags that
name a parameter, return tags, and throws tags with their exception type resolved. An exception type
that cannot be resolved fails the member.
-/

namespace MemberSpec

open Text

/-- Where tags come from. -/
structure TagContext where
  className : String
  /-- The signature of the member. -/
  member : String
  parameters : List Parameter
  scope : Source.Scope

namespace TagContext

variable {σ : Type}

/-- The tag of a parameter tag that names a parameter. -/
def paramTag? (c : TagContext) (tag : BlockTag) : Option Tag :=
  (c.parameters.findIdx? fun p => p.name == tag.name.getD "").map fun i => .param i tag.content

/-- The exception name that starts the content of a throws tag, and the comment behind it. -/
def splitException (content : String) : String × String :=
  let cs := content.toList
  (String.ofList (cs.takeWhile (!isBlank ·)),
   String.ofList (trimStart (cs.dropWhile (!isBlank ·))))

/-- The tag of a throws tag. -/
def throwsTag (c : TagContext) (source : Introspector σ) (resolver : Resolver) (tag : BlockTag) :
    Session σ ExtractError Tag := do
  let (name, comment) := splitException tag.content
  let unresolved := ExtractError.unresolvedException c.className c.member name
  -- An empty name would be found in every import.
  if name.isEmpty then throw unresolved
  let handle ← ExceptT.adapt (fun _ => unresolved) (resolver.resolve source c.scope name)
  return .throws handle.type comment

/-- The tag of a block tag: none for kinds that are not kept. -/
def tag? (c : TagContext) (source : Introspector σ) (resolver : Resolver) (tag : BlockTag) :
    Session σ ExtractError (Option Tag) := do
  match tag.kind with
  | .param => return c.paramTag? tag
  | .returns => return some (.returns tag.content)
  | .throws => return some (← c.throwsTag source resolver tag)
  | _ => return none

/-- The tags of block tags in order. -/
def ofBlockTags (c : TagContext) (source : Introspector σ) (resolver : Resolver) :
    List BlockTag → Session σ ExtractError (List Tag)
  | [] => return []
  | tag :: rest => do
    let first ← c.tag? source resolver tag
    let others ← c.ofBlockTags source resolver rest
    return first.toList ++ others

/-- The tags of a member with the given documentation. -/
def tags (c : TagContext) (source : Introspector σ) (resolver : Resolver)
    (javadoc : Option Javadoc) : Session σ ExtractError (List Tag) :=
  c.ofBlockTags source resolver (documentedTags javadoc)

end TagContext

end MemberSpec
