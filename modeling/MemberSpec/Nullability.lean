import MemberSpec.Text.Split

/-!
# Nullability of parameters

Whether a parameter may be null is read off its annotations by two sets of annotation names. An
annotation is in a set by its name as written or by the last part of that name.
-/

namespace MemberSpec

/-- What is known about a parameter being null. -/
inductive Nullability where
  | notNull | nullable | unknown
deriving DecidableEq, Repr

namespace Nullability

/-- The name of a value in structured output. -/
def code : Nullability → String
  | notNull => "NOT_NULL"
  | nullable => "NULLABLE"
  | unknown => "UNKNOWN"

/-- The name of a value in text. -/
def label : Nullability → String
  | notNull => "not-null"
  | nullable => "nullable"
  | unknown => "unknown"

/-- The annotations that say whether a parameter may be null. -/
structure Policy where
  notNull : List String
  nullable : List String
deriving DecidableEq, Repr

/-- The annotations of the common libraries. -/
def Policy.default : Policy := ⟨["NotNull", "NonNull", "Nonnull"], ["Nullable", "CheckForNull"]⟩

/-- Whether a set of names has an annotation, by its name as written or by the last part of it. -/
def matchesAny (names : List String) (written : String) : Bool :=
  let simple := String.ofList (Text.lastPiece (· == '.') written.toList)
  names.any fun name => name == written || name == simple

/-- The nullability that annotations give. Annotations of both sets cancel out. -/
def Policy.classify (policy : Policy) (annotations : List String) : Nullability :=
  match annotations.any (matchesAny policy.notNull), annotations.any (matchesAny policy.nullable) with
  | true, false => .notNull
  | false, true => .nullable
  | _, _ => .unknown

end Nullability

end MemberSpec
