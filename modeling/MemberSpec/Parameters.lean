import MemberSpec.Member
import MemberSpec.Reconcile

/-!
# Parameters of a member

The parameters of a reconciled pair: types from the compiled form, names and nullability from the
declaration, position by position.
-/

namespace MemberSpec

/-- The parameters of a pair. -/
def ReconciledPair.parameters (pair : ReconciledPair) (className : String)
    (policy : Nullability.Policy) : Except ExtractError (List Parameter) :=
  let declared := pair.declaration.parameters
  let introspected := pair.executable.parameterTypes
  if declared.length != introspected.length then
    .error (.parameterCountMismatch className pair.declaration.signature declared.length
      introspected.length)
  else .ok (List.zipWith (fun p type => ⟨type, p.name, policy.classify p.annotations⟩)
    declared introspected)

end MemberSpec
