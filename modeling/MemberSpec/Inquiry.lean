/-!
# Computations that ask

A computation that asks one question after the other and goes on with the answers. Who answers is left
open: `Inquiry.via` answers every question by a computation of any kind, by a step of a state or by
further questions.
-/

namespace MemberSpec

/-- A computation of an `α` that may ask; a question `q` is answered by an `Answer q`. -/
inductive Inquiry {Q : Type} (Answer : Q → Type) (α : Type) where
  | done (a : α)
  | ask (q : Q) (next : Answer q → Inquiry Answer α)

namespace Inquiry

variable {Q : Type} {Answer : Q → Type} {α β : Type}

def bind : Inquiry Answer α → (α → Inquiry Answer β) → Inquiry Answer β
  | done a, f => f a
  | ask q next, f => ask q fun answer => (next answer).bind f

instance : Monad (Inquiry Answer) where
  pure := done
  bind := bind

/-- The computation with every question answered by another one. -/
def via {m : Type → Type} [Monad m] (answer : (q : Q) → m (Answer q)) : Inquiry Answer α → m α
  | done a => pure a
  | ask q next => do (next (← answer q)).via answer

end Inquiry

end MemberSpec
