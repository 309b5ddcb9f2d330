import CounterTable.Keyed
import CounterTable.Number.Integral

/-!
# Drawing from the counter

A block policy turns the values of a counter into identifiers, for several tenants who keep apart
what they hold. A call of it either answers or first draws one more value.

* `Tenant`, `Tenants`: who holds something, and a value for each of them;
* `Outcome`: what a call comes to, with the policy after an answer;
* `Plain`: the policy for which every value of the counter is an identifier.
-/

namespace CounterTable

/-- Who holds a block: a tenant by name, or the one without a name. -/
abbrev Tenant : Type := Option String

/-- A value for each tenant that has one, the tenant without a name among them. -/
abbrev Tenants (α : Type) : Type := Keyed Tenant α

/-- What a call of a block policy comes to. -/
inductive Outcome (β : Type) where
  /-- The call needs a value of the counter; `held` is the value that it has drawn before. -/
  | draw (held : Option Integral)
  /-- The call is answered, and the policy is this one from now on. -/
  | answer (result : Except Error Integral) (policy : β)

/-- The outcome for a policy that holds this one. -/
def Outcome.map {β γ : Type} (f : β → γ) : Outcome β → Outcome γ
  | draw held => draw held
  | answer r policy => answer r (f policy)

/-- The plain policy, with the last value that each tenant has drawn. -/
structure Plain where
  increment : Int
  increment_pos : 1 ≤ increment
  last : Tenants Integral := []

namespace Plain

/-- A call always draws. -/
def opening (_ : Plain) (_ : Tenant) : Outcome Plain := .draw none

/-- The drawn value is the identifier. -/
def take (p : Plain) (t : Tenant) (drawn : Integral) : Outcome Plain :=
  .answer (.ok drawn) { p with last := p.last.set t drawn }

end Plain

end CounterTable
