import Dataflow.Executor.Basic
import Dataflow.Text.Quoted

/-!
# Registries

A registry holds factories by the tags of the kinds of operators that they run.
-/

namespace Dataflow

/-- Factories by tag. -/
structure Registry (σ ω : Type) where
  factories : List (String × Factory σ ω)

namespace Registry

variable {σ ω : Type}

/-- The registry without factories. -/
def empty : Registry σ ω :=
  ⟨[]⟩

/-- The factory of a tag. -/
def get? (r : Registry σ ω) (tag : String) : Option (Factory σ ω) :=
  (r.factories.find? (·.1 == tag)).map (·.2)

/-- Whether there is a factory of a tag. -/
def contains (r : Registry σ ω) (tag : String) : Bool :=
  (r.get? tag).isSome

/-- The registry without the factory of a tag. -/
def deregister (r : Registry σ ω) (tag : String) : Registry σ ω :=
  ⟨r.factories.filter (·.1 != tag)⟩

/-- The registry with a factory added, or put in the place of another. -/
def register (r : Registry σ ω) (tag : String) (factory : Factory σ ω) : Registry σ ω :=
  ⟨(tag, factory) :: (r.deregister tag).factories⟩

/-- The registry of a list of factories. -/
def ofList (factories : List (String × Factory σ ω)) : Registry σ ω :=
  factories.foldl (fun r (tag, factory) => r.register tag factory) empty

/-- The registry with the states of all executors changed to other types. -/
def map {τ ψ : Type} (f : σ → τ) (g : ω → ψ) (r : Registry σ ω) : Registry τ ψ :=
  ⟨r.factories.map fun (tag, factory) => (tag, factory.map f g)⟩

/-- The factory of a tag, which has to be there. -/
def require (r : Registry σ ω) (tag : String) : Result (Factory σ ω) :=
  match r.get? tag with
  | some factory => .ok factory
  | none => .error (.noExecutor tag)

/-- The tags, ascending. -/
def tags (r : Registry σ ω) : List String :=
  (r.factories.map (·.1)).mergeSort fun a b => !decide (b < a)

/-- A registry as it is shown. -/
def text (r : Registry σ ω) : String :=
  "ExecutorRegistry \x7b factories: " ++ quotedList r.tags ++ " \x7d"

/-- The factory registered last is the one that is found. -/
@[simp] theorem get?_register_self (r : Registry σ ω) (tag : String) (factory : Factory σ ω) :
    (r.register tag factory).get? tag = some factory := by
  simp [register, get?]

/-- A factory that was taken out is not found. -/
@[simp] theorem get?_deregister_self (r : Registry σ ω) (tag : String) :
    (r.deregister tag).get? tag = none := by
  simp [deregister, get?, List.find?_eq_none]

end Registry

end Dataflow
