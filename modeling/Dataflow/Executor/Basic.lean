import Dataflow.Catalog
import Dataflow.Config

/-!
# Executors

An executor does the work of one operator. A source gives tuples of its own; a worker takes in
tuples and gives out others. What an executor does next depends on what it did before, so each
call leaves a state behind, also when it fails. New kinds of executors come with a type of states
and say what the calls do to them.
-/

namespace Dataflow

/-- What a worker takes in. -/
inductive Input where
  | tuple (t : Tuple) (link : Link)
  | exhausted (link : Link)
  deriving DecidableEq

/-- The link that something came from. -/
def Input.link : Input → Link
  | tuple _ link | exhausted link => link

/-- An input is a tuple or an end. -/
def Input.isTuple : Input → Bool
  | tuple .. => true
  | exhausted _ => false

/-- States of sources. -/
class Source (σ : Type) where
  start : σ → Result Unit × σ
  next : σ → Result (Option Tuple) × σ
  stop : σ → Result Unit × σ

/-- States of workers. -/
class Worker (ω : Type) where
  start : ω → Result Unit × ω
  /-- Takes something in at a time, in nanoseconds, and gives tuples out. -/
  process : Nat → Input → ω → Result (List Tuple) × ω
  stop : ω → Result Unit × ω

instance {σ τ : Type} [Source σ] [Source τ] : Source (σ ⊕ τ) where
  start
    | .inl s => (Source.start s).map id .inl
    | .inr s => (Source.start s).map id .inr
  next
    | .inl s => (Source.next s).map id .inl
    | .inr s => (Source.next s).map id .inr
  stop
    | .inl s => (Source.stop s).map id .inl
    | .inr s => (Source.stop s).map id .inr

instance {ω ψ : Type} [Worker ω] [Worker ψ] : Worker (ω ⊕ ψ) where
  start
    | .inl w => (Worker.start w).map id .inl
    | .inr w => (Worker.start w).map id .inr
  process now input
    | .inl w => (Worker.process now input w).map id .inl
    | .inr w => (Worker.process now input w).map id .inr
  stop
    | .inl w => (Worker.stop w).map id .inl
    | .inr w => (Worker.stop w).map id .inr

/-- An executor of either sort. -/
inductive Executor (σ ω : Type) where
  | source (s : σ)
  | worker (w : ω)

/-- An executor with other types of states. -/
def Executor.map {σ ω τ ψ : Type} (f : σ → τ) (g : ω → ψ) : Executor σ ω → Executor τ ψ
  | source s => source (f s)
  | worker w => worker (g w)

/-- What executors are created in: the settings and the tables. -/
structure Context where
  config : Config
  catalog : Catalog

/-- What an executor is created from. -/
structure Request where
  operator : Operator
  inputs : List Schema
  links : List Link
  output : Schema
  worker : Nat
  context : Context

/-- The schema of an input. -/
def Request.input (r : Request) (index : Nat) : Result Schema :=
  match r.inputs[index]? with
  | some schema => .ok schema
  | none => .error (.run (.noInputSchema r.operator.id index))

/-- Creates executors of one kind. -/
abbrev Factory (σ ω : Type) : Type :=
  Request → Result (Executor σ ω)

/-- A factory whose executors have other types of states. -/
def Factory.map {σ ω τ ψ : Type} (f : σ → τ) (g : ω → ψ) (make : Factory σ ω) : Factory τ ψ :=
  fun request => (make request).map (.map f g)

end Dataflow
