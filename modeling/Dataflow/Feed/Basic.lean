import Dataflow.Act
import Dataflow.Phase.Transition
import Dataflow.Tuple

/-!
# Feeds

A feed gives the tuples of one operator one by one, between being opened and being closed.
-/

namespace Dataflow

/-- Something that gives the tuples of one operator. -/
class Feed (υ : Type) where
  operator : υ → OperatorId
  schema : υ → Schema
  start : Act υ Unit
  next : Act υ (Option Tuple)
  stop : Act υ Unit

end Dataflow
