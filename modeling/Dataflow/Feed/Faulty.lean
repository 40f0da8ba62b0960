import Dataflow.Feed.Basic

/-!
# Feeds that fail

A feed in front of another one that counts the calls it gets and can be told to fail instead of
passing them on.
-/

namespace Dataflow

/-- A feed with failures, and how often it was called. -/
structure Faulty (υ : Type) where
  feed : υ
  failStart : Bool := false
  failNext : Option Nat := none
  failStop : Bool := false
  starts : Nat := 0
  nexts : Nat := 0
  stops : Nat := 0
  deriving DecidableEq

namespace Faulty

variable {υ : Type} [Feed υ]

/-- Fails, or passes a call on. -/
def pass {α : Type} (fails : Bool) (text : String) (a : Act υ α) : Act (Faulty υ) α :=
  if fails then throw (.run (.reported text))
  else Act.within Faulty.feed (fun feed f => { f with feed := feed }) a

/-- Opens the feed. -/
def start : Act (Faulty υ) Unit := do
  let f ← get
  set { f with starts := f.starts + 1 }
  pass f.failStart "stream open failed" Feed.start

/-- Gives the next tuple. -/
def next : Act (Faulty υ) (Option Tuple) := do
  let f ← get
  set { f with nexts := f.nexts + 1 }
  pass (f.failNext == some f.nexts) "stream next failed" Feed.next

/-- Closes the feed. -/
def stop : Act (Faulty υ) Unit := do
  let f ← get
  set { f with stops := f.stops + 1 }
  pass f.failStop "stream close failed" Feed.stop

instance : Feed (Faulty υ) where
  operator f := Feed.operator f.feed
  schema f := Feed.schema f.feed
  start := start
  next := next
  stop := stop

end Faulty

end Dataflow
