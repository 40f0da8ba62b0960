import Dataflow.Tree.Basic

/-!
# Driving a tree

A tree is driven from its sink: opening, pulling and closing a node do the same to what feeds it.
A node takes its inputs in turn, deals their tuples to its workers in turn, and tells every worker
when an input has ended. Each operation is given first for one node, in terms of the same operation
on the nodes that feed it; how deep operations may stand in one another is limited by a number,
and one that goes deeper does not come to an end.
-/

namespace Dataflow

namespace Tree

variable {σ ω : Type} [Source σ] [Worker ω]

/-- An action of a tree. -/
abbrev Drive (σ ω α : Type) : Type :=
  Act (Tree σ ω) α

/-- A call of the source of a node. -/
def callSource {α : Type} (place : Nat) (s : σ) (started : Bool) (event : Event)
    (f : σ → Result α × σ) : Drive σ ω α := do
  let (result, s) := f s
  modify fun t =>
    { t.changeNode place fun node => { node with crew := .source s started } with
      newestCalls := ⟨place, none, event, Result.error? result⟩ :: t.newestCalls }
  result

/-- A call of a worker of a node. -/
def callWorker {α : Type} (place index : Nat) (w : ω) (event : Event)
    (f : ω → Result α × ω) : Drive σ ω α := do
  let (result, w) := f w
  modify fun t =>
    { t.changeTeam place fun team => { team with workers := team.workers.set index w } with
      newestCalls := ⟨place, some index, event, Result.error? result⟩ :: t.newestCalls }
  result

/-- Reads the clock. -/
def now : Drive σ ω Nat := do
  let t ← get
  set { t with readings := t.readings + 1 }
  return t.clock t.readings

/-- The team of a node as it is now. -/
def team? (place : Nat) : Drive σ ω (Option (Team ω)) := do
  match (← get).nodes[place]?.map Node.crew with
  | some (.team team) => return some team
  | _ => return none

/-- Sets the phase of a node. -/
def setPhase (place : Nat) (phase : Phase) : Drive σ ω Unit :=
  modify (·.changeNode place fun node => { node with phase := phase })

/-- An operation on what feeds an input: on a node, or on an endpoint along with the node behind
it. -/
def onSupply {α : Type} (onNode : Nat → Drive σ ω α)
    (onEndpoint : Seat (Tree σ ω) → Drive σ ω α → Nat → Drive σ ω α) :
    Supply → Drive σ ω α
  | .node place => onNode place
  | .endpoint id index => do
    let producer := ((← get).junctions[id]?.map Junction.producer).getD 0
    onEndpoint (seat id) (onNode producer) index

/-- Opens the workers of a node, from the first on, up to the first failure. -/
def startWorkers (place : Nat) : List (ω × Nat) → Drive σ ω Unit
  | [] => return
  | (w, index) :: rest => do
    callWorker place index w .start Worker.start
    modify (·.changeTeam place fun team => { team with started := index + 1 })
    startWorkers place rest

/-- Opens a node, after what feeds it. -/
def startAt (start : Nat → Drive σ ω Unit) (place : Nat) : Drive σ ω Unit := do
  match (← get).nodes[place]? with
  | none => return
  | some node =>
    setPhase place (← node.phase.start node.operator.id)
    match node.crew with
    | .source s _ =>
      callSource place s false .start Source.start
      modify (·.changeNode place fun node => match node.crew with
        | .source s _ => { node with crew := .source s true }
        | .team _ => node)
    | .team team =>
      team.slots.forM fun slot => onSupply start Seat.startEndpoint slot.supply
      startWorkers place team.workers.zipIdx

/-- Opens a node, at a depth of so many operations. -/
def startNode : Nat → Nat → Drive σ ω Unit
  | 0, _ => .endless
  | depth + 1, place => startAt (startNode depth) place

/-- Lets a worker take something in, and keeps what it gives out. -/
def deliver (place index : Nat) (input : Input) : Drive σ ω Unit := do
  match (← get).nodes[place]? with
  | some ⟨operator, _, _, .team team⟩ =>
    match team.workers[index]? with
    | some w =>
      let time ← now
      let given ← callWorker place index w (.process input) (Worker.process time input)
      modify fun t =>
        (t.changeTeam place fun team => { team with pending := team.pending ++ given }).measure
          (.call operator.id operator.kind.tag (if input.isTuple then 1 else 0) given.length
            (.zero false))
    | none => return
  | _ => return

/-- Deals a tuple to the worker whose turn it is. -/
def deal (place : Nat) (t : Tuple) (link : Link) : Drive σ ω Unit := do
  match ← team? place with
  | none => return
  | some team =>
    modify (·.changeTeam place fun team =>
      { team with nextWorker := (team.nextWorker + 1) % team.workers.length })
    deliver place team.nextWorker (.tuple t link)

/-- Ends an input and tells every worker. -/
def exhaust (place index : Nat) (link : Link) : Drive σ ω Unit := do
  match ← team? place with
  | none => return
  | some team =>
    modify (·.changeTeam place fun team =>
      { team with slots := team.slots.modify index fun slot => { slot with exhausted := true } })
    (List.range team.workers.length).forM fun w => deliver place w (.exhausted link)

/-- Pulls the input of a team whose turn it is, and lets the team take in what it gives. -/
def feed (next : Nat → Drive σ ω (Option Tuple)) (place index : Nat) (slot : Slot) :
    Drive σ ω Unit := do
  modify (·.changeTeam place fun team =>
    { team with nextSlot := (index + 1) % team.slots.length })
  match ← onSupply next Seat.pull slot.supply with
  | some t => deal place t slot.link
  | none => exhaust place index slot.link

/-- Gives the next tuple of a node. A team that has none pending is fed, and asked once more. -/
def nextAt (next : Nat → Drive σ ω (Option Tuple)) (place : Nat) : Drive σ ω (Option Tuple) := do
  match (← get).nodes[place]? with
  | none => return none
  | some node =>
    node.phase.require node.operator.id .toPull
    match node.crew with
    | .source s started =>
      let given ← callSource place s started .next Source.next
      modify (·.measure (.call node.operator.id node.operator.kind.tag 0
        (if given.isSome then 1 else 0) (.zero false)))
      return given
    | .team team =>
      match team.pending with
      | t :: rest =>
        modify (·.changeTeam place fun team => { team with pending := rest })
        return some t
      | [] =>
        match team.pick? with
        | none => return none
        | some (index, slot) =>
          feed next place index slot
          next place

/-- Gives the next tuple of a node, at a depth of so many operations. -/
def nextNode : Nat → Nat → Drive σ ω (Option Tuple)
  | 0, _ => .endless
  | depth + 1, place => nextAt (nextNode depth) place

/-- Does all actions of a list, also after failures; the first failure is that of the list. -/
def tryAll : List (Drive σ ω Unit) → Drive σ ω Unit
  | [] => return
  | a :: rest => do
    let first ← a.attempt
    let others ← (tryAll rest).attempt
    first
    others

/-- Closes a worker of a node, in the state in which it is then. -/
def stopWorker (place index : Nat) : Drive σ ω Unit := do
  match ← team? place with
  | none => return
  | some team =>
    match team.workers[index]? with
    | some w => callWorker place index w .stop Worker.stop
    | none => return

/-- Closes a node, after what feeds it. What was opened is closed also after failures. -/
def stopAt (stop : Nat → Drive σ ω Unit) (place : Nat) : Drive σ ω Unit := do
  match (← get).nodes[place]? with
  | none => return
  | some node =>
    let wasOpen ← node.phase.stop node.operator.id
    setPhase place .closed
    match node.crew with
    | .source s started => if wasOpen && started then callSource place s started .stop Source.stop
    | .team team =>
      modify (·.changeTeam place fun team => { team with pending := [] })
      tryAll (team.slots.map (fun slot => onSupply stop Seat.stopEndpoint slot.supply) ++
        if wasOpen then (List.range team.started).map (stopWorker place) else [])

/-- Closes a node, at a depth of so many operations. -/
def stopNode : Nat → Nat → Drive σ ω Unit
  | 0, _ => .endless
  | depth + 1, place => stopAt (stopNode depth) place

/-- Opens the tree. -/
def start (depth : Nat) : Drive σ ω Unit := do
  startNode depth (← get).root

/-- Gives the next tuple of the sink. -/
def next (depth : Nat) : Drive σ ω (Option Tuple) := do
  nextNode depth (← get).root

/-- Closes the tree. -/
def stop (depth : Nat) : Drive σ ω Unit := do
  stopNode depth (← get).root

/-- Gives all tuples of the sink behind those given before, which are in reverse order. -/
def drain (depth : Nat) : Nat → List Tuple → Drive σ ω (List Tuple)
  | 0, _ => .endless
  | rounds + 1, given => do
    match ← next depth with
    | some t => drain depth rounds (t :: given)
    | none => return given.reverse

/-- Opens the tree, gives all its tuples, and closes it in any case. The failure of a run is
counted; if both the run and the closing fail, it is that of the run. -/
def complete (depth : Nat) : Drive σ ω (List Tuple) := do
  let drained ← Act.attempt (do start depth; drain depth depth [])
  let stopped ← (stop depth).attempt
  match (do let given ← drained; stopped; return given : Result (List Tuple)) with
  | .ok given => return given
  | .error e =>
    modify (·.measure (.failure e.kind))
    throw e

end Tree

end Dataflow
