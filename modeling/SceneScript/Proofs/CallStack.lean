import Mathlib.Logic.Relation
import SceneScript.Proofs.Walked

/-!
The walk in single steps, with its calls in progress and one path that they share: ids are put on
the path as they are entered, and a call takes its own off again when it returns. Main statement: a
sequence or a lane that is called comes after finitely many steps to what the walk returns there, or
to its error, and leaves the path as it found it.
-/

namespace SceneScript.Compile

open Relation

/-- What the loop of a sequence or of a lane has entered, last first, and its actions so far. -/
structure Loop where
  entered : List String := []
  actions : List Action := []

inductive Walker where
  | sequence
  | lane (fork join : String)

/-- What a sequence goes on with when the call that it waits for returns. -/
inductive Awaits where
  | whenTrue (first : List Action) (onFalse : Option Edge)
  | whenFalse (whenTrue first : List Action)
  | lane (join : Node) (groups : List (List Action)) (edge : Edge) (first : List Action)
      (rest : List String)

/-- A sequence that waits at a branch or at a fork. -/
structure Call where
  loop : Loop
  node : Node
  awaits : Awaits

/-- Where the innermost call is: at the head of its loop, at a side of a branch, before the lanes
of a fork that are left, or at the end of its loop. -/
inductive Place where
  | head (id : String)
  | trueSide (node : Node) (onTrue onFalse : Option Edge)
  | falseSide (node : Node) (whenTrue : List Action) (onFalse : Option Edge)
  | lanes (fork join : Node) (groups : List (List Action)) (rest : List String)
  | finished

structure Moment where
  path : List String
  pending : List Call
  walker : Walker
  loop : Loop
  place : Place

inductive Status where
  | running (moment : Moment)
  | returned (path : List String) (actions : List Action)
  | failed (error : CompileError)

namespace Moment

def entering (moment : Moment) (id : String) (actions : List Action) : Moment :=
  { moment with
    path := id :: moment.path
    loop := ⟨id :: moment.loop.entered, moment.loop.actions ++ actions⟩ }

def goingTo (moment : Moment) (place : Place) : Moment := { moment with place }

def adding (moment : Moment) (actions : List Action) : Moment :=
  { moment with loop := ⟨moment.loop.entered, moment.loop.actions ++ actions⟩ }

end Moment

variable (settings : Settings) (index : Index)

/-- Along an edge to the next head of the same loop. -/
def turn (moment : Moment) (edge : Edge) : Except CompileError Moment := do
  let first ← edgeActions settings index edge
  .ok ((moment.adding first).goingTo (.head edge.target))

def transition (moment : Moment) (node : Node) : Except CompileError Moment :=
  match index.outEdges node.id with
  | [] => .ok (moment.goingTo .finished)
  | [edge] => turn settings index moment edge
  | edges => .error (.severalOutgoing node.id edges.length)

/-- A new call at the target of an edge, while the sequence waits. -/
def calling (moment : Moment) (node : Node) (walker : Walker) (edge : Edge)
    (awaits : List Action → Awaits) : Except CompileError Moment := do
  let first ← edgeActions settings index edge
  .ok
    { path := moment.path, pending := ⟨moment.loop, node, awaits first⟩ :: moment.pending, walker,
      loop := {}, place := .head edge.target }

def sequenceHead (moment : Moment) (id : String) : Except CompileError Moment := do
  let node ← enter index false moment.path id
  let entered := moment.entering id (ownActions settings node)
  match node.role with
  | .finish | .join => .ok (entered.goingTo .finished)
  | .start | .step => transition settings index entered node
  | .branch => do
      let (onTrue, onFalse) ← branchSides index node
      .ok (entered.goingTo (.trueSide node onTrue onFalse))
  | .fork => do
      let join ← joinOf index node
      .ok (entered.goingTo (.lanes node join [] node.laneIds.eraseDups))

def laneHead (fork join : String) (moment : Moment) (id : String) : Except CompileError Moment :=
  if id = join then .ok (moment.goingTo .finished)
  else do
    let node ← enter index true moment.path id
    if node.role = .branch ∨ node.role = .fork then .error (.laneForks fork node.id join)
    else
      match index.outEdges node.id with
      | [] => .error (.laneEnds node.id join)
      | [edge] => turn settings index (moment.entering id (ownActions settings node)) edge
      | edges => .error (.laneSplits node.id edges.length)

/-- The record of a branch ends the sequence that it is in. -/
def closeBranch (moment : Moment) (node : Node) (whenTrue whenFalse : List Action) : Moment :=
  (moment.adding [.branch (node.textParam "condition") whenTrue whenFalse]).goingTo .finished

/-- The first of the lanes that are left, or the way on from the join. -/
def nextLane (moment : Moment) (fork join : Node) (groups : List (List Action)) :
    List String → Except CompileError Moment
  | [] => do
      let after ← enter index false moment.path join.id
      transition settings index (moment.entering join.id [.parallel groups]) after
  | id :: rest =>
      match (index.outEdges fork.id).find? (·.sourceHandle == some (LaneEnd.fork.handleOf id)) with
      | none => .ok (moment.goingTo (.lanes fork join groups rest))
      | some edge =>
          calling settings index moment fork (.lane fork.id join.id) edge
            (.lane join groups edge · rest)

/-- What a sequence that waits does with what is returned to it. -/
def resume (path : List String) (pending : List Call) (call : Call) (returned : List Action) :
    Moment :=
  let moment : Moment := ⟨path, pending, .sequence, call.loop, .finished⟩
  match call.awaits with
  | .whenTrue first onFalse => moment.goingTo (.falseSide call.node (first ++ returned) onFalse)
  | .whenFalse whenTrue first => closeBranch moment call.node whenTrue (first ++ returned)
  | .lane join groups edge first rest =>
      let actions := first ++ returned
      let others := if actions.isEmpty then [] else [guardLane settings edge actions]
      moment.goingTo (.lanes call.node join (groups ++ others) rest)

/-- The path without what a loop has entered. -/
def leaving (path entered : List String) : List String := path.filter fun id => id ∉ entered

/-- To the sequence that waits for the innermost call, or to whoever began. -/
def returning (path : List String) (actions : List Action) : List Call → Status
  | [] => .returned path actions
  | call :: pending => .running (resume settings path pending call actions)

/-- A call whose loop is over takes its ids off the path and returns. -/
def leave (moment : Moment) : Status :=
  returning settings (leaving moment.path moment.loop.entered) moment.loop.actions moment.pending

def Status.ofStep : Except CompileError Moment → Status
  | .ok moment => .running moment
  | .error error => .failed error

def step (moment : Moment) : Status :=
  match moment.place with
  | .head id =>
      match moment.walker with
      | .sequence => .ofStep (sequenceHead settings index moment id)
      | .lane fork join => .ofStep (laneHead settings index fork join moment id)
  | .trueSide node none onFalse => .running (moment.goingTo (.falseSide node [] onFalse))
  | .trueSide node (some edge) onFalse =>
      .ofStep (calling settings index moment node .sequence edge (.whenTrue · onFalse))
  | .falseSide node whenTrue none => .running (closeBranch moment node whenTrue [])
  | .falseSide node whenTrue (some edge) =>
      .ofStep (calling settings index moment node .sequence edge (.whenFalse whenTrue))
  | .lanes fork join groups rest => .ofStep (nextLane settings index moment fork join groups rest)
  | .finished => leave settings moment

inductive Steps : Status → Status → Prop where
  | step (moment : Moment) : Steps (.running moment) (step settings index moment)

def Runs : Status → Status → Prop := ReflTransGen (Steps settings index)

/-- A call by itself, with a path that is there already. -/
def called (walker : Walker) (path : List String) (id : String) : Status :=
  .running ⟨path, [], walker, {}, .head id⟩

def walk : Walker → List String → String → Except CompileError (List Action)
  | .sequence, path, id => sequence settings index path id
  | .lane fork join, path, id => lane settings index fork join path id

/-- How a call ends, with the path that it leaves. -/
def Status.ofOutcome (path : List String) : Except CompileError (List Action) → Status
  | .ok actions => .returned path actions
  | .error error => .failed error

/-- From a status on, the loop that is at a moment comes to its end with these actions more, and
with ids that were not on the path; or all fails with this error. -/
def Finishes (status : Status) (moment : Moment) : Except CompileError (List Action) → Prop
  | .ok rest => ∃ new, (∀ id ∈ new, id ∉ moment.path) ∧ Runs settings index status
      (.running ⟨new ++ moment.path, moment.pending, moment.walker,
        ⟨new ++ moment.loop.entered, moment.loop.actions ++ rest⟩, .finished⟩)
  | .error error => Runs settings index status (.failed error)

variable {settings index} {status : Status} {moment base : Moment}
  {outcome : Except CompileError (List Action)}

theorem Runs.of_step {after : Status}
    (run : Runs settings index (step settings index moment) after) :
    Runs settings index (.running moment) after :=
  .head (.step moment) run

namespace Finishes

theorem of_step (finishes : Finishes settings index (step settings index moment) base outcome) :
    Finishes settings index (.running moment) base outcome := by
  cases outcome with
  | ok rest =>
      obtain ⟨new, fresh, run⟩ := finishes
      exact ⟨new, fresh, run.of_step⟩
  | error error => exact Runs.of_step finishes

theorem of_runs {before : Status} (run : Runs settings index before status)
    (finishes : Finishes settings index status base outcome) :
    Finishes settings index before base outcome := by
  cases outcome with
  | ok rest =>
      obtain ⟨new, fresh, further⟩ := finishes
      exact ⟨new, fresh, run.trans further⟩
  | error error => exact run.trans finishes

theorem finished : Finishes settings index (.running (moment.goingTo .finished)) moment (.ok []) := by
  refine ⟨[], List.forall_mem_nil _, ?_⟩
  rw [List.append_nil]
  exact .refl

theorem failed (error : CompileError) :
    Finishes settings index (.failed error) moment (.error error) :=
  ReflTransGen.refl

theorem of_adding {first : List Action}
    (finishes : Finishes settings index status (moment.adding first) outcome) :
    Finishes settings index status moment ((first ++ ·) <$> outcome) := by
  cases outcome with
  | ok rest =>
      obtain ⟨new, fresh, run⟩ := finishes
      refine ⟨new, fresh, ?_⟩
      rw [← List.append_assoc]
      exact run
  | error error => exact finishes

theorem of_entering {id : String} {own : List Action} (unseen : id ∉ moment.path)
    (finishes : Finishes settings index status (moment.entering id own) outcome) :
    Finishes settings index status moment ((own ++ ·) <$> outcome) := by
  cases outcome with
  | ok rest =>
      obtain ⟨new, fresh, run⟩ := finishes
      refine ⟨new ++ [id], ?_, ?_⟩
      · intro other member
        rcases List.mem_append.mp member with later | here
        · exact fun old => fresh other later (List.mem_cons_of_mem id old)
        · exact List.mem_singleton.mp here ▸ unseen
      · simp only [Moment.entering] at run
        simp only [List.append_assoc, List.singleton_append]
        rw [← List.append_assoc moment.loop.actions]
        exact run
  | error error => exact finishes

end Finishes

section Calls

variable {walkOn : String → Except CompileError (List Action)}

theorem finishes_turn {edge : Edge} (beyond : ∀ first,
    Finishes settings index (.running ((moment.adding first).goingTo (.head edge.target)))
      (moment.adding first) (walkOn edge.target)) :
    Finishes settings index (.ofStep (turn settings index moment edge)) moment
      (along settings index walkOn edge) := by
  rw [turn, along]
  cases edgeActions settings index edge with
  | error error => exact .failed error
  | ok first => exact (beyond first).of_adding

theorem finishes_transition {node : Node} (beyond : ∀ (edge : Edge) first,
    Finishes settings index (.running ((moment.adding first).goingTo (.head edge.target)))
      (moment.adding first) (walkOn edge.target)) :
    Finishes settings index (.ofStep (transition settings index moment node)) moment
      (onward settings index walkOn node) := by
  rw [transition, onward]
  rcases index.outEdges node.id with _ | ⟨edge, _ | ⟨second, rest⟩⟩
  · exact .finished
  · exact finishes_turn (beyond edge)
  · exact .failed _

theorem leaving_append {new path : List String} (fresh : ∀ id ∈ new, id ∉ path) :
    leaving (new ++ path) new = path := by
  -- Nothing that was on the path before goes, since none of it was entered.
  have own : new.filter (fun id => id ∉ new) = [] := by simp
  have others : path.filter (fun id => id ∉ new) = path := by
    rw [List.filter_eq_self]
    intro id old
    simpa using fun again => fresh id again old
  rw [leaving, List.filter_append, own, others, List.nil_append]

/-- A call that returns leaves the path as it found it. -/
theorem Runs.leaves {new path : List String} {pending : List Call} {walker : Walker}
    {actions : List Action} (fresh : ∀ id ∈ new, id ∉ path)
    (run : Runs settings index status
      (.running ⟨new ++ path, pending, walker, ⟨new ++ [], actions⟩, .finished⟩)) :
    Runs settings index status (returning settings path actions pending) := by
  rw [List.append_nil] at run
  have left := @Steps.step settings index
    ⟨new ++ path, pending, walker, ⟨new, actions⟩, .finished⟩
  simp only [step, leave, leaving_append fresh] at left
  exact run.tail left

/-- From a status on, a sequence that waits at a node gets these actions, those of the first edge
among them, and finds the path as it left it; or all fails with this error. -/
def Answers (settings : Settings) (index : Index) (status : Status) (moment : Moment) (node : Node)
    (awaits : List Action → Awaits) : Except CompileError (List Action) → Prop
  | .ok actions => ∃ first rest, actions = first ++ rest ∧ Runs settings index status
      (.running (resume settings moment.path moment.pending ⟨moment.loop, node, awaits first⟩ rest))
  | .error error => Runs settings index status (.failed error)

theorem answers_calling {node : Node} {walker : Walker} {edge : Edge}
    {awaits : List Action → Awaits}
    (callee : ∀ pending, Finishes settings index
      (.running ⟨moment.path, pending, walker, {}, .head edge.target⟩)
      ⟨moment.path, pending, walker, {}, .head edge.target⟩ (walkOn edge.target)) :
    Answers settings index (.ofStep (calling settings index moment node walker edge awaits)) moment
      node awaits (along settings index walkOn edge) := by
  rw [calling, along]
  cases edgeActions settings index edge with
  | error error => exact .refl
  | ok first =>
      -- The loop that is called begins with nothing entered, so what it takes off is its own.
      have carried := callee (⟨moment.loop, node, awaits first⟩ :: moment.pending)
      cases beyond : walkOn edge.target with
      | error error =>
          rw [beyond] at carried
          exact carried
      | ok rest =>
          rw [beyond] at carried
          obtain ⟨new, fresh, run⟩ := carried
          exact ⟨first, rest, rfl, Runs.leaves fresh run⟩

/-- Where the actions of a call are gone on with, the loop comes to its end as what goes on does. -/
theorem Finishes.of_answers {node : Node} {awaits : List Action → Awaits}
    {called : Except CompileError (List Action)}
    {next : List Action → Except CompileError (List Action)}
    (answers : Answers settings index status moment node awaits called)
    (further : ∀ first rest, Finishes settings index
      (.running (resume settings moment.path moment.pending ⟨moment.loop, node, awaits first⟩ rest))
      base (next (first ++ rest))) :
    Finishes settings index status base (called >>= next) := by
  cases called with
  | error error => exact answers
  | ok actions =>
      obtain ⟨first, rest, rfl, run⟩ := answers
      exact .of_runs run (further first rest)

/-- From a status on, all lanes are walked and nothing else is left; or all fails. -/
def Gathers (settings : Settings) (index : Index) (status : Status)
    (gathered : List (List Action) → Moment) : Except CompileError (List (List Action)) → Prop
  | .ok groups => Runs settings index status (.running (gathered groups))
  | .error error => Runs settings index status (.failed error)

namespace Gathers

variable {gathered : List (List Action) → Moment} {groups : Except CompileError (List (List Action))}

theorem of_runs {before : Status} (run : Runs settings index before status)
    (gathers : Gathers settings index status gathered groups) :
    Gathers settings index before gathered groups := by
  cases groups with
  | ok groups => exact run.trans gathers
  | error error => exact run.trans gathers

theorem map {other : List (List Action) → Moment}
    {build : List (List Action) → List (List Action)}
    (same : ∀ more, gathered more = other (build more))
    (gathers : Gathers settings index status gathered groups) :
    Gathers settings index status other (groups >>= fun more => .ok (build more)) := by
  cases groups with
  | ok more =>
      rw [Gathers, same more] at gathers
      exact gathers
  | error error => exact gathers

theorem of_answers {node : Node} {awaits : List Action → Awaits}
    {called : Except CompileError (List Action)}
    {next : List Action → Except CompileError (List (List Action))}
    (answers : Answers settings index status moment node awaits called)
    (further : ∀ first rest, Gathers settings index
      (.running (resume settings moment.path moment.pending ⟨moment.loop, node, awaits first⟩ rest))
      gathered (next (first ++ rest))) :
    Gathers settings index status gathered (called >>= next) := by
  cases called with
  | error error => exact answers
  | ok actions =>
      obtain ⟨first, rest, rfl, run⟩ := answers
      exact (further first rest).of_runs run

theorem finishes {next : List (List Action) → Except CompileError (List Action)}
    (gathers : Gathers settings index status gathered groups)
    (further : ∀ more, Finishes settings index (.running (gathered more)) base (next more)) :
    Finishes settings index status base (groups >>= next) := by
  cases groups with
  | ok more => exact .of_runs gathers (further more)
  | error error => exact gathers

end Gathers

end Calls

section Walks

variable {graph : Graph} {path : List String} {pending : List Call} {loop : Loop} {id : String}
  {node : Node}

theorem laneHead_of_found {fork join : String} (apart : id ≠ join) (fresh : id ∉ moment.path)
    (found : graph.nodeAt? id = some node) :
    laneHead settings (.ofGraph graph) fork join moment id =
      if node.role = .branch ∨ node.role = .fork then .error (.laneForks fork id join)
      else
        match graph.outEdges id with
        | [] => .error (.laneEnds id join)
        | [edge] =>
            turn settings (.ofGraph graph) (moment.entering id (ownActions settings node)) edge
        | edges => .error (.laneSplits id edges.length) := by
  have entered : enter (.ofGraph graph) true moment.path id = .ok node := enter_of_fresh fresh found
  rw [laneHead, if_neg apart, entered, ← Graph.id_of_nodeAt? found, ← Index.outEdges_scan]
  rfl

theorem sequenceHead_of_found (fresh : id ∉ moment.path) (found : graph.nodeAt? id = some node) :
    sequenceHead settings (.ofGraph graph) moment id =
      (let entered := moment.entering id (ownActions settings node)
      match node.role with
      | .finish | .join => .ok (entered.goingTo .finished)
      | .start | .step => transition settings (.ofGraph graph) entered node
      | .branch => do
          let (onTrue, onFalse) ← branchSides (.ofGraph graph) node
          .ok (entered.goingTo (.trueSide node onTrue onFalse))
      | .fork => do
          let join ← joinOf (.ofGraph graph) node
          .ok (entered.goingTo (.lanes node join [] node.laneIds.eraseDups))) := by
  have entered : enter (.ofGraph graph) false moment.path id = .ok node :=
    enter_of_fresh fresh found
  rw [sequenceHead, entered]
  rfl

/-- A lane comes to its end as the walk of the lane does. -/
theorem finishes_lane {fork join : String} :
    Finishes settings (.ofGraph graph) (.running ⟨path, pending, .lane fork join, loop, .head id⟩)
      ⟨path, pending, .lane fork join, loop, .head id⟩
      (lane settings (.ofGraph graph) fork join path id) := by
  apply Finishes.of_step
  change Finishes settings (.ofGraph graph) (.ofStep (laneHead settings (.ofGraph graph) fork join
    ⟨path, pending, .lane fork join, loop, .head id⟩ id)) _ _
  -- The cases of the lane itself, at any state of its loop: what it has so far only grows.
  induction path, id using lane.induct (.ofGraph graph) join generalizing loop with
  | case1 path =>
      rw [laneHead, lane, if_pos rfl, if_pos rfl]
      exact .finished
  | case2 path id apart error refused =>
      rw [lane_of_error apart refused, laneHead, if_neg apart, refused]
      exact .failed error
  | case3 path id apart node entered bent =>
      obtain ⟨fresh, found⟩ := fresh_of_enter entered
      rw [lane_of_found apart fresh found, laneHead_of_found apart fresh found, if_pos bent,
        if_pos bent]
      exact .failed _
  | case4 path id apart node entered flat deadEnd =>
      obtain ⟨fresh, found⟩ := fresh_of_enter entered
      rw [outEdges_of_enter entered] at deadEnd
      rw [lane_of_found apart fresh found, laneHead_of_found apart fresh found, if_neg flat,
        if_neg flat, deadEnd]
      exact .failed _
  | case5 path id apart node entered flat edge way ih =>
      obtain ⟨fresh, found⟩ := fresh_of_enter entered
      rw [outEdges_of_enter entered] at way
      rw [lane_of_found apart fresh found, laneHead_of_found apart fresh found, if_neg flat,
        if_neg flat, way]
      exact .of_entering fresh (finishes_turn fun first => .of_step (ih edge.target))
  | case6 path id apart node entered flat some several =>
      obtain ⟨fresh, found⟩ := fresh_of_enter entered
      rw [outEdges_of_enter entered] at some several
      rw [lane_of_found apart fresh found, laneHead_of_found apart fresh found, if_neg flat,
        if_neg flat]
      rcases ways : graph.outEdges id with _ | ⟨edge, _ | ⟨second, rest⟩⟩
      · exact (some ways).elim
      · exact (several edge ways).elim
      · exact .failed _

section Sides

variable {walkOn : String → Except CompileError (List Action)} {whenTrue : List Action}

/-- The false side is walked, and the record of the branch ends the sequence. -/
theorem finishes_falseSide (onFalse : Option Edge)
    (callee : ∀ next pending, Finishes settings index
      (.running ⟨path, pending, .sequence, {}, .head next⟩)
      ⟨path, pending, .sequence, {}, .head next⟩ (walkOn next)) :
    Finishes settings index
      (.running ⟨path, pending, .sequence, loop, .falseSide node whenTrue onFalse⟩)
      ⟨path, pending, .sequence, loop, .falseSide node whenTrue onFalse⟩
      (do
        let whenFalse ← side settings index walkOn onFalse
        .ok [.branch (node.textParam "condition") whenTrue whenFalse]) := by
  apply Finishes.of_step
  cases onFalse with
  | none => exact Finishes.of_adding .finished
  | some edge =>
      let moment : Moment :=
        ⟨path, pending, .sequence, loop, .falseSide node whenTrue (some edge)⟩
      have answers := @answers_calling settings index moment walkOn node .sequence edge
        (.whenFalse whenTrue) (callee edge.target)
      exact .of_answers answers fun first rest => Finishes.of_adding .finished

/-- The true side is walked, and then the false side. -/
theorem finishes_trueSide (node : Node) (onTrue onFalse : Option Edge)
    (callee : ∀ next pending, Finishes settings index
      (.running ⟨path, pending, .sequence, {}, .head next⟩)
      ⟨path, pending, .sequence, {}, .head next⟩ (walkOn next)) :
    Finishes settings index
      (.running ⟨path, pending, .sequence, loop, .trueSide node onTrue onFalse⟩)
      ⟨path, pending, .sequence, loop, .trueSide node onTrue onFalse⟩
      (do
        let whenTrue ← side settings index walkOn onTrue
        let whenFalse ← side settings index walkOn onFalse
        .ok [.branch (node.textParam "condition") whenTrue whenFalse]) := by
  apply Finishes.of_step
  cases onTrue with
  | none => exact finishes_falseSide onFalse callee
  | some edge =>
      let moment : Moment :=
        ⟨path, pending, .sequence, loop, .trueSide node (some edge) onFalse⟩
      have answers := @answers_calling settings index moment walkOn node .sequence edge
        (.whenTrue · onFalse) (callee edge.target)
      exact .of_answers answers fun first rest => finishes_falseSide onFalse callee

theorem nextLane_of_none {fork join : Node} {groups : List (List Action)} {rest : List String}
    (closed : graph.laneEdge fork.id id = none) :
    nextLane settings (.ofGraph graph) moment fork join groups (id :: rest) =
      .ok (moment.goingTo (.lanes fork join groups rest)) := by
  have first : ((Index.ofGraph graph).outEdges fork.id).find?
      (·.sourceHandle == some (LaneEnd.fork.handleOf id)) = none := by
    rw [Index.outEdges_scan]
    exact closed
  rw [nextLane, first]

theorem nextLane_of_some {fork join : Node} {groups : List (List Action)} {rest : List String}
    {edge : Edge} (begins : graph.laneEdge fork.id id = some edge) :
    nextLane settings (.ofGraph graph) moment fork join groups (id :: rest) =
      calling settings (.ofGraph graph) moment fork (.lane fork.id join.id) edge
        (.lane join groups edge · rest) := by
  have first : ((Index.ofGraph graph).outEdges fork.id).find?
      (·.sourceHandle == some (LaneEnd.fork.handleOf id)) = some edge := by
    rw [Index.outEdges_scan]
    exact begins
  rw [nextLane, first]

/-- The lanes that are left are walked one by one, each with the path that the first one found. -/
theorem gathers_lanes {fork join : Node} {groups : List (List Action)} {ids : List String}
    (callee : ∀ next pending, Finishes settings (.ofGraph graph)
      (.running ⟨path, pending, .lane fork.id join.id, {}, .head next⟩)
      ⟨path, pending, .lane fork.id join.id, {}, .head next⟩ (walkOn next)) :
    Gathers settings (.ofGraph graph)
      (.running ⟨path, pending, .sequence, loop, .lanes fork join groups ids⟩)
      (fun more => ⟨path, pending, .sequence, loop, .lanes fork join (groups ++ more) []⟩)
      (lanes settings (.ofGraph graph) walkOn (graph.outEdges fork.id) ids) := by
  -- The groups of the lanes that are done already stand in front.
  induction ids generalizing groups with
  | nil =>
      rw [lanes, Gathers, List.append_nil]
      exact .refl
  | cons id rest ih =>
      let moment : Moment :=
        ⟨path, pending, .sequence, loop, .lanes fork join groups (id :: rest)⟩
      have begins : Steps settings (.ofGraph graph) (.running moment) (.ofStep
        (nextLane settings (.ofGraph graph) moment fork join groups (id :: rest))) := .step moment
      cases first : graph.laneEdge fork.id id with
      | none =>
          rw [nextLane_of_none first] at begins
          rw [lanes_cons_of_none first]
          exact (@ih groups).of_runs (.single begins)
      | some edge =>
          have answers := @answers_calling settings (.ofGraph graph) moment walkOn fork
            (.lane fork.id join.id) edge (.lane join groups edge · rest) (callee edge.target)
          rw [← nextLane_of_some first] at answers
          rw [lanes_cons_of_some first]
          refine .of_runs (.single begins) (.of_answers answers fun here beyond => ?_)
          let own := if (here ++ beyond).isEmpty then []
            else [guardLane settings edge (here ++ beyond)]
          have own_append (more : List (List Action)) : own ++ more =
              if (here ++ beyond).isEmpty then more
              else guardLane settings edge (here ++ beyond) :: more := by
            rw [apply_ite (· ++ more)]
            rfl
          refine (@ih (groups ++ own)).map fun more => ?_
          rw [List.append_assoc, own_append]

/-- All lanes are walked, and the sequence goes on from the join. -/
theorem finishes_lanes (fork : Node) {join : Node} (ids : List String)
    (callee : ∀ after, enter (.ofGraph graph) false path join.id = .ok after →
      ∀ next onLoop, Finishes settings (.ofGraph graph)
        (.running ⟨join.id :: path, pending, .sequence, onLoop, .head next⟩)
        ⟨join.id :: path, pending, .sequence, onLoop, .head next⟩ (walkOn next)) :
    Finishes settings (.ofGraph graph)
      (.running ⟨path, pending, .sequence, loop, .lanes fork join [] ids⟩)
      ⟨path, pending, .sequence, loop, .lanes fork join [] ids⟩
      (do
        let groups ← lanes settings (.ofGraph graph)
          (lane settings (.ofGraph graph) fork.id join.id path) (graph.outEdges fork.id) ids
        let after ← enter (.ofGraph graph) false path join.id
        let rest ← onward settings (.ofGraph graph) walkOn after
        .ok (.parallel groups :: rest)) := by
  have gathers := @gathers_lanes settings graph path pending loop
    (lane settings (.ofGraph graph) fork.id join.id path) fork join [] ids
    fun next pending => finishes_lane
  refine gathers.finishes fun groups => .of_step ?_
  let moment : Moment := ⟨path, pending, .sequence, loop, .lanes fork join groups []⟩
  change Finishes settings (.ofGraph graph)
    (.ofStep (nextLane settings (.ofGraph graph) moment fork join groups [])) _ _
  rw [nextLane]
  cases resumed : enter (.ofGraph graph) false path join.id with
  | error error => exact .failed error
  | ok after =>
      have onwards := @finishes_transition settings (.ofGraph graph)
        (moment.entering join.id [.parallel groups]) walkOn after
        fun edge first => callee after resumed edge.target _
      exact .of_entering (fresh_of_enter resumed).1 onwards

end Sides

/-- A sequence comes to its end as the walk of the sequence does. -/
theorem finishes_sequence :
    Finishes settings (.ofGraph graph) (.running ⟨path, pending, .sequence, loop, .head id⟩)
      ⟨path, pending, .sequence, loop, .head id⟩
      (sequence settings (.ofGraph graph) path id) := by
  apply Finishes.of_step
  change Finishes settings (.ofGraph graph) (.ofStep (sequenceHead settings (.ofGraph graph)
    ⟨path, pending, .sequence, loop, .head id⟩ id)) _ _
  -- For any calls that wait: a side of a branch is a sequence with one call more beneath it.
  induction path, id using sequence.induct (.ofGraph graph) generalizing pending loop with
  | case1 path id error refused =>
      rw [sequence_of_error refused, sequenceHead, refused]
      exact .failed error
  | case2 path id node entered role | case3 path id node entered role =>
      obtain ⟨fresh, found⟩ := fresh_of_enter entered
      rw [sequence_of_found fresh found, sequenceHead_of_found fresh found, role]
      have ended : (ownActions settings node ++ ·) <$> (.ok [] : Except CompileError _) =
          .ok (ownActions settings node) := congrArg Except.ok (List.append_nil _)
      exact ended ▸ .of_entering fresh .finished
  | case4 path id node entered role ih | case5 path id node entered role ih =>
      obtain ⟨fresh, found⟩ := fresh_of_enter entered
      rw [sequence_of_found fresh found, sequenceHead_of_found fresh found, role]
      exact .of_entering fresh (finishes_transition fun edge first => .of_step (ih edge.target))
  | case6 path id node entered role ih =>
      obtain ⟨fresh, found⟩ := fresh_of_enter entered
      rw [sequence_of_found fresh found, sequenceHead_of_found fresh found, role]
      cases branchSides (.ofGraph graph) node with
      | error error => exact .failed error
      | ok ways =>
          let moment : Moment := ⟨path, pending, .sequence, loop, .head id⟩
          have sides := @Finishes.of_entering _ _ _ moment _ id (ownActions settings node) fresh
            (finishes_trueSide node ways.1 ways.2 fun next pending => .of_step (ih next))
          -- What the sequence has before the branch goes in front of the record, after both sides.
          simp only [map_bind] at sides
          exact sides
  | case7 path id node entered role ih =>
      obtain ⟨fresh, found⟩ := fresh_of_enter entered
      obtain rfl := Graph.id_of_nodeAt? found
      rw [sequence_of_found fresh found, sequenceHead_of_found fresh found, role]
      cases joinOf (.ofGraph graph) node with
      | error error => exact .failed error
      | ok join =>
          let moment : Moment := ⟨path, pending, .sequence, loop, .head node.id⟩
          have onwards := @Finishes.of_entering _ _ _ moment _ node.id (ownActions settings node)
            fresh (finishes_lanes node node.laneIds.eraseDups fun after resumed next onLoop =>
              .of_step (ih join after resumed next))
          simp only [map_bind] at onwards
          exact onwards

theorem finishes_walk (walker : Walker) (path : List String) (pending : List Call) (id : String) :
    Finishes settings (.ofGraph graph) (.running ⟨path, pending, walker, {}, .head id⟩)
      ⟨path, pending, walker, {}, .head id⟩ (walk settings (.ofGraph graph) walker path id) := by
  cases walker with
  | sequence => exact finishes_sequence
  | lane fork join => exact finishes_lane

/-- A call that succeeds returns what the walk returns, with the path that it found. -/
theorem runs_returning {walker : Walker} {actions : List Action}
    (succeeded : walk settings (.ofGraph graph) walker path id = .ok actions) :
    Runs settings (.ofGraph graph) (.running ⟨path, pending, walker, {}, .head id⟩)
      (returning settings path actions pending) := by
  have finishes := @finishes_walk settings graph walker path pending id
  rw [succeeded] at finishes
  obtain ⟨new, fresh, run⟩ := finishes
  exact Runs.leaves fresh run

/-- A call by itself comes to the outcome of the walk, and to the path with which it began. -/
theorem runs_called (walker : Walker) (path : List String) (id : String) :
    Runs settings (.ofGraph graph) (called walker path id)
      (.ofOutcome path (walk settings (.ofGraph graph) walker path id)) := by
  cases reached : walk settings (.ofGraph graph) walker path id with
  | error error =>
      have finishes := @finishes_walk settings graph walker path [] id
      rw [reached] at finishes
      exact finishes
  | ok actions => exact runs_returning reached

end Walks

section Determinism

variable {before after other : Status}

def Status.Halted : Status → Prop
  | .running _ => False
  | .returned _ _ | .failed _ => True

theorem halted_ofOutcome (path : List String) (outcome : Except CompileError (List Action)) :
    (Status.ofOutcome path outcome).Halted := by
  cases outcome <;> trivial

theorem Steps.unique (one : Steps settings index before after)
    (another : Steps settings index before other) : after = other := by
  cases one
  cases another
  rfl

theorem Runs.eq_of_halted (run : Runs settings index before after) (halted : before.Halted) :
    after = before := by
  rcases run.cases_head with same | ⟨middle, first, -⟩
  · exact same.symm
  · cases first
    exact halted.elim

/-- Whatever a run comes to on the way to its end, it goes on from there to the same end. -/
theorem Runs.to_end (ends : Runs settings index before after) (halted : after.Halted)
    (run : Runs settings index before other) : Runs settings index other after := by
  rcases run.total_of_right_unique (fun _ _ _ one another => one.unique another) ends with
    further | back
  · exact further
  · exact Runs.eq_of_halted back halted ▸ .refl

/-- A run that has an end has no way to go on for ever. -/
theorem Runs.acc (ends : Runs settings index before after) (halted : after.Halted) :
    Acc (fun later earlier => Steps settings index earlier later) before := by
  induction ends using ReflTransGen.head_induction_on with
  | refl =>
      refine ⟨_, fun later step => ?_⟩
      cases step
      exact halted.elim
  | head step _ ih => exact ⟨_, fun later again => step.unique again ▸ ih⟩

end Determinism

end SceneScript.Compile
