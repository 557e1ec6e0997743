import SceneScript.Action.Basic
import SceneScript.Compile.Error
import SceneScript.Graph.Lane
import SceneScript.Graph.Index
import SceneScript.Graph.Unseen
import SceneScript.Settings.Basic

/-!
From a graph to its action list. The walk follows single edges from the start; both sides of a
branch and all lanes of a fork are walked on their own, and after a fork the walk resumes at its
join. `path` holds the ids entered so far on the way to a node. None is entered twice, so every
walk ends: each step leaves fewer ids to enter.
-/

namespace SceneScript.Compile

variable (settings : Settings) (index : Index)

def marks (node : Node) : List Action :=
  if settings.markNamedNodes && node.displayName != "" then [.mark node.displayName] else []

/-- What a node without sides or lanes contributes by itself. A join leaves no mark. -/
def ownActions (node : Node) : List Action :=
  match node.role with
  | .join => []
  | .step => marks settings node ++ [.ofNode node]
  | _ => marks settings node

/-- The wait of an edge, under its guard. -/
def waitActions (edge : Edge) : List Action :=
  match edge.wait? with
  | some seconds => Action.underGuard settings.globalVarPrefix edge [.wait seconds]
  | none => []

def edgeActions (edge : Edge) : Except CompileError (List Action) :=
  if index.hasNode edge.target then .ok (waitActions settings edge)
  else .error (.unknownTarget edge.id edge.target)

def enter (inLane : Bool) (path : List String) (id : String) : Except CompileError Node :=
  if id ∈ path then .error (.cycle id inLane)
  else
    match index.node? id with
    | some node => .ok node
    | none => .error (.unknownNode id)

/-- Goes along an edge, and on from its target. -/
def along (walk : String → Except CompileError (List Action)) (edge : Edge) :
    Except CompileError (List Action) := do
  let first ← edgeActions settings index edge
  let rest ← walk edge.target
  .ok (first ++ rest)

/-- Goes on from a node that has one way on, or none. -/
def onward (walk : String → Except CompileError (List Action)) (node : Node) :
    Except CompileError (List Action) :=
  match index.outEdges node.id with
  | [] => .ok []
  | [edge] => along settings index walk edge
  | edges => .error (.severalOutgoing node.id edges.length)

/-- The edges of the two sides of a branch. Those on neither output fill the sides left open. -/
def sides (edges : List Edge) : Option Edge × Option Edge :=
  let onTrue := edges.find? (·.sourceHandle == some "out_true")
  let onFalse := edges.find? (·.sourceHandle == some "out_false")
  let others := edges.filter fun edge =>
    edge.sourceHandle != some "out_true" && edge.sourceHandle != some "out_false"
  match onTrue with
  | some edge => (some edge, onFalse <|> others.head?)
  | none => (others.head?, onFalse <|> others.tail.head?)

def branchSides (node : Node) : Except CompileError (Option Edge × Option Edge) :=
  let edges := index.outEdges node.id
  let count (handle : String) : Nat := edges.countP (·.sourceHandle == some handle)
  if 2 < edges.length then .error (.branchEdges node.id edges.length)
  else if 1 < count "out_true" ∨ 1 < count "out_false" then .error (.branchOutput node.id)
  else .ok (sides edges)

def side (walk : String → Except CompileError (List Action)) :
    Option Edge → Except CompileError (List Action)
  | some edge => along settings index walk edge
  | none => .ok []

def joinOf (fork : Node) : Except CompileError Node :=
  let id := fork.textParam "joinId"
  if id = "" then .error (.noJoin fork.id)
  else
    match index.node? id with
    | none => .error (.unknownJoin fork.id id)
    | some join => if join.role = .join then .ok join else .error (.wrongJoin fork.id id)

/-- Without a wait to hold back, the guard of the first edge holds back the whole lane. -/
def guardLane (edge : Edge) (actions : List Action) : List Action :=
  if edge.wait?.isNone then Action.underGuard settings.globalVarPrefix edge actions else actions

/-- The lanes of a fork in the order of their ids. A lane without an edge, or with nothing to do,
is left out. -/
def lanes (walk : String → Except CompileError (List Action)) (edges : List Edge) :
    List String → Except CompileError (List (List Action))
  | [] => .ok []
  | id :: rest =>
      match edges.find? (·.sourceHandle == some (LaneEnd.fork.handleOf id)) with
      | none => lanes walk edges rest
      | some edge => do
          let actions ← along settings index walk edge
          let others ← lanes walk edges rest
          .ok (if actions.isEmpty then others else guardLane settings edge actions :: others)

theorem enter_eq_ok_iff {inLane : Bool} {path : List String} {id : String} {node : Node} :
    enter index inLane path id = .ok node ↔ id ∉ path ∧ index.node? id = some node := by
  unfold enter
  by_cases old : id ∈ path
  · simp [old]
  · cases found : index.node? id <;> simp [old]

/-- The ids that a walk may still enter. -/
def remaining (path : List String) : Nat := unseen (Table.keys index.nodes) path

theorem remaining_lt {inLane : Bool} {path : List String} {id : String} {node : Node}
    (entered : enter index inLane path id = .ok node) :
    remaining index (id :: path) < remaining index path := by
  obtain ⟨fresh, found⟩ := (enter_eq_ok_iff index).1 entered
  refine unseen_cons_lt ((Table.mem_keys_iff index.nodes id).2 ?_) fresh
  simp only [Index.node?] at found
  simp [found]

/-- From a node of a lane up to the join, by single edges only. -/
def lane (fork join : String) (path : List String) (id : String) :
    Except CompileError (List Action) :=
  if id = join then .ok []
  else
    match _entered : enter index true path id with
    | .error error => .error error
    | .ok node =>
        if node.role = .branch ∨ node.role = .fork then .error (.laneForks fork node.id join)
        else
          match index.outEdges node.id with
          | [] => .error (.laneEnds node.id join)
          | [edge] => do
              let rest ← along settings index (fun next => lane fork join (id :: path) next) edge
              .ok (ownActions settings node ++ rest)
          | edges => .error (.laneSplits node.id edges.length)
termination_by remaining index path
decreasing_by exact remaining_lt index _entered

def sequence (path : List String) (id : String) : Except CompileError (List Action) :=
  match _entered : enter index false path id with
  | .error error => .error error
  | .ok node =>
      match node.role with
      | .finish | .join => .ok (ownActions settings node)
      | .start | .step => do
          let rest ← onward settings index (fun next => sequence (id :: path) next) node
          .ok (ownActions settings node ++ rest)
      | .branch => do
          let (onTrue, onFalse) ← branchSides index node
          let whenTrue ← side settings index (fun next => sequence (id :: path) next) onTrue
          let whenFalse ← side settings index (fun next => sequence (id :: path) next) onFalse
          let record := Action.branch (node.textParam "condition") whenTrue whenFalse
          .ok (ownActions settings node ++ [record])
      | .fork => do
          let join ← joinOf index node
          let walk := lane settings index node.id join.id (id :: path)
          let groups ← lanes settings index walk (index.outEdges node.id) node.laneIds.eraseDups
          match _resumed : enter index false (id :: path) join.id with
          | .error error => .error error
          | .ok after => do
              let rest ←
                onward settings index (fun next => sequence (join.id :: id :: path) next) after
              .ok (ownActions settings node ++ .parallel groups :: rest)
termination_by remaining index path
decreasing_by
  all_goals first
    | exact remaining_lt index _entered
    | exact Nat.lt_trans (remaining_lt index _resumed) (remaining_lt index _entered)

end Compile

def compile (settings : Settings) (graph : Graph) : Except CompileError (List Action) :=
  match graph.withRole .start with
  | [] => .error .noStart
  | [start] =>
      if (graph.withRole .finish).isEmpty then .error .noEnd
      else Compile.sequence settings (Index.ofGraph graph) [] start.id
  | starts => .error (.severalStarts (starts.map Node.id))

end SceneScript
