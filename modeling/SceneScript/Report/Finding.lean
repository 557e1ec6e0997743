import SceneScript.Graph.Lane

/-!
What a report can say about a scene. A finding is a cause; its severity, the node or edge that it
is about and its wording are read off the cause. Errors keep a scene from being exported.
-/

namespace SceneScript

inductive Severity where
  | error
  | warning
  | tip
  deriving DecidableEq, Repr

def Severity.label : Severity → String
  | error => "error"
  | warning => "warn"
  | tip => "tip"

inductive LaneProblem where
  | repeatedIds
  | noHandle (edge : String)
  | oddHandle (edge handle : String)
  | undeclared (edge lane : String)
  | unused (lane : String)
  | crowded (lane : String) (edges : Nat)
  deriving DecidableEq, Repr

namespace LaneProblem

def edgeId? : LaneProblem → Option String
  | noHandle edge => some edge
  | oddHandle edge _ => some edge
  | undeclared edge _ => some edge
  | _ => none

def message (laneEnd : LaneEnd) (node : String) (problem : LaneProblem) : String :=
  let label := laneEnd.handleName
  s!"{laneEnd.type} \"{node}\" has " ++
    match problem with
    | repeatedIds => "duplicate branch ids in params.branches."
    | noHandle edge => s!"edge \"{edge}\" without {label}."
    | oddHandle edge handle => s!"edge \"{edge}\" with unexpected {label} \"{handle}\"."
    | undeclared edge lane =>
        s!"edge \"{edge}\" for branch \"{lane}\" not listed in params.branches."
    | unused lane => s!"branch \"{lane}\" without {laneEnd.direction} edge."
    | crowded lane edges =>
        s!"{edges} {laneEnd.direction} edges for branch \"{lane}\"; expected 1."

end LaneProblem

inductive GuardProblem where
  | noVariable
  | markedVariable (mark : String)
  | noEquals
  | unknownPolicy (policy : String)
  | noEndVariable
  | markedEndVariable (mark : String)
  | noEndEquals
  | noEndNode
  | unknownEndNode (name : String)
  | noTimeout
  | unknownStop (condition : String)
  deriving DecidableEq, Repr

def GuardProblem.message : GuardProblem → String
  | noVariable => "Condition is enabled, but Variable is empty."
  | markedVariable mark =>
      s!"Variable should be without \"{mark}\" prefix (write just the key)."
  | noEquals => "Condition is enabled, but Equals is empty."
  | unknownPolicy policy =>
      s!"Unknown \"if false\" policy \"{policy}\" " ++
        "(expected one of ['skip', 'wait_until_true'])."
  | noEndVariable => "Stop-waiting \"global_var\" is set, but End Variable is empty."
  | markedEndVariable mark => s!"End Variable should be without \"{mark}\" prefix."
  | noEndEquals => "Stop-waiting \"global_var\" is set, but End Equals is empty."
  | noEndNode => "Stop-waiting \"node_reached\" is set, but Node name is empty."
  | unknownEndNode name => s!"Stop-waiting node \"{name}\" not found in graph."
  | noTimeout => "Stop-waiting \"timeout\" is set, but Timeout is empty or zero."
  | unknownStop condition => s!"Unknown stop-waiting condition \"{condition}\"."

inductive Finding where
  | unnamed (node type : String)
  | sharedName (node name : String) (users : List String)
  | noStart
  | severalStarts (count : Nat)
  | noEnd
  | startEntered (node : String) (edges : Nat)
  | startStuck (node : String)
  | endLeft (node : String) (edges : Nat)
  | disconnected (node type : String)
  | noIncoming (node type : String)
  | severalOutgoing (node type : String) (edges : Nat)
  | missingField (node type field : String)
  | noSprite (node : String)
  | noFalseSide (node : String)
  | unreadableArgs (node : String)
  | noJoin (node : String)
  | unknownJoin (node join : String)
  | wrongJoin (node join type : String)
  | noFork (node : String)
  | unknownFork (node fork : String)
  | wrongFork (node fork : String)
  | lanesDiffer (node fork : String) (own others : List String)
  | lane (laneEnd : LaneEnd) (node : String) (problem : LaneProblem)
  | unknownSource (edge source : String)
  | unknownTarget (edge target : String)
  | negativeWait (edge seconds : String)
  | guard (edge : String) (problem : GuardProblem)
  | unreachable (node type : String)
  | noEndReachable
  deriving DecidableEq, Repr

namespace Finding

def severity : Finding → Severity
  | noStart => .error
  | severalStarts _ => .error
  | noEnd => .error
  | startStuck _ => .error
  | noJoin _ => .error
  | unknownJoin _ _ => .error
  | wrongJoin _ _ _ => .error
  | unknownFork _ _ => .error
  | unknownSource _ _ => .error
  | unknownTarget _ _ => .error
  | noEndReachable => .error
  | unnamed _ _ => .tip
  | sharedName _ _ _ => .tip
  | noFalseSide _ => .tip
  | _ => .warning

def nodeId? : Finding → Option String
  | noStart => none
  | severalStarts _ => none
  | noEnd => none
  | unknownSource _ _ => none
  | unknownTarget _ _ => none
  | negativeWait _ _ => none
  | guard _ _ => none
  | noEndReachable => none
  | unnamed node _ => some node
  | sharedName node _ _ => some node
  | startEntered node _ => some node
  | startStuck node => some node
  | endLeft node _ => some node
  | disconnected node _ => some node
  | noIncoming node _ => some node
  | severalOutgoing node _ _ => some node
  | missingField node _ _ => some node
  | noSprite node => some node
  | noFalseSide node => some node
  | unreadableArgs node => some node
  | noJoin node => some node
  | unknownJoin node _ => some node
  | wrongJoin node _ _ => some node
  | noFork node => some node
  | unknownFork node _ => some node
  | wrongFork node _ => some node
  | lanesDiffer node _ _ _ => some node
  | lane _ node _ => some node
  | unreachable node _ => some node

def edgeId? : Finding → Option String
  | lane _ _ problem => problem.edgeId?
  | unknownSource edge _ => some edge
  | unknownTarget edge _ => some edge
  | negativeWait edge _ => some edge
  | guard edge _ => some edge
  | _ => none

def quotedList (ids : List String) : String := (Json.arr (ids.map Json.str)).quoted

def message : Finding → String
  | unnamed node type => s!"Node \"{node}\" ({type}) has empty name."
  | sharedName _ name users =>
      let list := String.intercalate ", " users
      s!"Node name \"{name}\" is used by {users.length} nodes ({list})."
  | noStart => "Graph has no \"start\" node."
  | severalStarts count => s!"Graph has {count} \"start\" nodes; only 1 is allowed."
  | noEnd => "Graph has no \"end\" node."
  | startEntered node edges =>
      s!"\"start\" node \"{node}\" has {edges} incoming edge(s); start should have none."
  | startStuck node =>
      s!"\"start\" node \"{node}\" has no outgoing edges; graph cannot proceed."
  | endLeft node edges =>
      s!"\"end\" node \"{node}\" has {edges} outgoing edge(s); end should have none."
  | disconnected node type => s!"Node \"{node}\" ({type}) is disconnected; no edges at all."
  | noIncoming node type =>
      s!"Node \"{node}\" ({type}) has no incoming edges; unreachable from start."
  | severalOutgoing node type edges =>
      s!"Node \"{node}\" ({type}) has {edges} outgoing edges; only 1 expected."
  | missingField node type field =>
      s!"Node \"{node}\" ({type}): required field \"{field}\" is empty."
  | noSprite node =>
      s!"Node \"{node}\" (actor_create): neither \"sprite_or_object\" nor \"copy_from\" " ++
        "is set; engine will use default object."
  | noFalseSide node =>
      s!"Branch \"{node}\" has no \"false\" output; if condition is false, " ++
        "nothing will happen."
  | unreadableArgs node => s!"Node \"{node}\" (run_function): args is not valid JSON."
  | noJoin node => s!"parallel_start \"{node}\" has no joinId; missing parallel_join pair."
  | unknownJoin node join =>
      s!"parallel_start \"{node}\" references joinId \"{join}\" which does not exist."
  | wrongJoin node join type =>
      s!"parallel_start \"{node}\" references joinId \"{join}\" which is a \"{type}\" node, " ++
        "not parallel_join."
  | noFork node => s!"parallel_join \"{node}\" has no pairId; orphaned join node."
  | unknownFork node fork =>
      s!"parallel_join \"{node}\" references pairId \"{fork}\" which does not exist."
  | wrongFork node fork =>
      s!"parallel_join \"{node}\" pairId \"{fork}\" does not point back to this join."
  | lanesDiffer node fork own others =>
      s!"parallel_join \"{node}\" declares branches {quotedList own} " ++
        s!"but parallel_start \"{fork}\" declares {quotedList others}."
  | lane laneEnd node problem => problem.message laneEnd node
  | unknownSource edge source =>
      s!"Edge \"{edge}\" references source \"{source}\" which does not exist."
  | unknownTarget edge target =>
      s!"Edge \"{edge}\" references target \"{target}\" which does not exist."
  | negativeWait edge seconds => s!"Edge \"{edge}\" has negative waitSeconds ({seconds})."
  | guard edge problem => s!"Edge \"{edge}\": {problem.message}"
  | unreachable node type => s!"Node \"{node}\" ({type}) is unreachable from start."
  | noEndReachable =>
      "No \"end\" node is reachable from \"start\"; graph has no valid path to completion."

end Finding

end SceneScript
