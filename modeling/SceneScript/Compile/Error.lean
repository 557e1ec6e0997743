/-!
Why a graph has no action list. Each cause names the node or edge to mend, and is of one of three
kinds: the shape of the graph, a reference to something that does not exist, or a cycle.
-/

namespace SceneScript

inductive CompileErrorKind where
  | structural
  | referential
  | cycle
  deriving DecidableEq, Repr

def CompileErrorKind.label : CompileErrorKind → String
  | structural => "structural"
  | referential => "referential"
  | cycle => "cycle"

inductive CompileError where
  | noStart
  | severalStarts (nodes : List String)
  | noEnd
  | cycle (node : String) (inLane : Bool)
  | unknownNode (node : String)
  | unknownTarget (edge target : String)
  | severalOutgoing (node : String) (edges : Nat)
  | branchEdges (node : String) (edges : Nat)
  | branchOutput (node : String)
  | noJoin (fork : String)
  | unknownJoin (fork join : String)
  | wrongJoin (fork join : String)
  | laneForks (fork node join : String)
  | laneEnds (node join : String)
  | laneSplits (node : String) (edges : Nat)
  deriving DecidableEq, Repr

namespace CompileError

def kind : CompileError → CompileErrorKind
  | cycle _ _ => .cycle
  | unknownNode _ => .referential
  | unknownTarget _ _ => .referential
  | unknownJoin _ _ => .referential
  | _ => .structural

def nodeId? : CompileError → Option String
  | noStart => none
  | severalStarts _ => none
  | noEnd => none
  | unknownTarget _ _ => none
  | cycle node _ => some node
  | unknownNode node => some node
  | severalOutgoing node _ => some node
  | branchEdges node _ => some node
  | branchOutput node => some node
  | noJoin fork => some fork
  | unknownJoin fork _ => some fork
  | wrongJoin fork _ => some fork
  | laneForks _ node _ => some node
  | laneEnds node _ => some node
  | laneSplits node _ => some node

def edgeId? : CompileError → Option String
  | unknownTarget edge _ => some edge
  | _ => none

def message : CompileError → String
  | noStart => "No \"start\" node found in the graph."
  | severalStarts nodes =>
      let list := String.intercalate ", " (nodes.map fun node => "\"" ++ node ++ "\"")
      s!"Graph has {nodes.length} \"start\" nodes ({list}); exactly 1 is required."
  | noEnd => "No \"end\" node found in the graph."
  | cycle node inLane =>
      let place := if inLane then " inside parallel branch" else ""
      s!"Cycle detected at node \"{node}\"{place}. Cycles are not allowed."
  | unknownNode node => s!"Node \"{node}\" not found."
  | unknownTarget edge target =>
      s!"Edge \"{edge}\" references target \"{target}\" which does not exist."
  | severalOutgoing node edges =>
      s!"Node \"{node}\" has {edges} outgoing edges. " ++
        "Only parallel_start and branch can have multiple outputs."
  | branchEdges node edges =>
      s!"Branch \"{node}\" has {edges} outgoing edges; expected at most 2 (true/false)."
  | branchOutput node => s!"Branch \"{node}\" has more than one edge on the same output."
  | noJoin fork => s!"parallel_start \"{fork}\" has no joinId; cannot find its parallel_join."
  | unknownJoin fork join =>
      s!"parallel_start \"{fork}\" references joinId \"{join}\" which does not exist."
  | wrongJoin fork join =>
      s!"parallel_start \"{fork}\" joinId \"{join}\" is not a parallel_join node."
  | laneForks fork node join =>
      s!"Parallel branch of \"{fork}\" forks again at node \"{node}\" before join \"{join}\". " ++
        "Branches must be linear."
  | laneEnds node join =>
      s!"Parallel branch reached dead-end at node \"{node}\" before join \"{join}\"."
  | laneSplits node edges =>
      s!"Parallel branch has a split at node \"{node}\" ({edges} outgoing edges). " ++
        "Branches must be linear."

end CompileError

end SceneScript
