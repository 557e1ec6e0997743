import SceneScript.Report.Finding
import SceneScript.Graph.Index

/-!
Findings about forks and joins: whether each names the other, whether they declare the same lanes,
and whether the handles of their edges match the declared lanes one to one.
-/

namespace SceneScript.Report

def handleProblem? (laneEnd : LaneEnd) (declared : List String) (edge : Edge) :
    Option LaneProblem :=
  match laneEnd.handle edge with
  | none => some (.noHandle edge.id)
  | some "" => some (.noHandle edge.id)
  | some handle =>
      match Text.dropStart? laneEnd.mark handle with
      | none => some (.oddHandle edge.id handle)
      | some lane => if lane ∈ declared then none else some (.undeclared edge.id lane)

def laneProblem? (used : List String) (lane : String) : Option LaneProblem :=
  match used.count lane with
  | 0 => some (.unused lane)
  | 1 => none
  | edges => some (.crowded lane edges)

def laneProblems (laneEnd : LaneEnd) (lanes : List String) (edges : List Edge) :
    List LaneProblem :=
  let declared := lanes.eraseDups
  (if declared.length ≠ lanes.length then [.repeatedIds] else []) ++
    edges.filterMap (handleProblem? laneEnd declared) ++
    declared.filterMap (laneProblem? (edges.filterMap laneEnd.laneOf?))

def laneFindings (laneEnd : LaneEnd) (node : Node) (edges : List Edge) : List Finding :=
  (laneProblems laneEnd node.laneIds edges).map (.lane laneEnd node.id)

/-- The declared lanes without repetition, in the order of their characters. -/
def laneSet (node : Node) : List String :=
  node.laneIds.eraseDups.mergeSort fun a b => decide (a ≤ b)

def joinLinkFindings (index : Index) (fork : Node) : List Finding :=
  let id := fork.textParam "joinId"
  if id = "" then [.noJoin fork.id]
  else
    match index.node? id with
    | none => [.unknownJoin fork.id id]
    | some join => if join.role = .join then [] else [.wrongJoin fork.id id join.type]

def forkLinkFindings (index : Index) (join : Node) : List Finding :=
  let id := join.textParam "pairId"
  if id = "" then [.noFork join.id]
  else
    match index.node? id with
    | none => [.unknownFork join.id id]
    | some fork =>
        if fork.role ≠ .fork ∨ fork.textParam "joinId" ≠ join.id then [.wrongFork join.id id]
        else if laneSet fork = laneSet join then []
        else [.lanesDiffer join.id id (laneSet join) (laneSet fork)]

def pairFindings (index : Index) (node : Node) : List Finding :=
  match node.role with
  | .fork => joinLinkFindings index node ++ laneFindings .fork node (index.outEdges node.id)
  | .join => forkLinkFindings index node ++ laneFindings .join node (index.inEdges node.id)
  | _ => []

end SceneScript.Report
