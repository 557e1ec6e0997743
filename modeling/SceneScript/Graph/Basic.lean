import SceneScript.Json.Display
import SceneScript.Text.Blank

/-!
Scene graphs: typed nodes with open parameters, and directed edges that may carry a wait and a
guard. A graph with `UniqueIds` names each node and each edge once; nothing else is promised here:
edges may dangle, and forks and joins may not match.
-/

namespace SceneScript

/-- What a node does to the flow. Every type without a role of its own is a plain step. -/
inductive Role where
  | start
  | finish
  | branch
  | fork
  | join
  | step
  deriving DecidableEq, Repr

def Role.ofType : String → Role
  | "start" => .start
  | "end" => .finish
  | "branch" => .branch
  | "parallel_start" => .fork
  | "parallel_join" => .join
  | _ => .step

structure Node where
  id : String
  type : String
  name : Option String := none
  params : Table Json := []

namespace Node

def role (node : Node) : Role := .ofType node.type

def displayName (node : Node) : String := Text.trim (node.name.getD "")

def param (node : Node) (key : String) : Json := (Table.get? node.params key).getD .null

/-- A parameter that is no text counts as empty. -/
def textParam (node : Node) (key : String) : String := (Table.string? node.params key).getD ""

/-- The lanes that a fork or a join declares; one lane where nothing is declared. -/
def laneIds (node : Node) : List String :=
  match Table.get? node.params "branches" with
  | some (.arr items) => items.map Json.display
  | _ => ["b0"]

end Node

structure Edge where
  id : String
  source : String
  target : String
  sourceHandle : Option String := none
  targetHandle : Option String := none
  waitSeconds : Option Number := none
  conditionEnabled : Bool := false
  conditionVar : String := ""
  conditionEquals : String := ""
  ifFalse : String := "skip"
  stopWhen : String := "none"
  endVar : String := ""
  endEquals : String := ""
  endNode : String := ""
  endTimeout : Option Number := none

namespace Edge

/-- The handle of links that only tie a fork to its join. -/
def pairHandle : String := "__pair"

def isPairLink (edge : Edge) : Bool :=
  edge.sourceHandle == some pairHandle || edge.targetHandle == some pairHandle

/-- A wait of no time, or of less, is none. -/
def wait? (edge : Edge) : Option Number := edge.waitSeconds.filter Number.isPositive

end Edge

structure Graph where
  nodes : List Node := []
  edges : List Edge := []

namespace Graph

def UniqueIds (graph : Graph) : Prop :=
  (graph.nodes.map Node.id).Nodup ∧ (graph.edges.map Edge.id).Nodup

def node? (graph : Graph) (id : String) : Option Node := graph.nodes.find? (·.id == id)

/-- The edges along which the scene proceeds. -/
def flowEdges (graph : Graph) : List Edge := graph.edges.filter (!·.isPairLink)

def withRole (graph : Graph) (role : Role) : List Node := graph.nodes.filter (·.role == role)

end Graph

end SceneScript
