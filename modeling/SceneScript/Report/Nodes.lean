import SceneScript.Report.Finding
import SceneScript.Graph.Index
import SceneScript.Json.Reader

/-!
Findings about single nodes: names, the ends of the scene, the count of edges that each type
allows, and parameters that the engine needs.
-/

namespace SceneScript.Report

/-- First the nodes without a name, then those that share one, by first use of the name. -/
def nameFindings (graph : Graph) : List Finding :=
  let unnamed := graph.nodes.filter (·.displayName == "")
  let groups := Table.groupBy Node.displayName (graph.nodes.filter (·.displayName != ""))
  unnamed.map (fun node => .unnamed node.id node.type) ++
    groups.flatMap fun (name, users) =>
      if users.length ≤ 1 then []
      else users.map fun user => .sharedName user.id name (users.map Node.id)

def endFindings (graph : Graph) : List Finding :=
  let starts := graph.withRole .start
  (if starts.isEmpty then [.noStart]
    else if 1 < starts.length then [.severalStarts starts.length]
    else []) ++
    if (graph.withRole .finish).isEmpty then [.noEnd] else []

/-- No path can lead to the node, as its own edges show. Joins are left to their forks. -/
def isCutOff (index : Index) (node : Node) : Bool :=
  node.role != .start && node.role != .finish && node.role != .join &&
    (index.inEdges node.id).isEmpty &&
    ((index.outEdges node.id).isEmpty || node.role != .fork)

def edgeCountFindings (index : Index) (node : Node) : List Finding :=
  let incoming := (index.inEdges node.id).length
  let outgoing := (index.outEdges node.id).length
  (if node.role = .start ∧ 0 < incoming then [.startEntered node.id incoming] else []) ++
    (if node.role = .start ∧ outgoing = 0 then [.startStuck node.id] else []) ++
    (if node.role = .finish ∧ 0 < outgoing then [.endLeft node.id outgoing] else []) ++
    (if isCutOff index node then
      [if outgoing = 0 then .disconnected node.id node.type else .noIncoming node.id node.type]
    else []) ++
    if node.role = .step ∧ 1 < outgoing then [.severalOutgoing node.id node.type outgoing] else []

/-- Fields that must not be left empty. -/
def requiredFields : String → List String
  | "move" => ["target"]
  | "set_position" => ["target"]
  | "actor_create" => ["key"]
  | "actor_destroy" => ["target"]
  | "animate" => ["target"]
  | "camera_track" => ["target"]
  | "camera_pan" => ["x", "y"]
  | "set_depth" => ["target"]
  | "set_facing" => ["target"]
  | "branch" => ["condition"]
  | "follow_path" => ["target"]
  | _ => []

/-- A value that sets something: no blank text, no zero, nothing empty. -/
def isGiven : Json → Bool
  | .null => false
  | .bool value => value
  | .num value => value.toInt? != some 0
  | .str value => !Text.isBlankText value
  | .arr items => !items.isEmpty
  | .obj fields => !fields.isEmpty

def isReadable (text : String) : Bool :=
  match Json.read text with
  | .ok _ => true
  | .error _ => false

/-- The name of the function may stand under either of two keys. -/
def functionFindings (node : Node) : List Finding :=
  (if Text.isBlankText (node.textParam "function") ∧
      Text.isBlankText (node.textParam "function_name") then
    [.missingField node.id node.type "function"]
  else []) ++
    match node.param "args" with
    | .str text =>
        if Text.isBlankText text || isReadable text then [] else [.unreadableArgs node.id]
    | _ => []

def typeFindings (index : Index) (node : Node) : List Finding :=
  match node.type with
  | "actor_create" =>
      if isGiven (node.param "sprite_or_object") || isGiven (node.param "copy_from") then []
      else [.noSprite node.id]
  | "branch" =>
      if (index.outEdges node.id).any (·.sourceHandle == some "out_false") then []
      else [.noFalseSide node.id]
  | "run_function" => functionFindings node
  | _ => []

def paramFindings (index : Index) (node : Node) : List Finding :=
  ((requiredFields node.type).filter fun field => (node.param field).isEmpty).map
      (fun field => .missingField node.id node.type field) ++
    typeFindings index node

end SceneScript.Report
