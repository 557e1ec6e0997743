import SceneScript.Action.Guard
import SceneScript.Json.Reader

/-!
Actions of the engine. A plain node becomes a record of its parameters; marks, waits, guards,
branches and parallel lanes come from the shape of the graph. `Action.toJson` gives the written
form, in which a lane of one action is that action itself.
-/

namespace SceneScript

inductive Action where
  | record (fields : Table Json)
  | mark (name : String)
  | wait (seconds : Number)
  | guarded (guard : Guard) (actions : List Action)
  | branch (condition : String) (whenTrue whenFalse : List Action)
  | parallel (lanes : List (List Action))

namespace Action

/-- Parameters that only tie a fork and a join together. -/
def bookkeeping : List String := ["branches", "joinId", "pairId"]

def functionKeys : List String := ["function_name", "function", "args"]

/-- Arguments are a list, or JSON text; a single value in the text is a list of one. -/
def parseArgs : Json → Option (List Json)
  | .arr items => some items
  | .str text =>
      if Text.isBlankText text then none
      else
        match Json.read text with
        | .ok (.arr items) => some items
        | .ok value => some [value]
        | .error _ => none
  | _ => none

/-- The older key wins where both name a function. -/
def functionName (node : Node) : String :=
  let older := node.textParam "function_name"
  if older = "" then node.textParam "function" else older

def callFields (node : Node) : Table Json :=
  let name := functionName node
  (if name = "" then [] else [("function", .str name)]) ++
    ((parseArgs (node.param "args")).map fun items => ("args", Json.arr items)).toList

def isCopied (node : Node) (key : String) (value : Json) : Bool :=
  key ∉ bookkeeping && !(node.type == "run_function" && key ∈ functionKeys) && !value.isEmpty

/-- Empty parameters are left out. A parameter named like a field already there takes its place. -/
def recordFields (node : Node) : Table Json :=
  let own := ("type", Json.str node.type) ::
    if node.type = "run_function" then callFields node else []
  let copied := node.params.filter fun (key, value) => isCopied node key value
  copied.foldl (fun fields (key, value) => Table.insert fields key value) own

def ofNode (node : Node) : Action := .record (recordFields node)

/-- Actions under the guard of an edge, or as they are if it has none. -/
def underGuard (mark : String) (edge : Edge) (actions : List Action) : List Action :=
  match Guard.ofEdge? mark edge with
  | some guard => [.guarded guard actions]
  | none => actions

def markJson (name : String) : Json := .obj [("type", .str "mark_node"), ("name", .str name)]

def waitJson (seconds : Number) : Json := .obj [("type", .str "wait"), ("seconds", .num seconds)]

mutual

def toJson : Action → Json
  | record fields => .obj fields
  | mark name => markJson name
  | wait seconds => waitJson seconds
  | guarded guard actions => guard.toJson (listJson actions)
  | branch condition whenTrue whenFalse =>
      .obj
        [("type", .str "branch"), ("condition", .str condition),
          ("true_actions", .arr (listJson whenTrue)), ("false_actions", .arr (listJson whenFalse))]
  | parallel lanes => .obj [("type", .str "parallel"), ("actions", .arr (lanesJson lanes))]

def listJson : List Action → List Json
  | [] => []
  | action :: rest => toJson action :: listJson rest

def lanesJson : List (List Action) → List Json
  | [] => []
  | [action] :: rest => toJson action :: lanesJson rest
  | lane :: rest => .arr (listJson lane) :: lanesJson rest

end

end Action

end SceneScript
