import SceneScript.Graph.Basic
import SceneScript.Field.Coercion

/-!
Nodes, edges and graphs from document values, checked field by field. An edge field has two
spellings; the camel-case one speaks when both are given. `Edge.toFields` writes an edge in either
spelling.
-/

namespace SceneScript

/-- The value of an optional field, or the fault of the key under which it was given. -/
def Field.optional {α : Type} (fields : Table Json) (key : String) (default : α)
    (check : Json → Checked α) : Checked α :=
  match Table.get? fields key with
  | some value => (check value).under (.key key)
  | none => .ok default

def Field.required {α : Type} (fields : Table Json) (key : String) (check : Json → Checked α) :
    Checked α :=
  match Table.get? fields key with
  | some value => (check value).under (.key key)
  | none => (Checked.fail .missing).under (.key key)

def Node.ofFields (fields : Table Json) : Checked Node :=
  ((((Node.mk <$> Field.required fields "id" Field.text).and
    (Field.required fields "type" Field.text)).and
    (Field.optional fields "name" none Field.textOrNull)).and
    (Field.optional fields "params" [] Field.object))

def Node.ofJson : Json → Checked Node
  | .obj fields => Node.ofFields fields
  | _ => Checked.fail (.notRecord "CutsceneNode")

def Node.toFields (node : Node) : Table Json :=
  [("id", .str node.id), ("type", .str node.type), ("name", .ofOption node.name),
    ("params", .obj node.params)]

inductive EdgeField where
  | id
  | source
  | target
  | sourceHandle
  | targetHandle
  | waitSeconds
  | conditionEnabled
  | conditionVar
  | conditionEquals
  | ifFalse
  | stopWhen
  | endVar
  | endEquals
  | endNode
  | endTimeout
  deriving DecidableEq, Repr

namespace EdgeField

def all : List EdgeField :=
  [id, source, target, sourceHandle, targetHandle, waitSeconds, conditionEnabled, conditionVar,
    conditionEquals, ifFalse, stopWhen, endVar, endEquals, endNode, endTimeout]

def camelKey : EdgeField → String
  | id => "id"
  | source => "source"
  | target => "target"
  | sourceHandle => "sourceHandle"
  | targetHandle => "targetHandle"
  | waitSeconds => "waitSeconds"
  | conditionEnabled => "conditionEnabled"
  | conditionVar => "conditionVar"
  | conditionEquals => "conditionEquals"
  | ifFalse => "conditionIfFalse"
  | stopWhen => "stopWaitingWhen"
  | endVar => "endConditionVar"
  | endEquals => "endConditionEquals"
  | endNode => "endNodeName"
  | endTimeout => "endTimeoutSeconds"

def snakeKey : EdgeField → String
  | id => "id"
  | source => "source"
  | target => "target"
  | sourceHandle => "source_handle"
  | targetHandle => "target_handle"
  | waitSeconds => "wait_seconds"
  | conditionEnabled => "condition_enabled"
  | conditionVar => "condition_var"
  | conditionEquals => "condition_equals"
  | ifFalse => "condition_if_false"
  | stopWhen => "stop_waiting_when"
  | endVar => "end_condition_var"
  | endEquals => "end_condition_equals"
  | endNode => "end_node_name"
  | endTimeout => "end_timeout_seconds"

/-- The key that speaks for a field. -/
def givenKey (fields : Table Json) (field : EdgeField) : String :=
  if (Table.get? fields field.camelKey).isSome then field.camelKey
  else if (Table.get? fields field.snakeKey).isSome then field.snakeKey
  else field.camelKey

def optional {α : Type} (fields : Table Json) (field : EdgeField) (default : α)
    (check : Json → Checked α) : Checked α :=
  Field.optional fields (field.givenKey fields) default check

def required {α : Type} (fields : Table Json) (field : EdgeField) (check : Json → Checked α) :
    Checked α :=
  Field.required fields (field.givenKey fields) check

/-- A field that takes any value. -/
def shown (fields : Table Json) (field : EdgeField) (default : String) : Checked String :=
  optional fields field default fun value => .ok (Field.shownOr default value)

end EdgeField

namespace Edge

def ofFields (fields : Table Json) : Checked Edge :=
  (((((((((((((((Edge.mk <$> EdgeField.id.required fields Field.text).and
    (EdgeField.source.required fields Field.text)).and
    (EdgeField.target.required fields Field.text)).and
    (EdgeField.sourceHandle.optional fields none Field.textOrNull)).and
    (EdgeField.targetHandle.optional fields none Field.textOrNull)).and
    (EdgeField.waitSeconds.optional fields none Field.numberOrNull)).and
    (EdgeField.conditionEnabled.optional fields false Field.flag)).and
    (EdgeField.conditionVar.shown fields "")).and
    (EdgeField.conditionEquals.shown fields "")).and
    (EdgeField.ifFalse.shown fields "skip")).and
    (EdgeField.stopWhen.shown fields "none")).and
    (EdgeField.endVar.shown fields "")).and
    (EdgeField.endEquals.shown fields "")).and
    (EdgeField.endNode.shown fields "")).and
    (EdgeField.endTimeout.optional fields none Field.numberOrNull))

def ofJson : Json → Checked Edge
  | .obj fields => Edge.ofFields fields
  | _ => Checked.fail (.notRecord "CutsceneEdge")

def numberField (number : Option Number) : Json :=
  match number with
  | some value => .num value
  | none => .null

def value (edge : Edge) : EdgeField → Json
  | .id => .str edge.id
  | .source => .str edge.source
  | .target => .str edge.target
  | .sourceHandle => .ofOption edge.sourceHandle
  | .targetHandle => .ofOption edge.targetHandle
  | .waitSeconds => numberField edge.waitSeconds
  | .conditionEnabled => .bool edge.conditionEnabled
  | .conditionVar => .str edge.conditionVar
  | .conditionEquals => .str edge.conditionEquals
  | .ifFalse => .str edge.ifFalse
  | .stopWhen => .str edge.stopWhen
  | .endVar => .str edge.endVar
  | .endEquals => .str edge.endEquals
  | .endNode => .str edge.endNode
  | .endTimeout => numberField edge.endTimeout

def toFields (keyOf : EdgeField → String) (edge : Edge) : Table Json :=
  EdgeField.all.map fun field => (keyOf field, edge.value field)

end Edge

namespace Graph

/-- The first id that an earlier item of the list has too. -/
def repeated? (seen : List String) : List String → Option String
  | [] => none
  | id :: rest => if id ∈ seen then some id else repeated? (id :: seen) rest

/-- Refuses a graph that names a node or an edge twice. -/
def ofLists (nodes : List Node) (edges : List Edge) : Checked Graph :=
  match repeated? [] (nodes.map Node.id), repeated? [] (edges.map Edge.id) with
  | some id, _ => Checked.fail (.rejected ("Duplicate node id '" ++ id ++ "'"))
  | none, some id => Checked.fail (.rejected ("Duplicate edge id '" ++ id ++ "'"))
  | none, none => .ok { nodes, edges }

def ofJson : Json → Checked Graph
  | .obj fields =>
      let parts := (Prod.mk <$> Field.optional fields "nodes" [] (Field.list Node.ofJson)).and
        (Field.optional fields "edges" [] (Field.list Edge.ofJson))
      parts >>= fun (nodes, edges) => ofLists nodes edges
  | _ => Checked.fail (.notRecord "CutsceneGraph")

end Graph

end SceneScript
