import SceneScript.Graph.Basic
import SceneScript.Text.Split

/-!
Guards: a condition on a global variable under which the engine carries out actions. A guard that
waits for its condition may name what else ends the wait.
-/

namespace SceneScript

/-- What else ends a wait. -/
inductive StopRule where
  | global (name equals : String)
  | node (name : String)
  | timeout (seconds : Number)

structure Guard where
  global : String
  equals : String
  ifFalse : String
  stopWhen : Option String := none
  stop : Option StopRule := none

namespace Guard

/-- The mark of global variables is the engine's, and is left out of action lists. -/
def bareName (mark name : String) : String :=
  let trimmed := Text.trim name
  if mark = "" then trimmed else (Text.dropStart? mark trimmed).getD trimmed

def orElse (default text : String) : String := if text = "" then default else text

def stopRule? (mark : String) (edge : Edge) : String → Option StopRule
  | "global_var" =>
      let name := bareName mark edge.endVar
      if name = "" then none else some (.global name edge.endEquals)
  | "node_reached" =>
      let name := Text.trim edge.endNode
      if name = "" then none else some (.node name)
  | "timeout" => (edge.endTimeout.filter Number.isPositive).map .timeout
  | _ => none

/-- The guard of an edge, if it is enabled and names a variable. -/
def ofEdge? (mark : String) (edge : Edge) : Option Guard :=
  let global := bareName mark edge.conditionVar
  if !edge.conditionEnabled || global == "" then none
  else
    let equals := edge.conditionEquals
    let ifFalse := orElse "skip" edge.ifFalse
    if ifFalse = "wait_until_true" then
      let stopWhen := orElse "none" edge.stopWhen
      some
        { global, equals, ifFalse, stopWhen := some stopWhen,
          stop := stopRule? mark edge stopWhen }
    else some { global, equals, ifFalse }

def stopFields : StopRule → Table Json
  | .global name equals => [("end_var", .str name), ("end_equals", .str equals)]
  | .node name => [("end_node", .str name)]
  | .timeout seconds => [("end_timeout", .num seconds)]

def toJson (guard : Guard) (actions : List Json) : Json :=
  let stopWhen := (guard.stopWhen.map fun condition => ("stop_when", Json.str condition)).toList
  .obj
    ([("type", .str "guard_global"), ("var", .str guard.global), ("equals", .str guard.equals),
        ("if_false", .str guard.ifFalse), ("actions", .arr actions)] ++
      stopWhen ++ (guard.stop.map stopFields).getD [])

end Guard

end SceneScript
