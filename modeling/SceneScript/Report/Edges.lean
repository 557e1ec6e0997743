import SceneScript.Report.Finding
import SceneScript.Graph.Index
import SceneScript.Text.Split

/-!
Findings about edges: ends that do not exist, waits of less than no time, and guards that leave
open what to compare or when to go on.
-/

namespace SceneScript.Report

def waitFindings (edge : Edge) : Except NumberFault (List Finding) :=
  match edge.waitSeconds with
  | some seconds =>
      if seconds.isNegative then
        (fun shown => [.negativeWait edge.id shown]) <$> seconds.writeBrief
      else .ok []
  | none => .ok []

/-- A negative wait that is too large to be shown has no report. -/
def referenceFindings (index : Index) : List Edge → Except NumberFault (List Finding)
  | [] => .ok []
  | edge :: rest => do
      let source := if index.hasNode edge.source then [] else [.unknownSource edge.id edge.source]
      let target := if index.hasNode edge.target then [] else [.unknownTarget edge.id edge.target]
      let wait ← waitFindings edge
      let others ← referenceFindings index rest
      .ok (source ++ target ++ wait ++ others)

/-- The mark of global variables is the engine's; authors write the bare key. -/
def isMarked (mark name : String) : Bool := mark != "" && (Text.dropStart? mark name).isSome

def variableProblems (mark : String) (edge : Edge) : List GuardProblem :=
  let name := Text.trim edge.conditionVar
  if name = "" then [.noVariable] else if isMarked mark name then [.markedVariable mark] else []

def endVariableProblems (mark : String) (edge : Edge) : List GuardProblem :=
  let name := Text.trim edge.endVar
  (if name = "" then [.noEndVariable]
    else if isMarked mark name then [.markedEndVariable mark]
    else []) ++
    if Text.trim edge.endEquals = "" then [.noEndEquals] else []

def endNodeProblems (names : List String) (edge : Edge) : List GuardProblem :=
  let name := Text.trim edge.endNode
  if name = "" then [.noEndNode] else if name ∈ names then [] else [.unknownEndNode name]

/-- No time, or one that is at or below zero; the undefined value is neither. -/
def timeoutProblems (edge : Edge) : List GuardProblem :=
  match edge.endTimeout with
  | none => [.noTimeout]
  | some seconds =>
      if seconds.isNegative || seconds.toInt? == some 0 then [.noTimeout] else []

def stopProblems (mark : String) (names : List String) (edge : Edge) : List GuardProblem :=
  match edge.stopWhen with
  | "none" => []
  | "global_var" => endVariableProblems mark edge
  | "node_reached" => endNodeProblems names edge
  | "timeout" => timeoutProblems edge
  | other => [.unknownStop other]

def policyProblems (mark : String) (names : List String) (edge : Edge) : List GuardProblem :=
  match edge.ifFalse with
  | "skip" => []
  | "wait_until_true" => stopProblems mark names edge
  | other => [.unknownPolicy other]

def guardProblems (mark : String) (names : List String) (edge : Edge) : List GuardProblem :=
  if edge.conditionEnabled then
    variableProblems mark edge ++
      (if Text.trim edge.conditionEquals = "" then [.noEquals] else []) ++
      policyProblems mark names edge
  else []

def guardFindings (mark : String) (names : List String) (edge : Edge) : List Finding :=
  (guardProblems mark names edge).map (.guard edge.id)

end SceneScript.Report
