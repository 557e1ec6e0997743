import SceneScript.Report.Nodes
import SceneScript.Report.Lanes
import SceneScript.Report.Edges
import SceneScript.Graph.Reach
import SceneScript.Settings.Basic

/-!
The report on a scene: every finding, in a fixed order of topics. A scene with errors is not
exported.
-/

namespace SceneScript

/-- Only a scene with one start has nodes that are beyond its reach. -/
def Report.reachFindings (index : Index) : List Finding :=
  match index.graph.withRole .start with
  | [start] =>
      let reached := index.reachable start.id
      let missed := index.graph.nodes.filter fun node =>
        node.id ∉ reached && !Report.isCutOff index node
      let ends := index.graph.withRole .finish
      missed.map (fun node => .unreachable node.id node.type) ++
        if !ends.isEmpty && ends.all (·.id ∉ reached) then [.noEndReachable] else []
  | _ => []

structure Report where
  findings : List Finding

namespace Report

def ofGraph (settings : Settings) (graph : Graph) : Except NumberFault Report := do
  let index := Index.ofGraph graph
  let references ← referenceFindings index graph.edges
  .ok
    { findings :=
        nameFindings graph ++ endFindings graph ++
          graph.nodes.flatMap (edgeCountFindings index) ++
          graph.nodes.flatMap (paramFindings index) ++
          graph.nodes.flatMap (pairFindings index) ++
          references ++
          graph.edges.flatMap (guardFindings settings.globalVarPrefix index.names) ++
          reachFindings index }

def withSeverity (report : Report) (severity : Severity) : List Finding :=
  report.findings.filter (·.severity == severity)

def errors (report : Report) : List Finding := report.withSeverity .error

def hasErrors (report : Report) : Bool := !report.errors.isEmpty

end Report

end SceneScript
