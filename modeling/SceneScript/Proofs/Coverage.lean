import SceneScript.Proofs.LaneMatching
import SceneScript.Proofs.Reachability
import SceneScript.Proofs.Topics
import SceneScript.Proofs.Visits

/-!
Which nodes a compilation visits when the report on the graph has nothing but tips. Flow edges lead
from the start to every node, and every edge of a visited node is followed: each edge of a branch is
on a side, each edge of a fork begins a lane. Main statement: every node is visited, if the walk
stops short at no join.
-/

namespace SceneScript

open Relation

theorem Edge.isOnSide_false_of_true {edge : Edge} (on : edge.isOnSide true = true) :
    edge.isOnSide false = false := by
  have held : edge.sourceHandle = some "out_true" := by simpa [isOnSide, sideHandle] using on
  simp [isOnSide, sideHandle, held]

/-- Of two fitting edges of a branch each has a side. -/
theorem Graph.sideEdge_of_mem {graph : Graph} {branch : String} {edge : Edge}
    (fits : Compile.SidesFit graph branch) (listed : edge ∈ graph.outEdges branch) :
    ∃ side, graph.sideEdge branch side = some edge := by
  obtain ⟨few, counts⟩ := fits
  by_cases sided : ∃ side, edge.isOnSide side = true
  · obtain ⟨side, on⟩ := sided
    have first := find?_eq_some_of_countP_le_one (counts side) listed on
    exact ⟨side, by simp [sideEdge, first]⟩
  · -- The edge is on no output, so it is given a side that is open.
    have off (side : Bool) : edge.isOnSide side = false := by
      rw [← Bool.not_eq_true]
      intro on
      exact sided ⟨side, on⟩
    unfold sideEdge
    generalize graph.outEdges branch = edges at few listed
    rcases edges with _ | ⟨first, _ | ⟨second, _ | ⟨third, rest⟩⟩⟩
    · cases listed
    · cases List.mem_singleton.mp listed
      exact ⟨true, by simp [openSides, unsidedEdges, off]⟩
    · rcases List.mem_pair.mp listed with rfl | rfl
      · by_cases onTrue : second.isOnSide true = true
        · have offFalse := Edge.isOnSide_false_of_true onTrue
          exact ⟨false, by simp [openSides, unsidedEdges, off, onTrue, offFalse]⟩
        · exact ⟨true, by simp [openSides, unsidedEdges, off, onTrue]⟩
      · by_cases onFalse : first.isOnSide false = true
        · have offTrue : first.isOnSide true = false := by
            rw [← Bool.not_eq_true]
            intro onTrue
            rw [Edge.isOnSide_false_of_true onTrue] at onFalse
            cases onFalse
          exact ⟨true, by simp [openSides, unsidedEdges, off, onFalse, offTrue]⟩
        · refine ⟨false, ?_⟩
          cases onTrue : first.isOnSide true <;>
            simp [openSides, unsidedEdges, off, onFalse, onTrue, List.lookup_cons]
    · simp at few

namespace Report

variable {graph : Graph} {settings : Settings} {report : Report} {finding : Finding}

/-- Neither errors nor warnings. -/
def TipsOnly (report : Report) : Prop := ∀ finding ∈ report.findings, finding.severity = .tip

theorem not_isOf_of_tipsOnly (reported : ofGraph settings graph = .ok report)
    (calm : report.TipsOnly) (severe : finding.severity ≠ .tip) :
    ¬ IsOf settings graph finding finding.topic := by
  rw [← mem_findings_iff_isOf reported]
  intro found
  exact severe (calm finding found)

section Calm

variable {node : Node} (reported : ofGraph settings graph = .ok report) (calm : report.TipsOnly)
  (listed : node ∈ graph.nodes)

include reported calm listed

/-- A node that nothing leads to would be warned of, by its own edges or for its distance. -/
theorem leads_of_tipsOnly {start : Node} (only : graph.withRole .start = [start]) :
    ReflTransGen graph.Leads start.id node.id := by
  rw [← Index.mem_reachable_iff]
  by_contra missed
  -- A node that is cut off is warned of for its edges, any other for not being reached.
  by_cases cutOff : isCutOff (.ofGraph graph) node = true
  · by_cases none : graph.outEdges node.id = []
    · have severe : (Finding.disconnected node.id node.type).severity ≠ .tip := by simp
      apply not_isOf_of_tipsOnly reported calm severe
      refine ⟨node, listed, ?_⟩
      simp [edgeCountFindings, cutOff, none]
    · have severe : (Finding.noIncoming node.id node.type).severity ≠ .tip := by simp
      apply not_isOf_of_tipsOnly reported calm severe
      refine ⟨node, listed, ?_⟩
      simp [edgeCountFindings, cutOff, none]
  · have severe : (Finding.unreachable node.id node.type).severity ≠ .tip := by simp
    apply not_isOf_of_tipsOnly reported calm severe
    have same : (Index.ofGraph graph).graph = graph := rfl
    simp only [Finding.topic, IsOf, reachFindings, same, only]
    apply List.mem_append_left
    refine List.mem_map.mpr ⟨node, List.mem_filter.mpr ⟨listed, ?_⟩, rfl⟩
    simp [missed, cutOff]

theorem outEdges_of_tipsOnly (finish : node.role = .finish) : graph.outEdges node.id = [] := by
  by_contra some
  have severe : (Finding.endLeft node.id (graph.outEdges node.id).length).severity ≠ .tip := by simp
  apply not_isOf_of_tipsOnly reported calm severe
  refine ⟨node, listed, ?_⟩
  simp [edgeCountFindings, finish, List.length_pos_iff.mpr some]

theorem laneProblems_of_tipsOnly (fork : node.role = .fork) :
    laneProblems .fork node.laneIds (graph.outEdges node.id) = [] := by
  rw [List.eq_nil_iff_forall_not_mem]
  intro problem member
  have severe : (Finding.lane .fork node.id problem).severity ≠ .tip := by simp
  apply not_isOf_of_tipsOnly reported calm severe
  refine ⟨node, listed, ?_⟩
  rw [pairFindings, fork, Index.outEdges_scan]
  exact List.mem_append_right _ (List.mem_map.mpr ⟨problem, member, rfl⟩)

end Calm

end Report

namespace Compile

variable {graph : Graph} {settings : Settings} {report : Report} {actions : List Action}
  {config after : Config} {edge : Edge}

/-- A lane is visited only from its fork. -/
theorem Visited.fork {fork id : String} (visited : Visited graph (.inLane fork id)) :
    ∃ node, graph.nodeAt? fork = some node ∧ node.role = .fork ∧ Visited graph (.plain fork) := by
  obtain ⟨start, only, reached⟩ := visited
  generalize last : Config.inLane fork id = config at reached
  -- The last step came into the lane from its fork, or from further up in the same lane.
  induction reached generalizing id with
  | refl => cases last
  | tail before step ih =>
      cases step with
      | intoLane found role follows apart =>
          cases last
          exact ⟨_, found, role, start, only, before⟩
      | inLane found follows apart =>
          cases last
          exact ih rfl
      | pass | join | resume => cases last

/-- What an edge that is followed leads to is visited: as the join of a fork if it is that. -/
theorem Visited.target (visited : Visited graph config) (fits : ConfigFits graph config)
    (follows : Follows graph config edge) :
    ∃ after, Visited graph after ∧ after.node = edge.target := by
  cases config with
  | plain id =>
      obtain ⟨node, found, -⟩ := fits
      by_cases role : node.role = .fork
      · by_cases atJoin : edge.target = node.textParam "joinId"
        · exact ⟨_, visited.step (.join found role), atJoin.symm⟩
        · exact ⟨_, visited.step (.intoLane found role follows atJoin), rfl⟩
      · exact ⟨_, visited.step (.pass found role follows), rfl⟩
  | resumed join => exact ⟨_, visited.step (.resume follows), rfl⟩
  | inLane fork id =>
      obtain ⟨node, found, role, forked⟩ := visited.fork
      by_cases atJoin : edge.target = node.textParam "joinId"
      · exact ⟨_, forked.step (.join found role), atJoin.symm⟩
      · exact ⟨_, visited.step (.inLane found follows atJoin), rfl⟩

variable (graph) in
/-- A join at which a sequence ends has no way on, or is gone on from after its fork. -/
def JoinsResume : Prop :=
  ∀ id node, Visited graph (.plain id) → graph.nodeAt? id = some node → node.role = .join →
    graph.outEdges id = [] ∨ Visited graph (.resumed id)

section Calm

variable (reported : Report.ofGraph settings graph = .ok report) (calm : report.TipsOnly)
  (compiled : compile settings graph = .ok actions) (resumes : JoinsResume graph)

include reported calm compiled resumes

/-- Every way on from a visited node is followed, if not from the same configuration of it. -/
theorem Visited.exhausted (visited : Visited graph config) :
    ∃ other, Visited graph other ∧ other.node = config.node ∧
      ∀ edge ∈ graph.outEdges config.node, Follows graph other edge := by
  cases config with
  | resumed join => exact ⟨_, visited, rfl, fun edge way => .resumed way⟩
  | inLane fork id => exact ⟨_, visited, rfl, fun edge way => .inLane way⟩
  | plain id =>
      obtain ⟨node, found, fits⟩ := (sound_of_visited compiled visited).fits
      obtain ⟨listed, rfl⟩ := Graph.mem_of_nodeAt? found
      cases role : node.role with
      | start => exact ⟨_, visited, rfl, fun edge way => .pass found (Or.inl role) way⟩
      | step => exact ⟨_, visited, rfl, fun edge way => .pass found (Or.inr role) way⟩
      | finish =>
          have ends := Report.outEdges_of_tipsOnly reported calm listed role
          refine ⟨_, visited, rfl, ?_⟩
          intro edge way
          rw [Config.node, ends] at way
          cases way
      | branch =>
          simp only [RoleFits, role] at fits
          refine ⟨_, visited, rfl, ?_⟩
          intro edge way
          obtain ⟨side, taken⟩ := Graph.sideEdge_of_mem fits way
          exact .side side found role taken
      | fork =>
          have clean := Report.laneProblems_of_tipsOnly reported calm listed role
          refine ⟨_, visited, rfl, ?_⟩
          intro edge way
          obtain ⟨lane, declared, begins⟩ := Graph.laneEdge_of_laneProblems clean way
          exact .lane lane found role declared begins
      | join =>
          -- A sequence that comes to a join ends there; what is beyond is followed after the fork.
          rcases resumes _ _ visited found role with ends | resumed
          · refine ⟨_, visited, rfl, ?_⟩
            intro edge way
            rw [Config.node, ends] at way
            cases way
          · exact ⟨_, resumed, rfl, fun edge way => .resumed way⟩

/-- Every node of the graph is visited. -/
theorem visited_of_tipsOnly {node : Node} (listed : node ∈ graph.nodes) :
    ∃ config, Visited graph config ∧ config.node = node.id := by
  obtain ⟨start, only, -⟩ := compile_eq_ok_iff.mp compiled
  have led := Report.leads_of_tipsOnly reported calm listed only
  generalize node.id = id at led
  -- Induction on the flow edges from the start: each leaves a visited node, and is followed.
  induction led with
  | refl => exact ⟨.plain start.id, ⟨start, only, .refl⟩, rfl⟩
  | tail _ leads ih =>
      obtain ⟨config, visited, rfl⟩ := ih
      obtain ⟨edge, flows, source, rfl⟩ := leads
      obtain ⟨other, visitedToo, same, exhausts⟩ :=
        visited.exhausted reported calm compiled resumes
      have follows := exhausts edge (Graph.mem_outEdges_iff.mpr ⟨flows, source⟩)
      exact visitedToo.target (sound_of_visited compiled visitedToo).fits follows

end Calm

end Compile

end SceneScript
