import Mathlib.Data.List.Find
import SceneScript.Proofs.Blame
import SceneScript.Proofs.Sharing

/-!
What the start does not reach. A walk looks up the nodes that it reaches, and finds no more than
that other ids are not there. Main statement: to take out nodes that the start does not reach, and
edges that leave none that it reaches, changes nothing of a compilation, as long as an end is left.
-/

namespace SceneScript

namespace Graph

variable {graph : Graph} {keepsNode : Node → Bool} {keepsEdge : Edge → Bool} {id : String}

/-- The graph with the nodes and the edges that are kept. -/
def keeping (graph : Graph) (keepsNode : Node → Bool) (keepsEdge : Edge → Bool) : Graph where
  nodes := graph.nodes.filter keepsNode
  edges := graph.edges.filter keepsEdge

theorem nodeAt?_keeping (kept : ∀ node ∈ graph.nodes, node.id = id → keepsNode node = true) :
    (graph.keeping keepsNode keepsEdge).nodeAt? id = graph.nodeAt? id := by
  rw [nodeAt?, keeping, ← List.filter_reverse, List.find?_filter, nodeAt?]
  apply List.find?_congr
  intro node listed
  by_cases same : node.id = id
  · simp [same, kept node (List.mem_reverse.mp listed) same]
  · simp [same]

theorem outEdges_keeping (kept : ∀ edge ∈ graph.edges, edge.source = id → keepsEdge edge = true) :
    (graph.keeping keepsNode keepsEdge).outEdges id = graph.outEdges id := by
  simp only [outEdges, flowEdges, keeping, List.filter_filter]
  apply List.filter_congr
  intro edge listed
  by_cases same : edge.source = id
  · simp [same, kept edge listed same]
  · simp [same]

/-- What holds the start and keeps the targets of links from it holds all that is reached. -/
theorem Reached.mem_of_closed {start : Node} {ids : List String} (begins : start.id ∈ ids)
    (leads : ∀ edge ∈ graph.flowEdges, edge.source ∈ ids → edge.target ∈ ids)
    (ties : ∀ fork ∈ graph.nodes, fork.role = .fork → fork.id ∈ ids →
      fork.textParam "joinId" ∈ ids) (reached : graph.Reached start id) : id ∈ ids := by
  induction reached with
  | refl => exact begins
  | tail _ connects inside =>
      obtain ⟨⟨edge, flows, rfl, rfl⟩ | ⟨fork, listed, role, rfl, rfl, -⟩, -⟩ := connects
      · exact leads edge flows inside
      · exact ties fork listed role inside

theorem withRole_keeping (role : Role) :
    (graph.keeping keepsNode keepsEdge).withRole role = (graph.withRole role).filter keepsNode := by
  rw [withRole, keeping, List.filter_comm, withRole]

end Graph

namespace Compile

variable {settings : Settings} {graph : Graph} {start : Node} {keepsNode : Node → Bool}
  {keepsEdge : Edge → Bool}

/-- The part that the walk asks about: what the start reaches, and ids that no node has. -/
def Asked (graph : Graph) (start : Node) (id : String) : Prop :=
  graph.Reached start id ∨ ¬ graph.Has id

/-- An id that a reached one is linked to is asked about, whether or not it is there. -/
theorem Asked.of_links {source target : String} (reached : graph.Reached start source)
    (links : graph.Has target → graph.Links source target) : Asked graph start target := by
  by_cases there : graph.Has target
  · exact Or.inl (reached.tail ⟨links there, there⟩)
  · exact Or.inr there

theorem Asked.reached {id : String} {node : Node} (asked : Asked graph start id)
    (found : graph.nodeAt? id = some node) : graph.Reached start id :=
  asked.resolve_right fun missing => missing (Graph.has_of_nodeAt? found)

/-- A graph without parts that the start does not reach agrees with the whole graph on everything
that a walk asks about. -/
theorem shares_of_keeping
    (nodes : ∀ node ∈ graph.nodes, graph.Reached start node.id → keepsNode node = true)
    (edges : ∀ edge ∈ graph.edges, graph.Reached start edge.source → keepsEdge edge = true) :
    Shares (Asked graph start) graph (graph.keeping keepsNode keepsEdge) where
  nodes := by
    rintro id asked
    apply Graph.nodeAt?_keeping
    rintro node listed rfl
    rcases asked with reached | missing
    · exact nodes node listed reached
    · exact (missing ⟨node, listed, rfl⟩).elim
  ways := by
    intro id node asked found
    apply Graph.outEdges_keeping
    rintro edge listed rfl
    exact edges edge listed (asked.reached found)
  leads := by
    intro id node asked found edge way
    obtain ⟨flows, source⟩ := Graph.mem_outEdges_iff.mp way
    exact .of_links (asked.reached found) fun _ => Or.inl ⟨edge, flows, source, rfl⟩
  joins := by
    intro id node asked found role named
    obtain ⟨listed, same⟩ := Graph.mem_of_nodeAt? found
    exact .of_links (asked.reached found) fun there =>
      Or.inr ⟨node, listed, role, same, rfl, named, there⟩

/-- Nodes that the start does not reach can be taken out, and so can edges that leave no node that
it reaches: the actions stay the same, or the error does. -/
theorem compile_keeping (only : graph.withRole .start = [start])
    (nodes : ∀ node ∈ graph.nodes, graph.Reached start node.id → keepsNode node = true)
    (edges : ∀ edge ∈ graph.edges, graph.Reached start edge.source → keepsEdge edge = true)
    (ends : (graph.keeping keepsNode keepsEdge).withRole .finish ≠ []) :
    compile settings (graph.keeping keepsNode keepsEdge) = compile settings graph := by
  have listed : start ∈ graph.withRole .start := only ▸ List.mem_singleton_self start
  have kept : keepsNode start = true := nodes start (List.mem_filter.mp listed).1 .refl
  have onlyToo : (graph.keeping keepsNode keepsEdge).withRole .start = [start] := by
    rw [Graph.withRole_keeping, only, List.filter_singleton, kept, cond_true]
  have endsToo : graph.withRole .finish ≠ [] := by
    intro none
    rw [Graph.withRole_keeping, none] at ends
    exact ends rfl
  have walks := @sequence_of_shares settings _ _ _ [] start.id (shares_of_keeping nodes edges)
    (Or.inl .refl)
  simp only [compile, only, onlyToo, List.isEmpty_eq_false_iff.mpr ends,
    List.isEmpty_eq_false_iff.mpr endsToo, walks]

/-- No edge leads to the ends or to the talk, which leads to the join and to one of the ends. -/
def asideScene : Graph where
  nodes := [
    { id := "s", type := "start" },
    { id := "p", type := "parallel_start", params := [("joinId", .str "j")] },
    { id := "w", type := "walk" },
    { id := "j", type := "parallel_join" },
    { id := "k", type := "talk" },
    { id := "y", type := "end" },
    { id := "z", type := "end" }]
  edges := [
    { id := "e1", source := "s", target := "p" },
    { id := "e2", source := "p", target := "w", sourceHandle := some "out_b0" },
    { id := "e3", source := "w", target := "j" },
    { id := "e4", source := "k", target := "j" },
    { id := "e5", source := "k", target := "z" }]

theorem reached_asideScene {id : String}
    (reached : asideScene.Reached { id := "s", type := "start" } id) :
    id ∈ ["s", "p", "w", "j"] :=
  reached.mem_of_closed (by decide) (by decide) (by decide)

/-- Without the talk, its edges and the end that it leads to. -/
theorem compile_keeping_asideScene :
    asideScene.withRole .start = [{ id := "s", type := "start" }] ∧
      (∀ id, asideScene.Reached { id := "s", type := "start" } id → id ∈ ["s", "p", "w", "j"]) ∧
      compile {} asideScene = .ok [.parallel [[.record [("type", .str "walk")]]]] ∧
      compile {} (asideScene.keeping (fun node => node.id ∉ ["k", "z"])
        (fun edge => edge.source ≠ "k")) = compile {} asideScene := by
  have only : asideScene.withRole .start = [{ id := "s", type := "start" }] := rfl
  have compiled : compile {} asideScene = .ok [.parallel [[.record [("type", .str "walk")]]]] := by
    with_unfolding_all rfl
  have apart : ∀ id ∈ ["s", "p", "w", "j"], id ∉ ["k", "z"] := by decide
  refine ⟨only, fun _ => reached_asideScene, compiled, compile_keeping only ?_ ?_ nofun⟩
  · intro node listed reached
    exact decide_eq_true (apart node.id (reached_asideScene reached))
  · intro edge listed reached
    have outside := apart edge.source (reached_asideScene reached)
    exact decide_eq_true fun same => outside (same ▸ List.mem_cons_self)

end Compile

end SceneScript
