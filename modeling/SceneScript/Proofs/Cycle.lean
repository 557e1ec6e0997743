import Mathlib.Logic.Relation
import SceneScript.Proofs.Configuration
import SceneScript.Proofs.Reachability

/-!
Cycles. Ids are linked by flow edges, and from a fork to the join that its parameter names. Main
statement: a compilation that fails for a cycle names an id that the start is linked to and that is
linked to itself, so that no graph without such a loop fails for a cycle.
-/

namespace SceneScript

open Relation

namespace Graph

variable (graph : Graph)

/-- From a fork to the node that it names as its join. -/
def Ties (source target : String) : Prop :=
  ∃ fork ∈ graph.nodes, fork.role = .fork ∧ fork.id = source ∧
    fork.textParam "joinId" = target ∧ target ≠ "" ∧ graph.Has target

def Links (source target : String) : Prop := graph.Leads source target ∨ graph.Ties source target

variable {graph}

/-- Where every link climbs there is no loop. -/
theorem not_loop_of_climbs (rank : String → Nat)
    (climbs : ∀ source target, graph.Links source target → rank source < rank target)
    (id : String) : ¬ TransGen graph.Links id id := by
  intro loop
  have higher : TransGen (· < ·) (rank id) (rank id) := loop.lift rank climbs
  rw [transGen_eq_self] at higher
  exact Nat.lt_irrefl (rank id) higher

end Graph

namespace Compile

variable {graph : Graph} {config after : Config} {edge : Edge}

theorem leads_of_follows (follows : Follows graph config edge) :
    graph.Leads config.node edge.target := by
  obtain ⟨flows, source⟩ := Graph.mem_outEdges_iff.mp (mem_outEdges_of_follows follows)
  exact ⟨edge, flows, source, rfl⟩

/-- A walk goes from id to id along links, since it resumes only at a join that is there. -/
theorem links_of_next (fits : ConfigFits graph config) (step : Next graph config after) :
    graph.Links config.node after.node := by
  cases step with
  | pass found flat follows => exact Or.inl (leads_of_follows follows)
  | @join id node found role =>
      have joins := roleFits_of_plain found fits
      simp only [RoleFits, role] at joins
      obtain ⟨named, join, joined, -⟩ := joins
      obtain ⟨listed, same⟩ := Graph.mem_of_nodeAt? found
      exact Or.inr ⟨node, listed, role, same, rfl, named, Graph.has_of_nodeAt? joined⟩
  | intoLane found role follows apart => exact Or.inl (leads_of_follows follows)
  | resume follows => exact Or.inl (leads_of_follows follows)
  | inLane found follows apart => exact Or.inl (leads_of_follows follows)

/-- The id that is entered again is linked to from where the walk is, and was entered before or
lies on a loop. -/
theorem Halts.loop {path : List String} {node : String} {inLane : Bool}
    (halts : Halts graph path config (.cycle node inLane)) :
    ReflTransGen graph.Links config.node node ∧
      (node ∈ path ∨ TransGen graph.Links node node) := by
  generalize failure : CompileError.cycle node inLane = error at halts
  induction halts with
  | again old =>
      cases failure
      exact ⟨.refl, Or.inl old⟩
  | faulty fresh fault =>
      -- No place is a cycle by itself.
      subst failure
      cases fault
  | beyond fresh fits step known _ ih =>
      have link := links_of_next fits step
      obtain ⟨ahead, before⟩ := ih failure
      refine ⟨.head link ahead, ?_⟩
      rcases before with old | loop
      · rcases List.mem_cons.mp old with rfl | older
        · exact Or.inr (TransGen.head' link ahead)
        · exact Or.inl older
      · exact Or.inr loop

/-- A failure for a cycle names an id that the only start is linked to and that lies on a loop of
links; without loops there is no such failure. -/
theorem cycle_error_names_loop (settings : Settings) (graph : Graph) :
    (∀ error, compile settings graph = .error error → error.kind = .cycle →
      ∃ start node, graph.withRole .start = [start] ∧ error.nodeId? = some node ∧
        ReflTransGen graph.Links start.id node ∧ TransGen graph.Links node node) ∧
      ((∀ id, ¬ TransGen graph.Links id id) →
        ∀ error, compile settings graph = .error error → error.kind ≠ .cycle) := by
  have named : ∀ error, compile settings graph = .error error → error.kind = .cycle →
      ∃ start node, graph.withRole .start = [start] ∧ error.nodeId? = some node ∧
        ReflTransGen graph.Links start.id node ∧ TransGen graph.Links node node := by
    intro error failed kind
    cases error with
    | cycle node inLane =>
        rcases halts_of_compile failed with ⟨-, other⟩ | ⟨-, other⟩ | ⟨-, other⟩ |
          ⟨start, only, halts⟩
        · cases other
        · cases other
        · cases other
        · obtain ⟨reached, old | loop⟩ := halts.loop
          · cases old
          · exact ⟨start, node, only, rfl, reached, loop⟩
    | _ => cases kind
  refine ⟨named, ?_⟩
  intro loopless error failed kind
  obtain ⟨start, node, -, -, -, loop⟩ := named error failed kind
  exact loopless node loop

/-- After the second fork the walk comes back to the join that both forks name. -/
def tangledScene : Graph where
  nodes := [
    { id := "s", type := "start" },
    { id := "p", type := "parallel_start", params := [("joinId", .str "j")] },
    { id := "j", type := "parallel_join" },
    { id := "q", type := "parallel_start", params := [("joinId", .str "j")] },
    { id := "z", type := "end" }]
  edges := [
    { id := "e1", source := "s", target := "p" },
    { id := "e2", source := "p", target := "j", sourceHandle := some "out_b0" },
    { id := "e3", source := "j", target := "q" }]

/-- The sides of the branch meet, the lanes of the first fork share a node, and a second fork
follows the first. -/
def wovenScene : Graph where
  nodes := [
    { id := "s", type := "start" },
    { id := "b", type := "branch" },
    { id := "x", type := "walk" },
    { id := "m", type := "talk" },
    { id := "p", type := "parallel_start",
      params := [("branches", .arr [.str "l", .str "r"]), ("joinId", .str "j")] },
    { id := "k", type := "turn" },
    { id := "j", type := "parallel_join" },
    { id := "q", type := "parallel_start", params := [("joinId", .str "i")] },
    { id := "i", type := "parallel_join" },
    { id := "z", type := "end" }]
  edges := [
    { id := "e1", source := "s", target := "b" },
    { id := "e2", source := "b", target := "x", sourceHandle := some "out_true" },
    { id := "e3", source := "b", target := "m", sourceHandle := some "out_false" },
    { id := "e4", source := "x", target := "m" },
    { id := "e5", source := "m", target := "p" },
    { id := "e6", source := "p", target := "k", sourceHandle := some "out_l" },
    { id := "e7", source := "p", target := "k", sourceHandle := some "out_r" },
    { id := "e8", source := "k", target := "j" },
    { id := "e9", source := "j", target := "q" },
    { id := "e10", source := "q", target := "i", sourceHandle := some "out_b0" },
    { id := "e11", source := "i", target := "z" }]

/-- The nodes of the scene are listed in an order in which every link leads onwards. -/
theorem not_loop_wovenScene (id : String) : ¬ TransGen wovenScene.Links id id := by
  let rank (id : String) : Nat := (wovenScene.nodes.map Node.id).idxOf id
  have edgesClimb : ∀ edge ∈ wovenScene.flowEdges, rank edge.source < rank edge.target := by
    decide
  have forksClimb : ∀ fork ∈ wovenScene.nodes, fork.role = .fork →
      rank fork.id < rank (fork.textParam "joinId") := by
    decide
  apply Graph.not_loop_of_climbs rank
  rintro source target (⟨edge, flows, rfl, rfl⟩ | ⟨fork, listed, role, rfl, rfl, -⟩)
  · exact edgesClimb edge flows
  · exact forksClimb fork listed role

theorem cycle_error_names_loop_scenes :
    compile {} tangledScene = .error (.cycle "j" false) ∧
      (∃ start node, tangledScene.withRole .start = [start] ∧
        (CompileError.cycle "j" false).nodeId? = some node ∧
        ReflTransGen tangledScene.Links start.id node ∧
        TransGen tangledScene.Links node node) ∧
      (∀ id, ¬ TransGen wovenScene.Links id id) ∧
      ∀ error, compile {} wovenScene = .error error → error.kind ≠ .cycle := by
  have failed : compile {} tangledScene = .error (.cycle "j" false) := by with_unfolding_all rfl
  refine ⟨failed, (cycle_error_names_loop {} tangledScene).1 _ failed rfl, not_loop_wovenScene, ?_⟩
  exact (cycle_error_names_loop {} wovenScene).2 not_loop_wovenScene

end Compile

end SceneScript
