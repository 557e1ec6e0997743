import SceneScript.Proofs.Cycle

/-!
What a compilation error blames. A walk goes along links, and enters an id only after a node of it
was found, so the place where it fails is a node that the start reaches. Main statement: an error
names such a node, or a way on from such a node that leads to none, or it is about the ends of the
graph and names neither.
-/

namespace SceneScript

open Relation

namespace Graph

variable (graph : Graph)

/-- A link to a node that is there. -/
def Connects (source target : String) : Prop := graph.Links source target ∧ graph.Has target

/-- The ids of the nodes that the start is linked to, in any number of steps from node to node. -/
def Reached (start : Node) (id : String) : Prop := ReflTransGen graph.Connects start.id id

variable {graph}

theorem Reached.has {start : Node} {id : String} (reached : graph.Reached start id)
    (listed : start ∈ graph.nodes) : graph.Has id := by
  cases reached with
  | refl => exact ⟨start, listed, rfl⟩
  | tail _ last => exact last.2

end Graph

namespace Compile

variable {graph : Graph} {config : Config} {error : CompileError}

/-- What an error may blame. -/
structure Blames (graph : Graph) (error : CompileError) : Prop where
  known : ∀ id, error ≠ .unknownNode id
  node : ∀ id, error.nodeId? = some id → ∃ start, graph.withRole .start = [start] ∧
    graph.Has id ∧ graph.Reached start id
  edge : ∀ id, error.edgeId? = some id → ∃ start, graph.withRole .start = [start] ∧
    ∃ edge ∈ graph.flowEdges, edge.id = id ∧ ¬ graph.Has edge.target ∧
      graph.Reached start edge.source
  cycle : error.kind = .cycle → (∃ id, error.nodeId? = some id) ∧ error.edgeId? = none

/-- An error about the ends of the graph names no part of it. -/
theorem blames_of_unnamed (node : error.nodeId? = none) (edge : error.edgeId? = none)
    (kind : error.kind ≠ .cycle) : Blames graph error where
  known := by
    rintro id rfl
    cases node
  node := by
    intro id named
    cases node.symm.trans named
  edge := by
    intro id named
    cases edge.symm.trans named
  cycle same := (kind same).elim

/-- A walk fails where it has come to, for a cycle there or for a fault of the place. -/
theorem Halts.located {path : List String} (halts : Halts graph path config error) :
    ∃ last, ReflTransGen graph.Connects config.node last.node ∧
      (error = .cycle last.node last.isInLane ∨ Fault graph last error) := by
  induction halts with
  | again old => exact ⟨_, .refl, Or.inl rfl⟩
  | faulty fresh fault => exact ⟨_, .refl, Or.inr fault⟩
  | beyond fresh fits step known _ ih =>
      obtain ⟨last, ahead, ends⟩ := ih
      exact ⟨last, .head ⟨links_of_next fits step, known⟩ ahead, ends⟩

/-- The fault of a place names the node there, or an edge that is followed from it to no node. -/
theorem Fault.names (fault : Fault graph config error) :
    (error.nodeId? = some config.node ∧ error.edgeId? = none) ∨
      ∃ edge, Follows graph config edge ∧ ¬ graph.Has edge.target ∧
        error.nodeId? = none ∧ error.edgeId? = some edge.id := by
  cases fault with
  | unknownTarget follows missing => exact Or.inr ⟨_, follows, missing, rfl, rfl⟩
  | _ => exact Or.inl ⟨rfl, rfl⟩

theorem Fault.known (fault : Fault graph config error) (id : String) : error ≠ .unknownNode id := by
  cases fault <;> exact nofun

theorem Fault.not_cycle (fault : Fault graph config error) : error.kind ≠ .cycle := by
  cases fault <;> exact nofun

/-- A fault at a place that the start reaches is blamed on the node there or on a way on from it. -/
theorem Fault.blames {start : Node} (fault : Fault graph config error)
    (only : graph.withRole .start = [start]) (known : graph.Has config.node)
    (reached : graph.Reached start config.node) : Blames graph error where
  known := fault.known
  node := by
    intro id named
    rcases fault.names with ⟨node, -⟩ | ⟨edge, -, -, unnamed, -⟩
    · cases node.symm.trans named
      exact ⟨start, only, known, reached⟩
    · cases unnamed.symm.trans named
  edge := by
    intro id named
    rcases fault.names with ⟨-, unnamed⟩ | ⟨edge, follows, missing, -, own⟩
    · cases unnamed.symm.trans named
    · cases own.symm.trans named
      obtain ⟨flows, source⟩ := Graph.mem_outEdges_iff.mp (mem_outEdges_of_follows follows)
      exact ⟨start, only, edge, flows, rfl, missing, source.symm ▸ reached⟩
  cycle kind := (fault.not_cycle kind).elim

theorem blames_of_cycle {start : Node} {id : String} {inLane : Bool}
    (only : graph.withRole .start = [start]) (known : graph.Has id)
    (reached : graph.Reached start id) : Blames graph (.cycle id inLane) where
  known := nofun
  node := by
    intro named same
    cases same
    exact ⟨start, only, known, reached⟩
  edge := nofun
  cycle _ := ⟨⟨id, rfl⟩, rfl⟩

/-- A compilation error blames a node that is there and that the start reaches, or an edge that
leaves such a node and leads to none. -/
theorem error_blames_reached {settings : Settings}
    (failed : compile settings graph = .error error) : Blames graph error := by
  rcases halts_of_compile failed with ⟨-, rfl⟩ | ⟨-, rfl⟩ | ⟨-, rfl⟩ | ⟨start, only, halts⟩
  · exact blames_of_unnamed rfl rfl nofun
  · exact blames_of_unnamed rfl rfl nofun
  · exact blames_of_unnamed rfl rfl nofun
  · obtain ⟨last, reached, place⟩ := halts.located
    have listed : start ∈ graph.withRole .start := only ▸ List.mem_singleton_self start
    have known := Graph.Reached.has reached (List.mem_filter.mp listed).1
    rcases place with rfl | fault
    · exact blames_of_cycle only known reached
    · exact fault.blames only known reached

/-- The way on from the join leads to a node that is not there; to the join itself leads no edge. -/
def frayedScene : Graph where
  nodes := [
    { id := "s", type := "start" },
    { id := "p", type := "parallel_start", params := [("joinId", .str "j")] },
    { id := "j", type := "parallel_join" },
    { id := "z", type := "end" }]
  edges := [
    { id := "e1", source := "s", target := "p" },
    { id := "e2", source := "j", target := "gone" }]

theorem error_blames_reached_frayedScene :
    compile {} frayedScene = .error (.unknownTarget "e2" "gone") ∧
      Blames frayedScene (.unknownTarget "e2" "gone") := by
  have failed : compile {} frayedScene = .error (.unknownTarget "e2" "gone") := by
    with_unfolding_all rfl
  exact ⟨failed, error_blames_reached failed⟩

end Compile

end SceneScript
