import SceneScript.Proofs.Walked

/-!
Graphs that share what a walk asks for. A walk looks up nodes by their ids and the ways on from a
node, and asks nothing else of a graph. Main statements: in a part that two graphs share and that
has no way out of it, a walk comes to the same actions or to the same error in both; and the order
of the nodes, and of edges that leave different nodes, does not matter to a compilation.
-/

namespace SceneScript

namespace Compile

/-- Two graphs agree on a part that no walk leaves. What is `within` the part is an id, whether or
not the graphs have a node of it. -/
structure Shares (within : String → Prop) (graph other : Graph) : Prop where
  nodes : ∀ {id : String}, within id → other.nodeAt? id = graph.nodeAt? id
  ways : ∀ {id : String} {node : Node}, within id → graph.nodeAt? id = some node →
    other.outEdges id = graph.outEdges id
  leads : ∀ {id : String} {node : Node}, within id → graph.nodeAt? id = some node →
    ∀ edge ∈ graph.outEdges id, within edge.target
  joins : ∀ {id : String} {node : Node}, within id → graph.nodeAt? id = some node →
    node.role = .fork → node.textParam "joinId" ≠ "" → within (node.textParam "joinId")

variable {settings : Settings} {graph other : Graph}

section Parts

variable {walk again : String → Except CompileError (List Action)} {node : Node}

theorem along_of_shares {edge : Edge}
    (nodes : other.nodeAt? edge.target = graph.nodeAt? edge.target)
    (same : again edge.target = walk edge.target) :
    along settings (.ofGraph other) again edge = along settings (.ofGraph graph) walk edge := by
  simp only [along, edgeActions, Index.hasNode, Index.node?_ofGraph, nodes, same]

theorem side_of_shares (settings : Settings) {way : Option Edge}
    (same : ∀ edge ∈ way, along settings (.ofGraph other) again edge =
      along settings (.ofGraph graph) walk edge) :
    side settings (.ofGraph other) again way = side settings (.ofGraph graph) walk way := by
  cases way with
  | none => rfl
  | some edge => exact same edge rfl

theorem onward_of_shares (settings : Settings)
    (ways : other.outEdges node.id = graph.outEdges node.id)
    (same : ∀ edge ∈ graph.outEdges node.id, along settings (.ofGraph other) again edge =
      along settings (.ofGraph graph) walk edge) :
    onward settings (.ofGraph other) again node = onward settings (.ofGraph graph) walk node := by
  simp only [onward, Index.outEdges_scan, ways]
  split
  · rfl
  · rename_i edge one
    exact same edge (one ▸ List.mem_singleton_self edge)
  · rfl

theorem branchSides_of_shares (ways : other.outEdges node.id = graph.outEdges node.id) :
    branchSides (.ofGraph other) node = branchSides (.ofGraph graph) node := by
  simp only [branchSides, Index.outEdges_scan, ways]

theorem joinOf_of_shares
    (nodes : node.textParam "joinId" ≠ "" →
      other.nodeAt? (node.textParam "joinId") = graph.nodeAt? (node.textParam "joinId")) :
    joinOf (.ofGraph other) node = joinOf (.ofGraph graph) node := by
  by_cases unnamed : node.textParam "joinId" = ""
  · simp only [joinOf, unnamed, if_true]
  · simp only [joinOf, Index.node?_ofGraph, nodes unnamed]

theorem lanes_of_shares {edges : List Edge} {ids : List String}
    (same : ∀ edge ∈ edges, along settings (.ofGraph other) again edge =
      along settings (.ofGraph graph) walk edge) :
    lanes settings (.ofGraph other) again edges ids =
      lanes settings (.ofGraph graph) walk edges ids := by
  induction ids with
  | nil => rfl
  | cons id rest ih =>
      rw [lanes, lanes]
      split
      · exact ih
      · rename_i edge first
        rw [same edge (List.mem_of_find?_eq_some first), ih]

theorem enter_of_shares {inLane : Bool} {path : List String} {id : String}
    (nodes : other.nodeAt? id = graph.nodeAt? id) :
    enter (.ofGraph other) inLane path id = enter (.ofGraph graph) inLane path id := by
  simp only [enter, Index.node?_ofGraph, nodes]

end Parts

section Walks

variable {within : String → Prop} {path : List String} {id : String}

theorem along_within (settings : Settings) (shares : Shares within graph other) {node : Node}
    {edge : Edge} {walk again : String → Except CompileError (List Action)} (inside : within id)
    (found : graph.nodeAt? id = some node) (way : edge ∈ graph.outEdges id)
    (same : ∀ next, within next → again next = walk next) :
    along settings (.ofGraph other) again edge = along settings (.ofGraph graph) walk edge := by
  have beyond := shares.leads inside found edge way
  exact along_of_shares (shares.nodes beyond) (same edge.target beyond)

/-- A lane that begins in the shared part is the same in both graphs. -/
theorem lane_of_shares (shares : Shares within graph other) {fork join : String}
    (inside : within id) :
    lane settings (.ofGraph other) fork join path id =
      lane settings (.ofGraph graph) fork join path id := by
  induction path, id using lane.induct (.ofGraph graph) join with
  | case1 path => rw [lane, lane, if_pos rfl, if_pos rfl]
  | case2 path id apart error refused =>
      rw [lane_of_error apart refused, lane_of_error apart]
      rw [enter_of_shares (shares.nodes inside), refused]
  | case3 path id apart node entered bent =>
      obtain ⟨fresh, found⟩ := fresh_of_enter entered
      have foundToo := (shares.nodes inside).trans found
      rw [lane_of_found apart fresh found, lane_of_found apart fresh foundToo, if_pos bent,
        if_pos bent]
  | case4 path id apart node entered flat deadEnd =>
      obtain ⟨fresh, found⟩ := fresh_of_enter entered
      have foundToo := (shares.nodes inside).trans found
      rw [lane_of_found apart fresh found, lane_of_found apart fresh foundToo,
        shares.ways inside found, ← outEdges_of_enter entered, deadEnd]
  | case5 path id apart node entered flat edge way ih =>
      obtain ⟨fresh, found⟩ := fresh_of_enter entered
      have foundToo := (shares.nodes inside).trans found
      rw [outEdges_of_enter entered] at way
      rw [lane_of_found apart fresh found, lane_of_found apart fresh foundToo,
        shares.ways inside found, way]
      simp only [along_within settings shares inside found (way ▸ List.mem_singleton_self edge) ih]
  | case6 path id apart node entered flat some several =>
      obtain ⟨fresh, found⟩ := fresh_of_enter entered
      have foundToo := (shares.nodes inside).trans found
      rw [outEdges_of_enter entered] at several
      rw [lane_of_found apart fresh found, lane_of_found apart fresh foundToo,
        shares.ways inside found]
      rcases ways : graph.outEdges id with _ | ⟨edge, _ | ⟨second, rest⟩⟩
      · rfl
      · exact (several edge ways).elim
      · rfl

theorem lanes_within (shares : Shares within graph other) {fork : Node} {join : String}
    {path ids : List String} (inside : within fork.id)
    (found : graph.nodeAt? fork.id = some fork) :
    lanes settings (.ofGraph other) (lane settings (.ofGraph other) fork.id join path)
        (other.outEdges fork.id) ids =
      lanes settings (.ofGraph graph) (lane settings (.ofGraph graph) fork.id join path)
        (graph.outEdges fork.id) ids := by
  rw [shares.ways inside found]
  exact lanes_of_shares fun edge way =>
    along_within settings shares inside found way fun next beyond => lane_of_shares shares beyond

/-- A sequence that begins in the shared part is the same in both graphs. -/
theorem sequence_of_shares (shares : Shares within graph other) (inside : within id) :
    sequence settings (.ofGraph other) path id = sequence settings (.ofGraph graph) path id := by
  induction path, id using sequence.induct (.ofGraph graph) with
  | case1 path id error refused =>
      have refusedToo := (enter_of_shares (shares.nodes inside)).trans refused
      rw [sequence_of_error refused, sequence_of_error refusedToo]
  | case2 path id node entered role | case3 path id node entered role =>
      obtain ⟨fresh, found⟩ := fresh_of_enter entered
      have foundToo := (shares.nodes inside).trans found
      rw [sequence_of_found fresh found, sequence_of_found fresh foundToo, role]
  | case4 path id node entered role ih | case5 path id node entered role ih =>
      obtain ⟨fresh, found⟩ := fresh_of_enter entered
      have foundToo := (shares.nodes inside).trans found
      obtain rfl := Graph.id_of_nodeAt? found
      have onwards := onward_of_shares settings (shares.ways inside found) fun edge way =>
        along_within settings shares inside found way ih
      rw [sequence_of_found fresh found, sequence_of_found fresh foundToo, role]
      simp only [onwards]
  | case6 path id node entered role ih =>
      obtain ⟨fresh, found⟩ := fresh_of_enter entered
      have foundToo := (shares.nodes inside).trans found
      obtain rfl := Graph.id_of_nodeAt? found
      have onSide (side : Bool) := side_of_shares settings
        fun edge (way : graph.sideEdge node.id side = some edge) =>
          along_within settings shares inside found (Graph.mem_of_sideEdge way) ih
      rw [sequence_of_found fresh found, sequence_of_found fresh foundToo, role]
      simp only [branchSides_of_shares (shares.ways inside found)]
      refine bind_congr_of_ok fun ways opened => ?_
      obtain ⟨-, rfl⟩ := branchSides_eq_ok_iff.mp opened
      simp only [onSide]
  | case7 path id node entered role ih =>
      obtain ⟨fresh, found⟩ := fresh_of_enter entered
      have foundToo := (shares.nodes inside).trans found
      obtain rfl := Graph.id_of_nodeAt? found
      have sameJoin := joinOf_of_shares fun named =>
        shares.nodes (shares.joins inside found role named)
      rw [sequence_of_found fresh found, sequence_of_found fresh foundToo, role]
      simp only [sameJoin, lanes_within shares inside found]
      refine bind_congr_of_ok fun join joined => bind_congr fun groups => ?_
      obtain ⟨named, joins, -⟩ := joinOf_eq_ok_iff.mp joined
      have atJoin := shares.joins inside found role named
      rw [← Graph.id_of_nodeAt? joins] at atJoin
      rw [enter_of_shares (shares.nodes atJoin)]
      refine bind_congr_of_ok fun after resumed => ?_
      have again := (fresh_of_enter resumed).2
      have onwards := onward_of_shares settings
        (Graph.id_of_nodeAt? again ▸ shares.ways atJoin again) fun edge way =>
          along_within settings shares atJoin again (Graph.id_of_nodeAt? again ▸ way)
            (ih join after resumed)
      rw [onwards]

end Walks

end Compile

namespace Graph

variable {graph other : Graph}

/-- The same nodes and edges in another order, which keeps the ways on from each node in order. The
links that only tie a fork to its join may stand anywhere. -/
structure Reordered (graph other : Graph) : Prop where
  nodes : graph.nodes.Perm other.nodes
  edges : graph.edges.Perm other.edges
  ways : ∀ source, other.outEdges source = graph.outEdges source

end Graph

namespace Compile

variable {settings : Settings} {graph other : Graph}

theorem shares_of_reordered (unique : graph.UniqueIds) (same : graph.Reordered other) :
    Shares (fun _ => True) graph other where
  nodes _ := Graph.nodeAt?_of_perm unique same.nodes same.edges _
  ways _ _ := same.ways _
  leads _ _ _ _ := trivial
  joins _ _ _ _ := trivial

/-- A compilation does not depend on the order of the nodes, nor on the order of the edges beyond
the order in which each node lists its ways on: the actions are the same, or the error. -/
theorem compile_of_reordered {start : Node} (unique : graph.UniqueIds)
    (only : graph.withRole .start = [start]) (same : graph.Reordered other) :
    compile settings other = compile settings graph := by
  have onlyToo : other.withRole .start = [start] :=
    List.perm_singleton.mp (only ▸ (Graph.withRole_perm same.nodes .start).symm)
  have ends : (other.withRole .finish).isEmpty = (graph.withRole .finish).isEmpty :=
    (Graph.withRole_perm same.nodes .finish).symm.isEmpty_eq
  simp only [compile, only, onlyToo, ends,
    sequence_of_shares (shares_of_reordered unique same) trivial]

/-- Two edges on no output of a branch: the first is the side where the condition holds. -/
def choiceWays : List Edge :=
  [{ id := "e2", source := "b", target := "x" }, { id := "e3", source := "b", target := "p" }]

/-- The other edges of the scene, among them a link that ties its fork to its join. -/
def plainWays : List Edge := [
  { id := "e1", source := "s", target := "b" },
  { id := "e4", source := "p", target := "j", sourceHandle := some "out_b0" },
  { id := "e5", source := "p", target := "j", sourceHandle := some Edge.pairHandle }]

/-- A branch with a fork on one of its sides. -/
def choiceScene : Graph where
  nodes := [
    { id := "s", type := "start" },
    { id := "b", type := "branch", params := [("condition", .str "late")] },
    { id := "x", type := "walk" },
    { id := "p", type := "parallel_start", params := [("joinId", .str "j")] },
    { id := "j", type := "parallel_join" },
    { id := "z", type := "end" }]
  edges := choiceWays ++ plainWays

/-- The same scene from its last node to its first; only the two edges of the branch must stay in
order. -/
def reorderedScene : Graph where
  nodes := choiceScene.nodes.reverse
  edges := plainWays.reverse ++ choiceWays

theorem reordered_choiceScene : choiceScene.Reordered reorderedScene where
  nodes := (List.reverse_perm choiceScene.nodes).symm
  edges := List.perm_append_comm.trans ((List.reverse_perm plainWays).symm.append_right choiceWays)
  ways source := by
    by_cases fromStart : "s" = source
    · subst fromStart
      rfl
    by_cases fromBranch : "b" = source
    · subst fromBranch
      rfl
    by_cases fromFork : "p" = source
    · subst fromFork
      rfl
    simp [Graph.outEdges, Graph.flowEdges, reorderedScene, choiceScene, choiceWays, plainWays,
      fromStart, fromBranch, fromFork]

theorem compile_of_reordered_choiceScene :
    choiceScene.UniqueIds ∧
      choiceScene.withRole .start = [{ id := "s", type := "start" }] ∧
      choiceScene.Reordered reorderedScene ∧
      compile {} choiceScene =
        .ok [.branch "late" [.record [("type", .str "walk")]] [.parallel []]] ∧
      compile {} reorderedScene = compile {} choiceScene := by
  have unique : choiceScene.UniqueIds := ⟨by decide, by decide⟩
  have only : choiceScene.withRole .start = [{ id := "s", type := "start" }] := rfl
  have compiled : compile {} choiceScene =
      .ok [.branch "late" [.record [("type", .str "walk")]] [.parallel []]] := by
    with_unfolding_all rfl
  exact ⟨unique, only, reordered_choiceScene, compiled,
    compile_of_reordered unique only reordered_choiceScene⟩

end Compile

end SceneScript
