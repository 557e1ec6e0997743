import SceneScript.Proofs.Grouping
import SceneScript.Proofs.Scan

/-!
The look-up tables of a graph against scans of its node and edge lists. Main statement: where ids
are unique, the edges at an id are what a scan for it finds, in the order of the graph; the groups
of either table together are all flow edges, each of them once; and the nodes and the names are
those of the node list.
-/

namespace SceneScript

namespace Table

universe u
variable {α : Type u}

/-- A table that parts items into groups: no key has two groups, and together the groups hold each
item once. -/
structure Parts (table : Table (List α)) (items : List α) : Prop where
  distinct : (keys table).Nodup
  whole : (table.flatMap Prod.snd).Perm items

theorem parts_groupBy (keyOf : α → String) (items : List α) :
    (groupBy keyOf items).Parts items where
  distinct := nodup_keys_foldl_push List.nodup_nil
  whole := flatMap_groupBy_perm

end Table

namespace Graph

variable {graph : Graph} {id : String} {node : Node}

theorem flowEdges_scan (graph : Graph) :
    graph.flowEdges = graph.edges.filter fun edge => edge.isPairLink = false := by
  simp [flowEdges]

theorem mem_of_node? (found : graph.node? id = some node) : node ∈ graph.nodes ∧ node.id = id :=
  ⟨List.mem_of_find?_eq_some found, by simpa using List.find?_some found⟩

/-- Where ids are unique, the first node of an id is the last one too. -/
theorem nodeAt?_eq_node? (unique : graph.UniqueIds) (id : String) :
    graph.nodeAt? id = graph.node? id := by
  cases first : graph.node? id with
  | some node => exact (nodeAt?_eq_some_iff unique).mpr (mem_of_node? first)
  | none =>
      have absent := List.find?_eq_none.mp first
      exact List.find?_eq_none.mpr fun node listed => absent node (List.mem_reverse.mp listed)

end Graph

namespace Index

variable {graph : Graph}

/-- An index that answers as scans of the node and edge lists of a graph do. -/
structure AnswersFor (index : Index) (graph : Graph) : Prop where
  outEdges : ∀ id, index.outEdges id =
    graph.edges.filter fun edge => edge.source = id ∧ edge.isPairLink = false
  inEdges : ∀ id, index.inEdges id =
    graph.edges.filter fun edge => edge.target = id ∧ edge.isPairLink = false
  outgoing : index.outgoing.Parts (graph.edges.filter fun edge => edge.isPairLink = false)
  incoming : index.incoming.Parts (graph.edges.filter fun edge => edge.isPairLink = false)
  hasNode : ∀ id, index.hasNode id = true ↔ graph.node? id ≠ none
  node : ∀ id, index.node? id = graph.node? id
  names : ∀ name, name ∈ index.names ↔
    name ≠ "" ∧ ∃ node ∈ graph.nodes, ∃ given ∈ node.name, Text.trim given = name

theorem mem_names_iff_given {name : String} :
    name ∈ (ofGraph graph).names ↔
      name ≠ "" ∧ ∃ node ∈ graph.nodes, ∃ given ∈ node.name, Text.trim given = name := by
  rw [mem_names_iff]
  refine and_congr_right fun named => exists_congr fun node => and_congr_right fun _ => ?_
  cases given : node.name with
  | some text => simp [Node.displayName, given]
  | none =>
      -- A node without a name would show the empty one.
      have unnamed : node.displayName = "" := by
        rw [Node.displayName, given]
        rfl
      simp [unnamed, named.symm]

/-- Where ids are unique, the look-up tables of a graph answer as scans of its lists do. -/
theorem answersFor_ofGraph (unique : graph.UniqueIds) : (ofGraph graph).AnswersFor graph where
  outEdges id := by
    rw [outEdges_ofGraph, Graph.flowEdges_scan, List.filter_filter]
    simp
  inEdges id := by
    rw [inEdges_ofGraph, Graph.flowEdges_scan, List.filter_filter]
    simp
  outgoing := graph.flowEdges_scan ▸ Table.parts_groupBy Edge.source graph.flowEdges
  incoming := graph.flowEdges_scan ▸ Table.parts_groupBy Edge.target graph.flowEdges
  hasNode id := by
    rw [hasNode, node?_ofGraph, Graph.nodeAt?_eq_node? unique, Option.isSome_iff_ne_none]
  node id := by rw [node?_ofGraph, Graph.nodeAt?_eq_node? unique]
  names _ := mem_names_iff_given

/-- The edges of the fork do not all stand together, one of them is a pair link, and the last edge
leads to no node. Two nodes share a name up to blanks, and a third has only blanks for a name. -/
def quayScene : Graph where
  nodes := [
    { id := "s", type := "start", name := some " Quay" },
    { id := "p", type := "parallel_start",
      params := [("branches", .arr [.str "l", .str "r"]), ("joinId", .str "j")] },
    { id := "a", type := "walk", name := some "Quay " },
    { id := "j", type := "parallel_join", name := some "  " },
    { id := "z", type := "end" }]
  edges := [
    { id := "e1", source := "s", target := "p" },
    { id := "e2", source := "p", target := "a", sourceHandle := some "out_l" },
    { id := "e3", source := "p", target := "j", sourceHandle := some Edge.pairHandle },
    { id := "e4", source := "a", target := "j" },
    { id := "e5", source := "p", target := "j", sourceHandle := some "out_r" },
    { id := "e6", source := "j", target := "lost" }]

theorem answersFor_ofGraph_quayScene :
    quayScene.UniqueIds ∧
      ((ofGraph quayScene).outEdges "p").map Edge.id = ["e2", "e5"] ∧
      ((ofGraph quayScene).inEdges "j").map Edge.id = ["e4", "e5"] ∧
      ((ofGraph quayScene).outgoing.flatMap Prod.snd).length = 5 ∧
      (ofGraph quayScene).hasNode "lost" = false ∧
      "Quay" ∈ (ofGraph quayScene).names ∧ "" ∉ (ofGraph quayScene).names := by
  have unique : quayScene.UniqueIds := ⟨by decide, by decide⟩
  have answers := answersFor_ofGraph unique
  refine ⟨unique, ?_, ?_, ?_, ?_, ?_, ?_⟩
  · rw [answers.outEdges]
    decide
  · rw [answers.inEdges]
    decide
  · rw [answers.outgoing.whole.length_eq]
    decide
  · rw [Bool.eq_false_iff, Ne, answers.hasNode, not_not]
    decide
  · exact (answers.names "Quay").mpr ⟨by decide, _, List.mem_cons_self, _, rfl, by decide⟩
  · exact fun listed => ((answers.names "").mp listed).1 rfl

end Index

end SceneScript
