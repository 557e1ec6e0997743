import Mathlib.Data.List.Nodup
import SceneScript.Graph.Index

/-!
Scans of the node and edge lists of a graph: the node of an id, the flow edges at an id, and the
edges that begin the lanes of a fork and the sides of a branch. The look-up tables answer as these
scans do, on every graph.
-/

namespace SceneScript

namespace Table

universe u
variable {α : Type u}

theorem get?_foldl_insert (entries : List (String × α)) (table : Table α) (key : String) :
    get? (entries.foldl (fun table entry => insert table entry.1 entry.2) table) key =
      ((entries.reverse.find? (·.1 == key)).map Prod.snd).or (get? table key) := by
  induction entries generalizing table with
  | nil => rfl
  | cons entry rest ih =>
      -- The first entry speaks only where no later one has its key.
      rw [List.foldl_cons, ih, get?_insert, List.reverse_cons, List.find?_append]
      by_cases hit : entry.1 = key
      · cases later : rest.reverse.find? (·.1 == key) <;> simp [hit]
      · cases later : rest.reverse.find? (·.1 == key) <;> simp [hit]

theorem get?_foldl_insert_of_not_mem {entries : List (String × α)} {table : Table α} {key : String}
    (absent : key ∉ keys entries) :
    get? (entries.foldl (fun table entry => insert table entry.1 entry.2) table) key =
      get? table key := by
  have unnamed : entries.reverse.find? (·.1 == key) = none := by
    rw [List.find?_eq_none]
    intro entry listed named
    exact absent (List.mem_map.mpr ⟨entry, List.mem_reverse.mp listed, beq_iff_eq.mp named⟩)
  rw [get?_foldl_insert, unnamed]
  rfl

/-- Of several entries of one key the last speaks. -/
theorem get?_ofEntries (entries : List (String × α)) (key : String) :
    get? (ofEntries entries) key = (entries.reverse.find? (·.1 == key)).map Prod.snd := by
  rw [ofEntries, get?_foldl_insert]
  exact Option.or_none

end Table

namespace Edge

/-- The outputs of a branch: for a condition that holds, and for one that does not. -/
def sideHandle (side : Bool) : String := if side then "out_true" else "out_false"

def isOnSide (side : Bool) (edge : Edge) : Bool := edge.sourceHandle == some (sideHandle side)

end Edge

namespace Graph

variable (graph : Graph)

/-- The node of an id, the last one where several nodes share it. -/
def nodeAt? (id : String) : Option Node := graph.nodes.reverse.find? (·.id == id)

def Has (id : String) : Prop := ∃ node ∈ graph.nodes, node.id = id

def outEdges (id : String) : List Edge := graph.flowEdges.filter fun edge => edge.source = id

/-- The edge that begins a lane of a fork. -/
def laneEdge (fork lane : String) : Option Edge :=
  (graph.outEdges fork).find? (·.sourceHandle == some ("out_" ++ lane))

/-- The sides of a branch on whose output no edge is. -/
def openSides (edges : List Edge) : List Bool :=
  [true, false].filter fun side => !edges.any (Edge.isOnSide side)

def unsidedEdges (edges : List Edge) : List Edge :=
  edges.filter fun edge => !edge.isOnSide true && !edge.isOnSide false

/-- The edge of a side of a branch: the one on its output; else the edges on neither output are
given to the open sides in order. -/
def sideEdge (branch : String) (side : Bool) : Option Edge :=
  let edges := graph.outEdges branch
  (edges.find? (Edge.isOnSide side)).or
    (((openSides edges).zip (unsidedEdges edges)).lookup side)

variable {graph}

theorem mem_of_nodeAt? {id : String} {node : Node} (found : graph.nodeAt? id = some node) :
    node ∈ graph.nodes ∧ node.id = id :=
  ⟨List.mem_reverse.mp (List.mem_of_find?_eq_some found), by simpa using List.find?_some found⟩

theorem id_of_nodeAt? {id : String} {node : Node} (found : graph.nodeAt? id = some node) :
    node.id = id := (mem_of_nodeAt? found).2

theorem has_of_nodeAt? {id : String} {node : Node} (found : graph.nodeAt? id = some node) :
    graph.Has id := ⟨node, mem_of_nodeAt? found⟩

theorem isSome_nodeAt?_iff {id : String} : (graph.nodeAt? id).isSome = true ↔ graph.Has id := by
  simp [nodeAt?, Has]

theorem Has.nodeAt? {id : String} (known : graph.Has id) :
    ∃ node, graph.nodeAt? id = some node :=
  Option.isSome_iff_exists.mp (isSome_nodeAt?_iff.mpr known)

theorem not_has_of_nodeAt? {id : String} (missing : graph.nodeAt? id = none) : ¬ graph.Has id := by
  rw [← isSome_nodeAt?_iff, missing]
  exact Bool.false_ne_true

theorem eq_of_id_eq (unique : graph.UniqueIds) {one other : Node} (a : one ∈ graph.nodes)
    (b : other ∈ graph.nodes) (same : one.id = other.id) : one = other :=
  List.inj_on_of_nodup_map unique.1 a b same

/-- Where ids are unique, looking a node up and finding it in the list are one. -/
theorem nodeAt?_eq_some_iff (unique : graph.UniqueIds) {id : String} {node : Node} :
    graph.nodeAt? id = some node ↔ node ∈ graph.nodes ∧ node.id = id := by
  constructor
  · exact mem_of_nodeAt?
  · rintro ⟨member, rfl⟩
    obtain ⟨other, found⟩ := Has.nodeAt? ⟨node, member, rfl⟩
    have listed := mem_of_nodeAt? found
    rw [found, eq_of_id_eq unique listed.1 member listed.2]

theorem uniqueIds_of_perm {other : Graph} (unique : graph.UniqueIds)
    (nodes : graph.nodes.Perm other.nodes) (edges : graph.edges.Perm other.edges) :
    other.UniqueIds :=
  ⟨(nodes.map Node.id).nodup_iff.mp unique.1, (edges.map Edge.id).nodup_iff.mp unique.2⟩

/-- A look-up does not depend on the order of nodes that share no id. -/
theorem nodeAt?_of_perm {other : Graph} (unique : graph.UniqueIds)
    (nodes : graph.nodes.Perm other.nodes) (edges : graph.edges.Perm other.edges) (id : String) :
    other.nodeAt? id = graph.nodeAt? id := by
  refine Option.ext fun node => ?_
  rw [nodeAt?_eq_some_iff (uniqueIds_of_perm unique nodes edges), nodeAt?_eq_some_iff unique,
    nodes.mem_iff]

theorem withRole_perm {other : Graph} (nodes : graph.nodes.Perm other.nodes) (role : Role) :
    (graph.withRole role).Perm (other.withRole role) :=
  nodes.filter _

theorem mem_flowEdges_iff {edge : Edge} :
    edge ∈ graph.flowEdges ↔ edge ∈ graph.edges ∧ edge.isPairLink = false := by
  simp [flowEdges]

theorem mem_outEdges_iff {id : String} {edge : Edge} :
    edge ∈ graph.outEdges id ↔ edge ∈ graph.flowEdges ∧ edge.source = id := by
  simp [outEdges]

theorem mem_of_laneEdge {fork lane : String} {edge : Edge}
    (begins : graph.laneEdge fork lane = some edge) : edge ∈ graph.outEdges fork :=
  List.mem_of_find?_eq_some begins

theorem mem_of_sideEdge {branch : String} {side : Bool} {edge : Edge}
    (way : graph.sideEdge branch side = some edge) : edge ∈ graph.outEdges branch := by
  rcases Option.or_eq_some_iff.mp way with onOutput | ⟨-, given⟩
  · exact List.mem_of_find?_eq_some onOutput
  · obtain ⟨before, after, split, -⟩ := List.lookup_eq_some_iff.mp given
    have paired : (side, edge) ∈ (openSides (graph.outEdges branch)).zip
        (unsidedEdges (graph.outEdges branch)) := by
      rw [split]
      exact List.mem_append_right before List.mem_cons_self
    exact (List.mem_filter.mp (List.of_mem_zip paired).2).1

end Graph

namespace Index

variable (graph : Graph)

@[simp]
theorem node?_ofGraph (id : String) : (ofGraph graph).node? id = graph.nodeAt? id := by
  simp only [node?, ofGraph, Table.get?_ofEntries, Graph.nodeAt?, ← List.map_reverse,
    List.find?_map, Option.map_map]
  exact Option.map_id'

@[simp]
theorem hasNode_ofGraph (id : String) : (ofGraph graph).hasNode id = true ↔ graph.Has id := by
  rw [hasNode, node?_ofGraph, Graph.isSome_nodeAt?_iff]

/-- The flow edges at an id, as the tables have them, are those of a scan. -/
@[simp]
theorem outEdges_scan (id : String) : (ofGraph graph).outEdges id = graph.outEdges id :=
  outEdges_ofGraph graph id

theorem mem_names_iff {graph : Graph} {name : String} :
    name ∈ (ofGraph graph).names ↔ name ≠ "" ∧ ∃ node ∈ graph.nodes, node.displayName = name := by
  simp [ofGraph, and_comm]

end Index

end SceneScript
