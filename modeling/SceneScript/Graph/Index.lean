import SceneScript.Graph.Basic

/-!
Look-up tables over a graph: nodes by id, flow edges by either end, and the names in use. Groups
keep the order of the edges, so that each equals a scan of the whole edge list.
-/

namespace SceneScript

structure Index where
  graph : Graph
  nodes : Table Node
  outgoing : Table (List Edge)
  incoming : Table (List Edge)
  names : List String

namespace Index

def ofGraph (graph : Graph) : Index where
  graph
  nodes := Table.ofEntries (graph.nodes.map fun node => (node.id, node))
  outgoing := Table.groupBy Edge.source graph.flowEdges
  incoming := Table.groupBy Edge.target graph.flowEdges
  names := ((graph.nodes.map Node.displayName).filter (· != "")).eraseDups

def node? (index : Index) (id : String) : Option Node := Table.get? index.nodes id

def hasNode (index : Index) (id : String) : Bool := (index.node? id).isSome

def outEdges (index : Index) (id : String) : List Edge := Table.group index.outgoing id

def inEdges (index : Index) (id : String) : List Edge := Table.group index.incoming id

theorem outEdges_ofGraph (graph : Graph) (id : String) :
    (ofGraph graph).outEdges id = graph.flowEdges.filter (fun edge => edge.source = id) :=
  Table.group_groupBy Edge.source graph.flowEdges id

theorem inEdges_ofGraph (graph : Graph) (id : String) :
    (ofGraph graph).inEdges id = graph.flowEdges.filter (fun edge => edge.target = id) :=
  Table.group_groupBy Edge.target graph.flowEdges id

end Index

end SceneScript
