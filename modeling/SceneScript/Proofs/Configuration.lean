import SceneScript.Proofs.Walked

/-!
Configurations of a walk: a node together with how it was entered. They say where a walk can go
and what each place asks of the graph, without a word on the walk itself. Main statement: a walk
that fails does so at a configuration that it can reach, either because the node there was entered
before or because the place is at fault by itself.
-/

namespace SceneScript

inductive Config where
  | plain (id : String)
  | resumed (join : String)
  | inLane (fork id : String)

namespace Config

def node : Config → String
  | plain id => id
  | resumed join => join
  | inLane _ id => id

def isInLane : Config → Bool
  | inLane _ _ => true
  | _ => false

end Config

namespace Compile

variable (graph : Graph)

/-- The edges that are followed from a configuration: the way on from a plain node or a resumed
join, the sides of a branch, the first edge of each declared lane, and the way on in a lane. -/
inductive Follows : Config → Edge → Prop where
  | pass {id : String} {node : Node} {edge : Edge} (found : graph.nodeAt? id = some node)
      (role : node.role = .start ∨ node.role = .step) (way : edge ∈ graph.outEdges id) :
      Follows (.plain id) edge
  | side {id : String} {node : Node} {edge : Edge} (side : Bool)
      (found : graph.nodeAt? id = some node) (role : node.role = .branch)
      (way : graph.sideEdge id side = some edge) : Follows (.plain id) edge
  | lane {id : String} {node : Node} {edge : Edge} (lane : String)
      (found : graph.nodeAt? id = some node) (role : node.role = .fork)
      (declared : lane ∈ node.laneIds) (begins : graph.laneEdge id lane = some edge) :
      Follows (.plain id) edge
  | resumed {join : String} {edge : Edge} (way : edge ∈ graph.outEdges join) :
      Follows (.resumed join) edge
  | inLane {fork id : String} {edge : Edge} (way : edge ∈ graph.outEdges id) :
      Follows (.inLane fork id) edge

/-- One configuration after another. A lane ends before the join of its fork. -/
inductive Next : Config → Config → Prop where
  | pass {id : String} {node : Node} {edge : Edge} (found : graph.nodeAt? id = some node)
      (flat : node.role ≠ .fork) (follows : Follows graph (.plain id) edge) :
      Next (.plain id) (.plain edge.target)
  | join {id : String} {node : Node} (found : graph.nodeAt? id = some node)
      (role : node.role = .fork) : Next (.plain id) (.resumed (node.textParam "joinId"))
  | intoLane {id : String} {node : Node} {edge : Edge} (found : graph.nodeAt? id = some node)
      (role : node.role = .fork) (follows : Follows graph (.plain id) edge)
      (apart : edge.target ≠ node.textParam "joinId") : Next (.plain id) (.inLane id edge.target)
  | resume {join : String} {edge : Edge} (follows : Follows graph (.resumed join) edge) :
      Next (.resumed join) (.plain edge.target)
  | inLane {fork id : String} {node : Node} {edge : Edge}
      (found : graph.nodeAt? fork = some node) (follows : Follows graph (.inLane fork id) edge)
      (apart : edge.target ≠ node.textParam "joinId") :
      Next (.inLane fork id) (.inLane fork edge.target)

/-- What a plain node asks of its own edges and parameters, by its role. -/
def RoleFits (id : String) (node : Node) : Prop :=
  match node.role with
  | .start | .step => (graph.outEdges id).length ≤ 1
  | .branch => SidesFit graph id
  | .fork =>
      node.textParam "joinId" ≠ "" ∧
        ∃ join, graph.nodeAt? (node.textParam "joinId") = some join ∧ join.role = .join
  | .finish | .join => True

def ConfigFits : Config → Prop
  | .plain id => ∃ node, graph.nodeAt? id = some node ∧ RoleFits graph id node
  | .resumed join => (graph.outEdges join).length ≤ 1
  | .inLane _ id =>
      ∃ node, graph.nodeAt? id = some node ∧ ¬ (node.role = .branch ∨ node.role = .fork) ∧
        (graph.outEdges id).length = 1

/-- A configuration is sound if its node fits and each edge followed from it leads to a node. -/
structure Sound (config : Config) : Prop where
  fits : ConfigFits graph config
  leads : ∀ edge, Follows graph config edge → graph.Has edge.target

/-- What is wrong with a configuration by itself, whatever was entered before. -/
inductive Fault : Config → CompileError → Prop where
  | unknownTarget {config : Config} {edge : Edge} (follows : Follows graph config edge)
      (missing : ¬ graph.Has edge.target) : Fault config (.unknownTarget edge.id edge.target)
  | severalPlain {id : String} {node : Node} (found : graph.nodeAt? id = some node)
      (role : node.role = .start ∨ node.role = .step) (several : 1 < (graph.outEdges id).length) :
      Fault (.plain id) (.severalOutgoing id (graph.outEdges id).length)
  | severalResumed {join : String} (several : 1 < (graph.outEdges join).length) :
      Fault (.resumed join) (.severalOutgoing join (graph.outEdges join).length)
  | branchEdges {id : String} {node : Node} (found : graph.nodeAt? id = some node)
      (role : node.role = .branch) (many : 2 < (graph.outEdges id).length) :
      Fault (.plain id) (.branchEdges id (graph.outEdges id).length)
  | branchOutput {id : String} {node : Node} (found : graph.nodeAt? id = some node)
      (role : node.role = .branch) (side : Bool)
      (crowded : 1 < (graph.outEdges id).countP (Edge.isOnSide side)) :
      Fault (.plain id) (.branchOutput id)
  | noJoin {id : String} {node : Node} (found : graph.nodeAt? id = some node)
      (role : node.role = .fork) (unnamed : node.textParam "joinId" = "") :
      Fault (.plain id) (.noJoin id)
  | unknownJoin {id : String} {node : Node} (found : graph.nodeAt? id = some node)
      (role : node.role = .fork) (named : node.textParam "joinId" ≠ "")
      (missing : graph.nodeAt? (node.textParam "joinId") = none) :
      Fault (.plain id) (.unknownJoin id (node.textParam "joinId"))
  | wrongJoin {id : String} {node other : Node} (found : graph.nodeAt? id = some node)
      (role : node.role = .fork) (named : node.textParam "joinId" ≠ "")
      (joins : graph.nodeAt? (node.textParam "joinId") = some other) (wrong : other.role ≠ .join) :
      Fault (.plain id) (.wrongJoin id (node.textParam "joinId"))
  | laneForks {fork id join : String} {node : Node} (found : graph.nodeAt? id = some node)
      (bent : node.role = .branch ∨ node.role = .fork) :
      Fault (.inLane fork id) (.laneForks fork id join)
  | laneEnds {fork id join : String} (deadEnd : graph.outEdges id = []) :
      Fault (.inLane fork id) (.laneEnds id join)
  | laneSplits {fork id : String} {node : Node} (found : graph.nodeAt? id = some node)
      (flat : ¬ (node.role = .branch ∨ node.role = .fork))
      (several : 1 < (graph.outEdges id).length) :
      Fault (.inLane fork id) (.laneSplits id (graph.outEdges id).length)

/-- From configuration to configuration, each with the ids entered before it. -/
inductive Trail : List String → Config → List String → Config → Prop where
  | here {path : List String} {config : Config} : Trail path config path config
  | next {path path' : List String} {config after last : Config} (fresh : config.node ∉ path)
      (step : Next graph config after) (trail : Trail (config.node :: path) after path' last) :
      Trail path config path' last

/-- Why a walk ends in an error at a configuration. -/
def Stuck (path : List String) (config : Config) (error : CompileError) : Prop :=
  (config.node ∈ path ∧ error = .cycle config.node config.isInLane) ∨
    (config.node ∉ path ∧ Fault graph config error)

/-- A walk from a configuration gets stuck at one that it can reach. -/
def Fails (path : List String) (config : Config) (error : CompileError) : Prop :=
  ∃ path' last, Trail graph path config path' last ∧ Stuck graph path' last error

/-- How a walk comes to an error: the node was entered before, or the place is at fault, or the
walk goes on. It does so only from a place that fits, and to a node that the graph has. -/
inductive Halts : List String → Config → CompileError → Prop where
  | again {path : List String} {config : Config} (old : config.node ∈ path) :
      Halts path config (.cycle config.node config.isInLane)
  | faulty {path : List String} {config : Config} {error : CompileError}
      (fresh : config.node ∉ path) (fault : Fault graph config error) : Halts path config error
  | beyond {path : List String} {config after : Config} {error : CompileError}
      (fresh : config.node ∉ path) (fits : ConfigFits graph config)
      (step : Next graph config after) (known : graph.Has after.node)
      (halts : Halts (config.node :: path) after error) : Halts path config error

variable {graph}

theorem mem_outEdges_of_follows {config : Config} {edge : Edge}
    (follows : Follows graph config edge) : edge ∈ graph.outEdges config.node := by
  cases follows with
  | pass found role way => exact way
  | side side found role way => exact Graph.mem_of_sideEdge way
  | lane lane found role declared begins => exact Graph.mem_of_laneEdge begins
  | resumed way => exact way
  | inLane way => exact way

theorem mem_edges_of_follows {config : Config} {edge : Edge}
    (follows : Follows graph config edge) : edge ∈ graph.edges := by
  have flows := (Graph.mem_outEdges_iff.mp (mem_outEdges_of_follows follows)).1
  exact (Graph.mem_flowEdges_iff.mp flows).1

/-- The edges followed from a plain node, by its role. -/
theorem follows_plain_iff {id : String} {node : Node} {edge : Edge}
    (found : graph.nodeAt? id = some node) :
    Follows graph (.plain id) edge ↔
      ((node.role = .start ∨ node.role = .step) ∧ edge ∈ graph.outEdges id) ∨
        (node.role = .branch ∧ ∃ side, graph.sideEdge id side = some edge) ∨
        (node.role = .fork ∧ ∃ lane ∈ node.laneIds, graph.laneEdge id lane = some edge) := by
  constructor
  · intro follows
    cases follows with
    | pass again role way =>
        cases found.symm.trans again
        exact Or.inl ⟨role, way⟩
    | side side again role way =>
        cases found.symm.trans again
        exact Or.inr (Or.inl ⟨role, side, way⟩)
    | lane lane again role declared begins =>
        cases found.symm.trans again
        exact Or.inr (Or.inr ⟨role, lane, declared, begins⟩)
  · rintro (⟨role, way⟩ | ⟨role, side, way⟩ | ⟨role, lane, declared, begins⟩)
    · exact .pass found role way
    · exact .side side found role way
    · exact .lane lane found role declared begins

/-- What can come after a plain node. -/
theorem next_plain {id : String} {node : Node} {after : Config}
    (found : graph.nodeAt? id = some node) (step : Next graph (.plain id) after) :
    (node.role ≠ .fork ∧ ∃ edge, Follows graph (.plain id) edge ∧ after = .plain edge.target) ∨
      (node.role = .fork ∧ (after = .resumed (node.textParam "joinId") ∨
        ∃ edge, Follows graph (.plain id) edge ∧ edge.target ≠ node.textParam "joinId" ∧
          after = .inLane id edge.target)) := by
  cases step with
  | pass again flat follows =>
      cases found.symm.trans again
      exact Or.inl ⟨flat, _, follows, rfl⟩
  | join again role =>
      cases found.symm.trans again
      exact Or.inr ⟨role, Or.inl rfl⟩
  | intoLane again role follows apart =>
      cases found.symm.trans again
      exact Or.inr ⟨role, Or.inr ⟨_, follows, apart, rfl⟩⟩

theorem follows_mem_way {config : Config} {edge : Edge} {way : Option Edge}
    (follows : Follows graph config edge) (ways : graph.outEdges config.node = way.toList) :
    edge ∈ way := by
  have listed := mem_outEdges_of_follows follows
  rw [ways] at listed
  exact Option.mem_toList.mp listed

theorem roleFits_of_plain {id : String} {node : Node} (found : graph.nodeAt? id = some node)
    (fits : ConfigFits graph (.plain id)) : RoleFits graph id node := by
  obtain ⟨other, again, fits⟩ := fits
  cases found.symm.trans again
  exact fits

/-- A fault is what soundness excludes. -/
theorem not_sound_of_fault {config : Config} {error : CompileError}
    (fault : Fault graph config error) : ¬ Sound graph config := by
  rintro ⟨fits, leads⟩
  cases fault with
  | unknownTarget follows missing => exact missing (leads _ follows)
  | severalPlain found role several =>
      have few := roleFits_of_plain found fits
      rcases role with role | role <;> simp only [RoleFits, role] at few <;>
        exact Nat.not_lt.mpr few several
  | severalResumed several => exact Nat.not_lt.mpr fits several
  | branchEdges found role many =>
      have sides := roleFits_of_plain found fits
      simp only [RoleFits, role] at sides
      exact Nat.not_lt.mpr sides.1 many
  | branchOutput found role side crowded =>
      have sides := roleFits_of_plain found fits
      simp only [RoleFits, role] at sides
      exact Nat.not_lt.mpr (sides.2 side) crowded
  | noJoin found role unnamed =>
      have joins := roleFits_of_plain found fits
      simp only [RoleFits, role] at joins
      exact joins.1 unnamed
  | unknownJoin found role named missing =>
      have joins := roleFits_of_plain found fits
      simp only [RoleFits, role] at joins
      obtain ⟨-, join, present, -⟩ := joins
      cases missing.symm.trans present
  | wrongJoin found role named present wrong =>
      have joins := roleFits_of_plain found fits
      simp only [RoleFits, role] at joins
      obtain ⟨-, join, again, isJoin⟩ := joins
      cases present.symm.trans again
      exact wrong isJoin
  | laneForks found bent =>
      obtain ⟨other, again, flat, -⟩ := fits
      cases found.symm.trans again
      exact flat bent
  | laneEnds deadEnd =>
      obtain ⟨-, -, -, one⟩ := fits
      rw [deadEnd] at one
      cases one
  | laneSplits found flat several =>
      obtain ⟨-, -, -, one⟩ := fits
      exact Nat.lt_irrefl 1 (one ▸ several)

section Failures

variable {settings : Settings} {path : List String} {id : String} {error : CompileError}

theorem enter_eq_error {inLane : Bool} (known : graph.Has id)
    (refused : enter (.ofGraph graph) inLane path id = .error error) :
    id ∈ path ∧ error = .cycle id inLane := by
  by_cases old : id ∈ path
  · rw [enter, if_pos old] at refused
    cases refused
    exact ⟨old, rfl⟩
  · obtain ⟨node, found⟩ := known.nodeAt?
    rw [enter_of_fresh old found] at refused
    cases refused

theorem onward_eq_error {walk : String → Except CompileError (List Action)} {node : Node}
    (failed : onward settings (.ofGraph graph) walk node = .error error) :
    (1 < (graph.outEdges node.id).length ∧
        error = .severalOutgoing node.id (graph.outEdges node.id).length) ∨
      ((graph.outEdges node.id).length ≤ 1 ∧ ∃ edge ∈ graph.outEdges node.id,
        along settings (.ofGraph graph) walk edge = .error error) := by
  by_cases few : (graph.outEdges node.id).length ≤ 1
  · have ways := toList_head?_of_length_le_one few
    rw [onward_of_ways ways] at failed
    obtain ⟨edge, taken, failed⟩ := side_eq_error failed
    exact Or.inr ⟨few, edge, List.mem_of_mem_head? taken, failed⟩
  · have several := Nat.lt_of_not_le few
    rw [onward_of_several several] at failed
    cases failed
    exact Or.inl ⟨several, rfl⟩

theorem halts_of_enter {config : Config} (known : graph.Has config.node)
    (refused : enter (.ofGraph graph) config.isInLane path config.node = .error error) :
    Halts graph path config error := by
  obtain ⟨old, rfl⟩ := enter_eq_error known refused
  exact .again old

/-- An edge that is followed fails by its missing target or by what is beyond it. -/
theorem halts_of_along {config : Config} {edge : Edge}
    {walk : String → Except CompileError (List Action)} (fresh : config.node ∉ path)
    (follows : Follows graph config edge)
    (failed : along settings (.ofGraph graph) walk edge = .error error)
    (beyond : graph.Has edge.target → walk edge.target = .error error →
      Halts graph path config error) : Halts graph path config error := by
  rcases along_eq_error_iff.mp failed with ⟨missing, rfl⟩ | ⟨known, failed⟩
  · exact .faulty fresh (.unknownTarget follows missing)
  · exact beyond known failed

/-- To go on from a plain node or a resumed join fails for the number of ways, or on the way. -/
theorem halts_of_onward (config : Config) {node : Node}
    {walk : String → Except CompileError (List Action)} (fresh : config.node ∉ path)
    (same : node.id = config.node)
    (fits : (graph.outEdges config.node).length ≤ 1 → ConfigFits graph config)
    (follows : ∀ edge ∈ graph.outEdges config.node, Follows graph config edge)
    (step : ∀ edge, Follows graph config edge → Next graph config (.plain edge.target))
    (several : 1 < (graph.outEdges config.node).length →
      Fault graph config (.severalOutgoing config.node (graph.outEdges config.node).length))
    (beyond : ∀ edge : Edge, graph.Has edge.target → walk edge.target = .error error →
      Halts graph (config.node :: path) (.plain edge.target) error)
    (failed : onward settings (.ofGraph graph) walk node = .error error) :
    Halts graph path config error := by
  rcases onward_eq_error failed with ⟨many, rfl⟩ | ⟨few, edge, way, failed⟩
  · rw [same] at many ⊢
    exact .faulty fresh (several many)
  · rw [same] at few way
    apply halts_of_along fresh (follows edge way) failed
    intro known reached
    exact .beyond fresh (fits few) (step edge (follows edge way)) known
      (beyond edge known reached)

/-- The failure of a lane is the fault of a configuration in it, or a node entered before. -/
theorem halts_of_lane {fork join : String} {forkNode : Node}
    (forks : graph.nodeAt? fork = some forkNode) (joins : forkNode.textParam "joinId" = join)
    (known : graph.Has id)
    (failed : lane settings (.ofGraph graph) fork join path id = .error error) :
    Halts graph path (.inLane fork id) error := by
  induction path, id using lane.induct (.ofGraph graph) join with
  | case1 path =>
      rw [lane, if_pos rfl] at failed
      cases failed
  | case2 path id apart refusal refused =>
      rw [lane_of_error apart refused] at failed
      cases failed
      exact halts_of_enter known refused
  | case3 path id apart node entered bent =>
      obtain ⟨fresh, found⟩ := fresh_of_enter entered
      rw [lane_of_found apart fresh found, if_pos bent] at failed
      cases failed
      exact .faulty fresh (.laneForks found bent)
  | case4 path id apart node entered flat deadEnd =>
      obtain ⟨fresh, found⟩ := fresh_of_enter entered
      rw [outEdges_of_enter entered] at deadEnd
      rw [lane_of_found apart fresh found, if_neg flat, deadEnd] at failed
      cases failed
      exact .faulty fresh (.laneEnds deadEnd)
  | case5 path id apart node entered flat edge way ih =>
      obtain ⟨fresh, found⟩ := fresh_of_enter entered
      rw [outEdges_of_enter entered] at way
      have follows : Follows graph (.inLane fork id) edge := .inLane (way ▸ List.mem_cons_self)
      have fits : ConfigFits graph (.inLane fork id) := ⟨node, found, flat, by rw [way]; rfl⟩
      rw [lane_of_found apart fresh found, if_neg flat, way, bind_eq_error_iff] at failed
      rcases failed with failed | ⟨rest, -, impossible⟩
      · apply halts_of_along fresh follows failed
        intro reached beyond
        -- At the join the lane is over, and nothing can fail there.
        have farther : edge.target ≠ join := by
          rintro same
          rw [same, lane, if_pos rfl] at beyond
          cases beyond
        exact .beyond fresh fits (.inLane forks follows (joins ▸ farther)) reached
          (ih edge.target reached beyond)
      · cases impossible
  | case6 path id apart node entered flat some several =>
      obtain ⟨fresh, found⟩ := fresh_of_enter entered
      rw [outEdges_of_enter entered] at some several
      have many : 1 < (graph.outEdges id).length := by
        rcases h : graph.outEdges id with _ | ⟨edge, _ | ⟨second, rest⟩⟩
        · exact (some h).elim
        · exact (several edge h).elim
        · simp
      rw [lane_of_found apart fresh found, if_neg flat] at failed
      split at failed
      · rename_i none
        exact (some none).elim
      · rename_i edge one
        exact (several edge one).elim
      · cases failed
        exact .faulty fresh (.laneSplits found flat many)

theorem fault_of_branchSides {node : Node} (found : graph.nodeAt? id = some node)
    (role : node.role = .branch) (failed : branchSides (.ofGraph graph) node = .error error) :
    Fault graph (.plain id) error := by
  obtain rfl := Graph.id_of_nodeAt? found
  by_cases fits : SidesFit graph node.id
  · rw [branchSides_of_fit fits] at failed
    cases failed
  · rcases branchSides_of_not_fit fits with ⟨many, refused⟩ | ⟨⟨side, crowded⟩, refused⟩
    · cases refused.symm.trans failed
      exact .branchEdges found role many
    · cases refused.symm.trans failed
      exact .branchOutput found role side crowded

theorem fault_of_joinOf {node : Node} (found : graph.nodeAt? id = some node)
    (role : node.role = .fork) (failed : joinOf (.ofGraph graph) node = .error error) :
    Fault graph (.plain id) error := by
  obtain rfl := Graph.id_of_nodeAt? found
  rcases joinOf_eq_error failed with ⟨unnamed, rfl⟩ | ⟨named, missing, rfl⟩ |
    ⟨named, ⟨other, joins, wrong⟩, rfl⟩
  · exact .noJoin found role unnamed
  · exact .unknownJoin found role named missing
  · exact .wrongJoin found role named joins wrong

/-- A side that fails does so along its edge. -/
theorem halts_of_side {node : Node} {walk : String → Except CompileError (List Action)}
    (fresh : id ∉ path) (found : graph.nodeAt? id = some node) (role : node.role = .branch)
    (fits : SidesFit graph id) (side : Bool)
    (beyond : ∀ edge : Edge, graph.Has edge.target → walk edge.target = .error error →
      Halts graph (id :: path) (.plain edge.target) error)
    (failed : Compile.side settings (.ofGraph graph) walk (graph.sideEdge id side) = .error error) :
    Halts graph path (.plain id) error := by
  obtain ⟨edge, way, failed⟩ := side_eq_error failed
  have follows : Follows graph (.plain id) edge := .side side found role way
  have flat : node.role ≠ .fork := by simp [role]
  have fits : ConfigFits graph (.plain id) :=
    ⟨node, found, by simpa only [RoleFits, role] using fits⟩
  apply halts_of_along fresh follows failed
  intro known reached
  exact .beyond fresh fits (.pass found flat follows) known (beyond edge known reached)

/-- Of the lanes of a fork one fails, on its first edge or inside. -/
theorem halts_of_lanes {node : Node} {join : String} (fresh : id ∉ path)
    (found : graph.nodeAt? id = some node) (role : node.role = .fork)
    (fits : ConfigFits graph (.plain id)) (joins : node.textParam "joinId" = join)
    (failed : lanes settings (.ofGraph graph) (lane settings (.ofGraph graph) id join (id :: path))
      (graph.outEdges id) node.laneIds.eraseDups = .error error) :
    Halts graph path (.plain id) error := by
  obtain ⟨lane, member, edge, begins, failed⟩ := lanes_eq_error failed
  have follows : Follows graph (.plain id) edge :=
    .lane lane found role (List.mem_eraseDups.mp member) begins
  apply halts_of_along fresh follows failed
  intro known reached
  have farther : edge.target ≠ join := by
    intro atOnce
    -- A lane that begins at its join is empty, and an empty lane does not fail.
    rw [atOnce, Compile.lane, if_pos rfl] at reached
    cases reached
  exact .beyond fresh fits (.intoLane found role follows (joins ▸ farther)) known
    (halts_of_lane found joins known reached)

/-- The failure of a sequence is the fault of a configuration it comes to, or a node entered
before. -/
theorem halts_of_sequence (known : graph.Has id)
    (failed : sequence settings (.ofGraph graph) path id = .error error) :
    Halts graph path (.plain id) error := by
  induction path, id using sequence.induct (.ofGraph graph) with
  | case1 path id refusal refused =>
      rw [sequence_of_error refused] at failed
      cases failed
      exact halts_of_enter known refused
  | case2 path id node entered role | case3 path id node entered role =>
      obtain ⟨fresh, found⟩ := fresh_of_enter entered
      rw [sequence_of_found fresh found, role] at failed
      cases failed
  | case4 path id node entered role ih | case5 path id node entered role ih =>
      obtain ⟨fresh, found⟩ := fresh_of_enter entered
      have linear : node.role = .start ∨ node.role = .step := by simp [role]
      have flat : node.role ≠ .fork := by simp [role]
      have fits (few : (graph.outEdges id).length ≤ 1) : ConfigFits graph (.plain id) :=
        ⟨node, found, by simpa only [RoleFits, role] using few⟩
      rw [sequence_of_found fresh found, role] at failed
      rcases bind_eq_error_iff.mp failed with failed | ⟨rest, -, impossible⟩
      · exact halts_of_onward (.plain id) fresh (Graph.id_of_nodeAt? found) fits
          (fun edge way => .pass found linear way) (fun edge follows => .pass found flat follows)
          (.severalPlain found linear) (fun edge => ih edge.target) failed
      · cases impossible
  | case6 path id node entered role ih =>
      obtain ⟨fresh, found⟩ := fresh_of_enter entered
      rw [sequence_of_found fresh found, role] at failed
      rcases bind_eq_error_iff.mp failed with failed | ⟨ways, opened, failed⟩
      · exact .faulty fresh (fault_of_branchSides found role failed)
      obtain ⟨fits, rfl⟩ := branchSides_eq_ok_iff.mp opened
      rw [Graph.id_of_nodeAt? found] at fits failed
      have beyond (edge : Edge) := ih edge.target
      rcases bind_eq_error_iff.mp failed with failed | ⟨whenTrue, -, failed⟩
      · exact halts_of_side fresh found role fits true beyond failed
      rcases bind_eq_error_iff.mp failed with failed | ⟨whenFalse, -, impossible⟩
      · exact halts_of_side fresh found role fits false beyond failed
      · cases impossible
  | case7 path id node entered role ih =>
      obtain ⟨fresh, found⟩ := fresh_of_enter entered
      rw [sequence_of_found fresh found, role] at failed
      rcases bind_eq_error_iff.mp failed with failed | ⟨join, joined, failed⟩
      · exact .faulty fresh (fault_of_joinOf found role failed)
      -- After the join is found come the lanes, then the join itself, then the way on from it.
      obtain ⟨named, joins, isJoin⟩ := joinOf_eq_ok_iff.mp joined
      have fits : ConfigFits graph (.plain id) :=
        ⟨node, found, by simpa only [RoleFits, role] using ⟨named, join, joins, isJoin⟩⟩
      have same := (Graph.id_of_nodeAt? joins).symm
      have known : graph.Has join.id := same ▸ Graph.has_of_nodeAt? joins
      rcases bind_eq_error_iff.mp failed with failed | ⟨groups, -, failed⟩
      · exact halts_of_lanes fresh found role fits same failed
      apply Halts.beyond fresh fits
        (same ▸ .join found role : Next graph (.plain id) (.resumed join.id)) known
      rcases bind_eq_error_iff.mp failed with refused | ⟨after, resumed, failed⟩
      · exact halts_of_enter known refused
      obtain ⟨apart, again⟩ := fresh_of_enter resumed
      rcases bind_eq_error_iff.mp failed with failed | ⟨rest, -, impossible⟩
      · exact halts_of_onward (.resumed join.id) apart (Graph.id_of_nodeAt? again) (fun few => few)
          (fun edge way => .resumed way) (fun edge follows => .resume follows) .severalResumed
          (fun edge => ih join after resumed edge.target) failed
      · cases impossible

theorem Halts.fails {config : Config} (halts : Halts graph path config error) :
    Fails graph path config error := by
  induction halts with
  | again old => exact ⟨_, _, .here, Or.inl ⟨old, rfl⟩⟩
  | faulty fresh fault => exact ⟨_, _, .here, Or.inr ⟨fresh, fault⟩⟩
  | beyond fresh _ step _ _ ih =>
      obtain ⟨path', last, trail, stuck⟩ := ih
      exact ⟨path', last, .next fresh step trail, stuck⟩

/-- The failure of a sequence is found at a configuration that it can reach. -/
theorem fails_of_sequence (known : graph.Has id)
    (failed : sequence settings (.ofGraph graph) path id = .error error) :
    Fails graph path (.plain id) error :=
  (halts_of_sequence known failed).fails

end Failures

/-- A graph fails to compile for its count of starts, for want of an end, or on the walk from its
only start. -/
theorem halts_of_compile {settings : Settings} {error : CompileError}
    (failed : compile settings graph = .error error) :
    (graph.withRole .start = [] ∧ error = .noStart) ∨
      (1 < (graph.withRole .start).length ∧
        error = .severalStarts ((graph.withRole .start).map Node.id)) ∨
      (graph.withRole .finish = [] ∧ error = .noEnd) ∨
      ∃ start, graph.withRole .start = [start] ∧
        Halts graph [] (.plain start.id) error := by
  unfold compile at failed
  split at failed
  · rename_i none
    cases failed
    exact Or.inl ⟨none, rfl⟩
  · rename_i start one
    split at failed
    · rename_i endless
      cases failed
      exact Or.inr (Or.inr (Or.inl ⟨List.isEmpty_iff.mp endless, rfl⟩))
    · have listed : start ∈ graph.withRole .start := one ▸ List.mem_cons_self
      have known : graph.Has start.id := ⟨start, (List.mem_filter.mp listed).1, rfl⟩
      exact Or.inr (Or.inr (Or.inr ⟨start, one, halts_of_sequence known failed⟩))
  · rename_i none several
    cases failed
    refine Or.inr (Or.inl ⟨?_, rfl⟩)
    rcases starts : graph.withRole .start with _ | ⟨start, _ | ⟨second, rest⟩⟩
    · exact (none starts).elim
    · exact (several start starts).elim
    · simp

/-- A walk that fails gets stuck at a configuration that it can reach. -/
theorem compile_eq_error {settings : Settings} {error : CompileError}
    (failed : compile settings graph = .error error) :
    (graph.withRole .start = [] ∧ error = .noStart) ∨
      (1 < (graph.withRole .start).length ∧
        error = .severalStarts ((graph.withRole .start).map Node.id)) ∨
      (graph.withRole .finish = [] ∧ error = .noEnd) ∨
      ∃ start, graph.withRole .start = [start] ∧
        Fails graph [] (.plain start.id) error := by
  rcases halts_of_compile failed with none | several | endless | ⟨start, only, halts⟩
  · exact Or.inl none
  · exact Or.inr (Or.inl several)
  · exact Or.inr (Or.inr (Or.inl endless))
  · exact Or.inr (Or.inr (Or.inr ⟨start, only, halts.fails⟩))

end Compile

end SceneScript
