import SceneScript.Compile.Walk
import SceneScript.Proofs.Outcome
import SceneScript.Proofs.Scan

/-!
What a walk has done when it succeeds, as rules: one for each role that a node can have, and one
for each step of a lane. Main statements: a lane, and a sequence, return an action list exactly
when the rules derive it.
-/

namespace SceneScript.Compile

variable (settings : Settings) (graph : Graph)

/-- What a way on contributes, given what is beyond it. -/
def crossing (way : Option Edge) (rest : List Action) : List Action :=
  match way with
  | some edge => waitActions settings edge ++ rest
  | none => []

/-- A branch has at most two edges, and none that share an output. -/
def SidesFit (branch : String) : Prop :=
  (graph.outEdges branch).length ≤ 2 ∧
    ∀ side, (graph.outEdges branch).countP (Edge.isOnSide side) ≤ 1

/-- The element that a lane adds to the lanes of its fork, if it adds one. -/
def laneElement (fork : String) (contribution : String → List Action) (lane : String) :
    Option (List Action) :=
  (graph.laneEdge fork lane).bind fun edge =>
    if (contribution lane).isEmpty then none
    else some (guardLane settings edge (contribution lane))

inductive LaneWalked (join : String) : List String → String → List Action → Prop where
  | joined (path : List String) : LaneWalked join path join []
  | passes {path : List String} {id : String} {node : Node} {edge : Edge} {rest : List Action}
      (apart : id ≠ join) (fresh : id ∉ path) (found : graph.nodeAt? id = some node)
      (flat : ¬ (node.role = .branch ∨ node.role = .fork)) (way : graph.outEdges id = [edge])
      (known : graph.Has edge.target) (walked : LaneWalked join (id :: path) edge.target rest) :
      LaneWalked join path id (ownActions settings node ++ (waitActions settings edge ++ rest))

/-- Each declared lane that has an edge has been walked up to the join. -/
def LanesWalked (join : String) (path : List String) (fork : Node)
    (contribution : String → List Action) : Prop :=
  ∀ lane ∈ fork.laneIds, ∀ edge, graph.laneEdge fork.id lane = some edge →
    graph.Has edge.target ∧ ∃ rest, LaneWalked settings graph join path edge.target rest ∧
      contribution lane = waitActions settings edge ++ rest

inductive Walked : List String → String → List Action → Prop where
  | stops {path : List String} {id : String} {node : Node} (fresh : id ∉ path)
      (found : graph.nodeAt? id = some node) (role : node.role = .finish ∨ node.role = .join) :
      Walked path id (ownActions settings node)
  | passes {path : List String} {id : String} {node : Node} {way : Option Edge}
      {rest : List Action} (fresh : id ∉ path) (found : graph.nodeAt? id = some node)
      (role : node.role = .start ∨ node.role = .step) (ways : graph.outEdges id = way.toList)
      (known : ∀ edge ∈ way, graph.Has edge.target)
      (walked : ∀ edge ∈ way, Walked (id :: path) edge.target rest) :
      Walked path id (ownActions settings node ++ crossing settings way rest)
  | splits {path : List String} {id : String} {node : Node} {rests : Bool → List Action}
      (fresh : id ∉ path) (found : graph.nodeAt? id = some node) (role : node.role = .branch)
      (fits : SidesFit graph id)
      (known : ∀ side, ∀ edge ∈ graph.sideEdge id side, graph.Has edge.target)
      (walked : ∀ side, ∀ edge ∈ graph.sideEdge id side,
        Walked (id :: path) edge.target (rests side)) :
      Walked path id (ownActions settings node ++
        [.branch (node.textParam "condition")
          (crossing settings (graph.sideEdge id true) (rests true))
          (crossing settings (graph.sideEdge id false) (rests false))])
  | forks {path : List String} {id : String} {node join : Node} {way : Option Edge}
      {rest : List Action} {contribution : String → List Action} (fresh : id ∉ path)
      (found : graph.nodeAt? id = some node) (role : node.role = .fork)
      (named : node.textParam "joinId" ≠ "")
      (joins : graph.nodeAt? (node.textParam "joinId") = some join) (isJoin : join.role = .join)
      (lanes : LanesWalked settings graph join.id (id :: path) node contribution)
      (resumed : join.id ∉ id :: path) (ways : graph.outEdges join.id = way.toList)
      (known : ∀ edge ∈ way, graph.Has edge.target)
      (walked : ∀ edge ∈ way, Walked (join.id :: id :: path) edge.target rest) :
      Walked path id (ownActions settings node ++
        .parallel (node.laneIds.eraseDups.filterMap (laneElement settings graph id contribution)) ::
          crossing settings way rest)

section Parts

variable {settings graph} {walk : String → Except CompileError (List Action)}

theorem edgeActions_of_has {edge : Edge} (known : graph.Has edge.target) :
    edgeActions settings (.ofGraph graph) edge = .ok (waitActions settings edge) := by
  rw [edgeActions, if_pos ((Index.hasNode_ofGraph graph edge.target).mpr known)]

theorem edgeActions_of_not_has {edge : Edge} (missing : ¬ graph.Has edge.target) :
    edgeActions settings (.ofGraph graph) edge = .error (.unknownTarget edge.id edge.target) := by
  rw [edgeActions, if_neg fun held => missing ((Index.hasNode_ofGraph graph edge.target).mp held)]

theorem along_eq_ok_iff {edge : Edge} {actions : List Action} :
    along settings (.ofGraph graph) walk edge = .ok actions ↔
      graph.Has edge.target ∧
        ∃ rest, walk edge.target = .ok rest ∧ actions = waitActions settings edge ++ rest := by
  rw [along, bind_eq_ok_iff]
  by_cases known : graph.Has edge.target
  · simp only [edgeActions_of_has known, Except.ok.injEq, exists_eq_left', bind_eq_ok_iff, known,
      true_and]
    exact exists_congr fun rest => and_congr_right fun _ => eq_comm
  · simp [edgeActions_of_not_has known, known]

theorem along_eq_error_iff {edge : Edge} {error : CompileError} :
    along settings (.ofGraph graph) walk edge = .error error ↔
      (¬ graph.Has edge.target ∧ error = .unknownTarget edge.id edge.target) ∨
        (graph.Has edge.target ∧ walk edge.target = .error error) := by
  rw [along, bind_eq_error_iff]
  by_cases known : graph.Has edge.target
  · simp [edgeActions_of_has known, bind_eq_error_iff, known]
  · simp [edgeActions_of_not_has known, known, eq_comm]

theorem side_eq_ok_iff {way : Option Edge} {actions : List Action} :
    side settings (.ofGraph graph) walk way = .ok actions ↔
      ∃ rest, (∀ edge ∈ way, graph.Has edge.target ∧ walk edge.target = .ok rest) ∧
        actions = crossing settings way rest := by
  cases way with
  | none => simp [side, crossing, eq_comm]
  | some edge => simp [side, crossing, along_eq_ok_iff, and_assoc]

theorem side_eq_error {way : Option Edge} {error : CompileError}
    (failed : side settings (.ofGraph graph) walk way = .error error) :
    ∃ edge ∈ way, along settings (.ofGraph graph) walk edge = .error error := by
  cases way with
  | none => cases failed
  | some edge => exact ⟨edge, rfl, failed⟩

/-- With one way on at most, to go on is to take the way there is. -/
theorem onward_of_ways {node : Node} {way : Option Edge}
    (ways : graph.outEdges node.id = way.toList) :
    onward settings (.ofGraph graph) walk node = side settings (.ofGraph graph) walk way := by
  rw [onward, Index.outEdges_scan, ways]
  cases way <;> rfl

theorem onward_of_several {node : Node} (several : 1 < (graph.outEdges node.id).length) :
    onward settings (.ofGraph graph) walk node =
      .error (.severalOutgoing node.id (graph.outEdges node.id).length) := by
  rw [onward, Index.outEdges_scan]
  split
  · rename_i none
    simp [none] at several
  · rename_i edge one
    simp [one] at several
  · rfl

theorem toList_head?_of_length_le_one {edges : List Edge} (few : edges.length ≤ 1) :
    edges = edges.head?.toList := by
  cases edges with
  | nil => rfl
  | cons edge rest =>
      have alone : rest = [] := List.eq_nil_of_length_eq_zero (Nat.le_zero.mp (Nat.le_of_succ_le_succ few))
      rw [alone]
      rfl

theorem sides_outEdges (branch : String) :
    sides (graph.outEdges branch) = (graph.sideEdge branch true, graph.sideEdge branch false) := by
  have others : (graph.outEdges branch).filter (fun edge =>
      edge.sourceHandle != some "out_true" && edge.sourceHandle != some "out_false") =
        Graph.unsidedEdges (graph.outEdges branch) := rfl
  have onTrue : (graph.outEdges branch).find? (·.sourceHandle == some "out_true") =
      (graph.outEdges branch).find? (Edge.isOnSide true) := rfl
  have onFalse : (graph.outEdges branch).find? (·.sourceHandle == some "out_false") =
      (graph.outEdges branch).find? (Edge.isOnSide false) := rfl
  -- Either output may be taken, and of the other edges only the first two can be given away.
  simp only [sides, Graph.sideEdge, Graph.openSides, List.filter_cons, List.filter_nil,
    ← List.isSome_find?, others, onTrue, onFalse]
  cases (graph.outEdges branch).find? (Edge.isOnSide true) <;>
    cases (graph.outEdges branch).find? (Edge.isOnSide false) <;>
    rcases Graph.unsidedEdges (graph.outEdges branch) with _ | ⟨first, _ | ⟨second, rest⟩⟩ <;> rfl

theorem sidesFit_iff (branch : String) :
    SidesFit graph branch ↔ (graph.outEdges branch).length ≤ 2 ∧
      (graph.outEdges branch).countP (Edge.isOnSide true) ≤ 1 ∧
        (graph.outEdges branch).countP (Edge.isOnSide false) ≤ 1 := by
  constructor
  · intro fits
    exact ⟨fits.1, fits.2 true, fits.2 false⟩
  · rintro ⟨few, onTrue, onFalse⟩
    refine ⟨few, fun side => ?_⟩
    cases side
    · exact onFalse
    · exact onTrue

theorem branchSides_of_fit {node : Node} (fits : SidesFit graph node.id) :
    branchSides (.ofGraph graph) node =
      .ok (graph.sideEdge node.id true, graph.sideEdge node.id false) := by
  obtain ⟨few, onTrue, onFalse⟩ := (sidesFit_iff node.id).mp fits
  rw [branchSides, Index.outEdges_scan, if_neg (Nat.not_lt.mpr few), if_neg, sides_outEdges]
  rintro (crowded | crowded)
  · exact Nat.not_lt.mpr onTrue crowded
  · exact Nat.not_lt.mpr onFalse crowded

/-- A branch without fitting edges is refused for their number, or for an output shared by two. -/
theorem branchSides_of_not_fit {node : Node} (unfit : ¬ SidesFit graph node.id) :
    (2 < (graph.outEdges node.id).length ∧ branchSides (.ofGraph graph) node =
        .error (.branchEdges node.id (graph.outEdges node.id).length)) ∨
      ((∃ side, 1 < (graph.outEdges node.id).countP (Edge.isOnSide side)) ∧
        branchSides (.ofGraph graph) node = .error (.branchOutput node.id)) := by
  rw [branchSides, Index.outEdges_scan]
  by_cases many : 2 < (graph.outEdges node.id).length
  · exact Or.inl ⟨many, if_pos many⟩
  · have crowded : 1 < (graph.outEdges node.id).countP (Edge.isOnSide true) ∨
        1 < (graph.outEdges node.id).countP (Edge.isOnSide false) := by
      by_contra few
      rw [not_or] at few
      exact unfit ((sidesFit_iff node.id).mpr
        ⟨Nat.not_lt.mp many, Nat.not_lt.mp few.1, Nat.not_lt.mp few.2⟩)
    refine Or.inr ⟨?_, ?_⟩
    · rcases crowded with crowded | crowded
      · exact ⟨true, crowded⟩
      · exact ⟨false, crowded⟩
    · rw [if_neg many]
      exact if_pos crowded

theorem branchSides_eq_ok_iff {node : Node} {ways : Option Edge × Option Edge} :
    branchSides (.ofGraph graph) node = .ok ways ↔
      SidesFit graph node.id ∧
        ways = (graph.sideEdge node.id true, graph.sideEdge node.id false) := by
  by_cases fits : SidesFit graph node.id
  · rw [branchSides_of_fit fits, Except.ok.injEq, eq_comm, and_iff_right fits]
  · rcases branchSides_of_not_fit fits with ⟨-, refused⟩ | ⟨-, refused⟩ <;> simp [refused, fits]

theorem joinOf_eq_ok_iff {fork join : Node} :
    joinOf (.ofGraph graph) fork = .ok join ↔
      fork.textParam "joinId" ≠ "" ∧ graph.nodeAt? (fork.textParam "joinId") = some join ∧
        join.role = .join := by
  constructor
  · intro joined
    simp only [joinOf, Index.node?_ofGraph] at joined
    split at joined
    · cases joined
    · rename_i named
      split at joined
      · cases joined
      · rename_i found
        split at joined
        · rename_i isJoin
          cases joined
          exact ⟨named, found, isJoin⟩
        · cases joined
  · rintro ⟨named, found, isJoin⟩
    simp [joinOf, named, found, isJoin]

theorem joinOf_eq_error {fork : Node} {error : CompileError}
    (failed : joinOf (.ofGraph graph) fork = .error error) :
    (fork.textParam "joinId" = "" ∧ error = .noJoin fork.id) ∨
      (fork.textParam "joinId" ≠ "" ∧ graph.nodeAt? (fork.textParam "joinId") = none ∧
        error = .unknownJoin fork.id (fork.textParam "joinId")) ∨
      (fork.textParam "joinId" ≠ "" ∧
        (∃ other, graph.nodeAt? (fork.textParam "joinId") = some other ∧ other.role ≠ .join) ∧
        error = .wrongJoin fork.id (fork.textParam "joinId")) := by
  simp only [joinOf, Index.node?_ofGraph] at failed
  split at failed
  · rename_i unnamed
    cases failed
    exact Or.inl ⟨unnamed, rfl⟩
  · rename_i named
    split at failed
    · rename_i missing
      cases failed
      exact Or.inr (Or.inl ⟨named, missing, rfl⟩)
    · rename_i other found
      split at failed
      · cases failed
      · rename_i noJoin
        cases failed
        exact Or.inr (Or.inr ⟨named, ⟨other, found, noJoin⟩, rfl⟩)

theorem lanes_cons_of_none {fork lane : String} {rest : List String}
    (closed : graph.laneEdge fork lane = none) :
    lanes settings (.ofGraph graph) walk (graph.outEdges fork) (lane :: rest) =
      lanes settings (.ofGraph graph) walk (graph.outEdges fork) rest := by
  have first : (graph.outEdges fork).find?
      (·.sourceHandle == some (LaneEnd.fork.handleOf lane)) = none := closed
  rw [lanes, first]

theorem lanes_cons_of_some {fork lane : String} {rest : List String} {edge : Edge}
    (begins : graph.laneEdge fork lane = some edge) :
    lanes settings (.ofGraph graph) walk (graph.outEdges fork) (lane :: rest) = (do
      let actions ← along settings (.ofGraph graph) walk edge
      let others ← lanes settings (.ofGraph graph) walk (graph.outEdges fork) rest
      .ok (if actions.isEmpty then others else guardLane settings edge actions :: others)) := by
  have first : (graph.outEdges fork).find?
      (·.sourceHandle == some (LaneEnd.fork.handleOf lane)) = some edge := begins
  rw [lanes, first]

theorem laneElement_of_some {fork lane : String} {edge : Edge}
    {contribution : String → List Action} (begins : graph.laneEdge fork lane = some edge) :
    laneElement settings graph fork contribution lane =
      if (contribution lane).isEmpty then none
      else some (guardLane settings edge (contribution lane)) := by
  rw [laneElement, begins]
  rfl

theorem lanes_of_along {fork : String} {contribution : String → List Action} {ids : List String}
    (walked : ∀ lane ∈ ids, ∀ edge, graph.laneEdge fork lane = some edge →
      along settings (.ofGraph graph) walk edge = .ok (contribution lane)) :
    lanes settings (.ofGraph graph) walk (graph.outEdges fork) ids =
      .ok (ids.filterMap (laneElement settings graph fork contribution)) := by
  induction ids with
  | nil => rfl
  | cons lane rest ih =>
      have others := ih fun other member => walked other (List.mem_cons_of_mem lane member)
      cases begins : graph.laneEdge fork lane with
      | none =>
          have skipped : laneElement settings graph fork contribution lane = none := by
            rw [laneElement, begins]
            rfl
          rw [lanes_cons_of_none begins, List.filterMap_cons_none skipped, others]
      | some edge =>
          rw [lanes_cons_of_some begins, walked lane List.mem_cons_self edge begins, others,
            List.filterMap_cons, laneElement_of_some begins]
          by_cases empty : (contribution lane).isEmpty = true
          · simp [empty, bind, Except.bind]
          · simp [empty, bind, Except.bind]

/-- The contribution of each lane as the walk finds it, or none where the walk fails. -/
def laneActions (settings : Settings) (graph : Graph)
    (walk : String → Except CompileError (List Action)) (fork lane : String) : List Action :=
  ((graph.laneEdge fork lane).bind fun edge =>
    (along settings (.ofGraph graph) walk edge).toOption).getD []

theorem along_of_lanes {fork : String} {ids : List String} {groups : List (List Action)}
    (succeeded : lanes settings (.ofGraph graph) walk (graph.outEdges fork) ids = .ok groups) :
    ∀ lane ∈ ids, ∀ edge, graph.laneEdge fork lane = some edge →
      along settings (.ofGraph graph) walk edge =
        .ok (laneActions settings graph walk fork lane) := by
  induction ids generalizing groups with
  | nil =>
      intro lane member
      cases member
  | cons first rest ih =>
      intro lane member edge begins
      cases begun : graph.laneEdge fork first with
      | none =>
          rw [lanes_cons_of_none begun] at succeeded
          rcases List.mem_cons.mp member with rfl | later
          · rw [begins] at begun
            cases begun
          · exact ih succeeded lane later edge begins
      | some other =>
          rw [lanes_cons_of_some begun, bind_eq_ok_iff] at succeeded
          obtain ⟨actions, walked, succeeded⟩ := succeeded
          obtain ⟨others, remaining, -⟩ := bind_eq_ok_iff.mp succeeded
          rcases List.mem_cons.mp member with rfl | later
          · rw [begins] at begun
            cases begun
            simp [laneActions, begins, walked, Except.toOption]
          · exact ih remaining lane later edge begins

theorem lanes_eq_error {fork : String} {ids : List String} {error : CompileError}
    (failed : lanes settings (.ofGraph graph) walk (graph.outEdges fork) ids = .error error) :
    ∃ lane ∈ ids, ∃ edge, graph.laneEdge fork lane = some edge ∧
      along settings (.ofGraph graph) walk edge = .error error := by
  induction ids with
  | nil => cases failed
  | cons first rest ih =>
      cases begun : graph.laneEdge fork first with
      | none =>
          rw [lanes_cons_of_none begun] at failed
          obtain ⟨lane, member, found⟩ := ih failed
          exact ⟨lane, List.mem_cons_of_mem first member, found⟩
      | some edge =>
          rw [lanes_cons_of_some begun, bind_eq_error_iff] at failed
          rcases failed with here | ⟨actions, -, later⟩
          · exact ⟨first, List.mem_cons_self, edge, begun, here⟩
          · rcases bind_eq_error_iff.mp later with deeper | ⟨others, -, impossible⟩
            · obtain ⟨lane, member, found⟩ := ih deeper
              exact ⟨lane, List.mem_cons_of_mem first member, found⟩
            · cases impossible

end Parts

section Equations

variable {settings graph} {path : List String} {id : String} {node : Node}

theorem enter_of_fresh {inLane : Bool} (fresh : id ∉ path) (found : graph.nodeAt? id = some node) :
    enter (.ofGraph graph) inLane path id = .ok node :=
  (enter_eq_ok_iff (.ofGraph graph)).mpr ⟨fresh, (Index.node?_ofGraph graph id).trans found⟩

theorem fresh_of_enter {inLane : Bool} (entered : enter (.ofGraph graph) inLane path id = .ok node) :
    id ∉ path ∧ graph.nodeAt? id = some node := by
  obtain ⟨fresh, found⟩ := (enter_eq_ok_iff (.ofGraph graph)).mp entered
  exact ⟨fresh, (Index.node?_ofGraph graph id).symm.trans found⟩

theorem outEdges_of_enter {inLane : Bool}
    (entered : enter (.ofGraph graph) inLane path id = .ok node) :
    (Index.ofGraph graph).outEdges node.id = graph.outEdges id := by
  rw [Graph.id_of_nodeAt? (fresh_of_enter entered).2, Index.outEdges_scan]

theorem lane_of_error {fork join : String} {error : CompileError} (apart : id ≠ join)
    (refused : enter (.ofGraph graph) true path id = .error error) :
    lane settings (.ofGraph graph) fork join path id = .error error := by
  rw [lane, if_neg apart]
  split
  · rename_i entered
    exact congrArg Except.error (Except.error.inj (entered.symm.trans refused))
  · rename_i entered
    rw [entered] at refused
    cases refused

theorem lane_of_found {fork join : String} (apart : id ≠ join) (fresh : id ∉ path)
    (found : graph.nodeAt? id = some node) :
    lane settings (.ofGraph graph) fork join path id =
      if node.role = .branch ∨ node.role = .fork then .error (.laneForks fork id join)
      else
        match graph.outEdges id with
        | [] => .error (.laneEnds id join)
        | [edge] => do
            let rest ← along settings (.ofGraph graph)
              (fun next => lane settings (.ofGraph graph) fork join (id :: path) next) edge
            .ok (ownActions settings node ++ rest)
        | edges => .error (.laneSplits id edges.length) := by
  have entered : enter (.ofGraph graph) true path id = .ok node := enter_of_fresh fresh found
  have same := Graph.id_of_nodeAt? found
  have listed := outEdges_of_enter entered
  rw [same] at listed
  rw [lane, if_neg apart]
  -- The match keeps what `enter` gave for the measure, so it is split and not rewritten.
  split
  · rename_i refused
    rw [entered] at refused
    cases refused
  · rename_i other again
    cases again.symm.trans entered
    rcases ways : graph.outEdges id with _ | ⟨edge, _ | ⟨second, rest⟩⟩ <;>
      simp only [same, listed, ways]

theorem sequence_of_error {error : CompileError}
    (refused : enter (.ofGraph graph) false path id = .error error) :
    sequence settings (.ofGraph graph) path id = .error error := by
  rw [sequence]
  split
  · rename_i entered
    exact congrArg Except.error (Except.error.inj (entered.symm.trans refused))
  · rename_i entered
    rw [entered] at refused
    cases refused

/-- A sequence from a node that is there and has not been entered before, role by role. -/
theorem sequence_of_found (fresh : id ∉ path) (found : graph.nodeAt? id = some node) :
    sequence settings (.ofGraph graph) path id =
      (match node.role with
      | .finish | .join => .ok (ownActions settings node)
      | .start | .step => do
          let rest ← onward settings (.ofGraph graph)
            (fun next => sequence settings (.ofGraph graph) (id :: path) next) node
          .ok (ownActions settings node ++ rest)
      | .branch => do
          let (onTrue, onFalse) ← branchSides (.ofGraph graph) node
          let walk := fun next => sequence settings (.ofGraph graph) (id :: path) next
          let whenTrue ← side settings (.ofGraph graph) walk onTrue
          let whenFalse ← side settings (.ofGraph graph) walk onFalse
          .ok (ownActions settings node ++
            [.branch (node.textParam "condition") whenTrue whenFalse])
      | .fork => do
          let join ← joinOf (.ofGraph graph) node
          let groups ← lanes settings (.ofGraph graph)
            (lane settings (.ofGraph graph) id join.id (id :: path))
            (graph.outEdges id) node.laneIds.eraseDups
          let after ← enter (.ofGraph graph) false (id :: path) join.id
          let rest ← onward settings (.ofGraph graph)
            (fun next => sequence settings (.ofGraph graph) (join.id :: id :: path) next) after
          .ok (ownActions settings node ++ .parallel groups :: rest)) := by
  have entered : enter (.ofGraph graph) false path id = .ok node := enter_of_fresh fresh found
  have listed := outEdges_of_enter entered
  rw [sequence]
  split
  · rename_i refused
    rw [entered] at refused
    cases refused
  · rename_i other again
    cases again.symm.trans entered
    cases role : node.role with
    | fork =>
        -- Here a second match enters the join; only the part after the lanes differs.
        rw [listed, Graph.id_of_nodeAt? found]
        refine bind_congr fun join => bind_congr fun groups => ?_
        split
        · rename_i refused
          rw [refused]
          rfl
        · rename_i resumed
          rw [resumed]
          rfl
    | _ => rfl

end Equations

section Derivations

variable {settings graph} {path : List String} {id : String} {actions : List Action}

theorem laneWalked_of_lane {fork join : String}
    (succeeded : lane settings (.ofGraph graph) fork join path id = .ok actions) :
    LaneWalked settings graph join path id actions := by
  induction path, id using lane.induct (.ofGraph graph) join generalizing actions with
  | case1 path =>
      rw [lane, if_pos rfl] at succeeded
      cases succeeded
      exact .joined path
  | case2 path id apart error refused =>
      rw [lane_of_error apart refused] at succeeded
      cases succeeded
  | case3 path id apart node entered bent =>
      obtain ⟨fresh, found⟩ := fresh_of_enter entered
      rw [lane_of_found apart fresh found, if_pos bent] at succeeded
      cases succeeded
  | case4 path id apart node entered flat deadEnd =>
      obtain ⟨fresh, found⟩ := fresh_of_enter entered
      rw [outEdges_of_enter entered] at deadEnd
      rw [lane_of_found apart fresh found, if_neg flat, deadEnd] at succeeded
      cases succeeded
  | case5 path id apart node entered flat edge way ih =>
      obtain ⟨fresh, found⟩ := fresh_of_enter entered
      rw [outEdges_of_enter entered] at way
      rw [lane_of_found apart fresh found, if_neg flat, way, bind_eq_ok_iff] at succeeded
      obtain ⟨rest, ahead, same⟩ := succeeded
      obtain ⟨known, beyond, walked, rfl⟩ := along_eq_ok_iff.mp ahead
      cases same
      exact .passes apart fresh found flat way known (ih edge.target walked)
  | case6 path id apart node entered flat some several =>
      obtain ⟨fresh, found⟩ := fresh_of_enter entered
      rw [outEdges_of_enter entered] at some several
      rw [lane_of_found apart fresh found, if_neg flat] at succeeded
      split at succeeded
      · cases succeeded
      · rename_i edge one
        exact (several edge one).elim
      · cases succeeded

theorem lane_of_laneWalked {fork join : String}
    (walked : LaneWalked settings graph join path id actions) :
    lane settings (.ofGraph graph) fork join path id = .ok actions := by
  induction walked with
  | joined path => rw [lane, if_pos rfl]
  | @passes path id node edge rest apart fresh found flat way known _ ih =>
      have ahead : along settings (.ofGraph graph)
          (fun next => lane settings (.ofGraph graph) fork join (id :: path) next) edge =
            .ok (waitActions settings edge ++ rest) :=
        along_eq_ok_iff.mpr ⟨known, rest, ih, rfl⟩
      rw [lane_of_found apart fresh found, if_neg flat, way]
      exact bind_eq_ok_iff.mpr ⟨_, ahead, rfl⟩

/-- A lane returns an action list exactly when the rules derive it. -/
theorem lane_eq_ok_iff {fork join : String} :
    lane settings (.ofGraph graph) fork join path id = .ok actions ↔
      LaneWalked settings graph join path id actions :=
  ⟨laneWalked_of_lane, lane_of_laneWalked⟩

theorem lanesWalked_of_lanes {join : String} {fork : Node} {groups : List (List Action)}
    (succeeded : lanes settings (.ofGraph graph)
      (lane settings (.ofGraph graph) fork.id join path) (graph.outEdges fork.id)
      fork.laneIds.eraseDups = .ok groups) :
    ∃ contribution, LanesWalked settings graph join path fork contribution ∧
      groups = fork.laneIds.eraseDups.filterMap
        (laneElement settings graph fork.id contribution) := by
  have walked := along_of_lanes succeeded
  refine ⟨_, ?_, Except.ok.inj (succeeded.symm.trans (lanes_of_along walked))⟩
  intro lane declared edge begins
  obtain ⟨known, rest, reached, same⟩ :=
    along_eq_ok_iff.mp (walked lane (List.mem_eraseDups.mpr declared) edge begins)
  exact ⟨known, rest, laneWalked_of_lane reached, same⟩

theorem lanes_of_lanesWalked {join : String} {fork : Node} {contribution : String → List Action}
    (walked : LanesWalked settings graph join path fork contribution) :
    lanes settings (.ofGraph graph) (lane settings (.ofGraph graph) fork.id join path)
        (graph.outEdges fork.id) fork.laneIds.eraseDups =
      .ok (fork.laneIds.eraseDups.filterMap (laneElement settings graph fork.id contribution)) := by
  apply lanes_of_along
  intro lane declared edge begins
  obtain ⟨known, rest, reached, same⟩ := walked lane (List.mem_eraseDups.mp declared) edge begins
  exact along_eq_ok_iff.mpr ⟨known, rest, lane_of_laneWalked reached, same⟩

theorem onward_eq_ok_iff {walk : String → Except CompileError (List Action)} {node : Node} :
    onward settings (.ofGraph graph) walk node = .ok actions ↔
      ∃ way : Option Edge, graph.outEdges node.id = way.toList ∧
        ∃ rest, (∀ edge ∈ way, graph.Has edge.target ∧ walk edge.target = .ok rest) ∧
          actions = crossing settings way rest := by
  constructor
  · intro succeeded
    by_cases few : (graph.outEdges node.id).length ≤ 1
    · have ways := toList_head?_of_length_le_one few
      rw [onward_of_ways ways] at succeeded
      exact ⟨_, ways, side_eq_ok_iff.mp succeeded⟩
    · rw [onward_of_several (Nat.lt_of_not_le few)] at succeeded
      cases succeeded
  · rintro ⟨way, ways, walked⟩
    rw [onward_of_ways ways]
    exact side_eq_ok_iff.mpr walked

theorem walked_of_sequence
    (succeeded : sequence settings (.ofGraph graph) path id = .ok actions) :
    Walked settings graph path id actions := by
  induction path, id using sequence.induct (.ofGraph graph) generalizing actions with
  | case1 path id error refused =>
      rw [sequence_of_error refused] at succeeded
      cases succeeded
  | case2 path id node entered role =>
      obtain ⟨fresh, found⟩ := fresh_of_enter entered
      rw [sequence_of_found fresh found, role] at succeeded
      cases succeeded
      exact .stops fresh found (Or.inl role)
  | case3 path id node entered role =>
      obtain ⟨fresh, found⟩ := fresh_of_enter entered
      rw [sequence_of_found fresh found, role] at succeeded
      cases succeeded
      exact .stops fresh found (Or.inr role)
  | case4 path id node entered role ih | case5 path id node entered role ih =>
      obtain ⟨fresh, found⟩ := fresh_of_enter entered
      rw [sequence_of_found fresh found, role] at succeeded
      obtain ⟨ahead, reached, same⟩ := bind_eq_ok_iff.mp succeeded
      cases same
      obtain ⟨way, ways, rest, walked, rfl⟩ := onward_eq_ok_iff.mp reached
      rw [Graph.id_of_nodeAt? found] at ways
      exact .passes fresh found (by simp [role]) ways (fun edge taken => (walked edge taken).1)
        fun edge taken => ih edge.target (walked edge taken).2
  | case6 path id node entered role ih =>
      obtain ⟨fresh, found⟩ := fresh_of_enter entered
      have same := Graph.id_of_nodeAt? found
      rw [sequence_of_found fresh found, role] at succeeded
      obtain ⟨ways, opened, succeeded⟩ := bind_eq_ok_iff.mp succeeded
      obtain ⟨fits, rfl⟩ := branchSides_eq_ok_iff.mp opened
      rw [same] at fits succeeded
      obtain ⟨whenTrue, first, succeeded⟩ := bind_eq_ok_iff.mp succeeded
      obtain ⟨whenFalse, second, ended⟩ := bind_eq_ok_iff.mp succeeded
      obtain ⟨restTrue, walkedTrue, rfl⟩ := side_eq_ok_iff.mp first
      obtain ⟨restFalse, walkedFalse, rfl⟩ := side_eq_ok_iff.mp second
      cases ended
      -- The rule has the two sides as one family.
      have walked : ∀ side, ∀ edge ∈ graph.sideEdge id side, graph.Has edge.target ∧
          sequence settings (.ofGraph graph) (id :: path) edge.target =
            .ok (bif side then restTrue else restFalse) := by
        intro side
        cases side
        · exact walkedFalse
        · exact walkedTrue
      exact @Walked.splits settings graph path id node
        (fun side => bif side then restTrue else restFalse) fresh found role fits
        (fun side edge taken => (walked side edge taken).1)
        fun side edge taken => ih edge.target (walked side edge taken).2
  | case7 path id node entered role ih =>
      obtain ⟨fresh, found⟩ := fresh_of_enter entered
      have same := Graph.id_of_nodeAt? found
      rw [sequence_of_found fresh found, role] at succeeded
      obtain ⟨join, joined, succeeded⟩ := bind_eq_ok_iff.mp succeeded
      obtain ⟨groups, lanes, succeeded⟩ := bind_eq_ok_iff.mp succeeded
      obtain ⟨after, resumed, succeeded⟩ := bind_eq_ok_iff.mp succeeded
      obtain ⟨ahead, reached, ended⟩ := bind_eq_ok_iff.mp succeeded
      cases ended
      obtain ⟨named, joins, isJoin⟩ := joinOf_eq_ok_iff.mp joined
      obtain ⟨apart, again⟩ := fresh_of_enter resumed
      obtain ⟨way, ways, rest, walked, rfl⟩ := onward_eq_ok_iff.mp reached
      rw [Graph.id_of_nodeAt? again] at ways
      rw [← same] at lanes
      obtain ⟨contribution, lanesWalked, rfl⟩ := lanesWalked_of_lanes lanes
      rw [same] at lanesWalked ⊢
      exact .forks fresh found role named joins isJoin lanesWalked apart ways
        (fun edge taken => (walked edge taken).1)
        fun edge taken => ih join after resumed edge.target (walked edge taken).2

theorem sequence_of_walked (walked : Walked settings graph path id actions) :
    sequence settings (.ofGraph graph) path id = .ok actions := by
  induction walked with
  | stops fresh found role =>
      rw [sequence_of_found fresh found]
      rcases role with role | role <;> rw [role]
  | @passes path id node way rest fresh found role ways known _ ih =>
      have reached : onward settings (.ofGraph graph)
          (fun next => sequence settings (.ofGraph graph) (id :: path) next) node =
            .ok (crossing settings way rest) :=
        onward_eq_ok_iff.mpr ⟨way, Graph.id_of_nodeAt? found ▸ ways, rest,
          fun edge taken => ⟨known edge taken, ih edge taken⟩, rfl⟩
      rw [sequence_of_found fresh found]
      rcases role with role | role <;> rw [role] <;> exact bind_eq_ok_iff.mpr ⟨_, reached, rfl⟩
  | @splits path id node rests fresh found role fits known _ ih =>
      have same := Graph.id_of_nodeAt? found
      have reached : ∀ side, Compile.side settings (.ofGraph graph)
          (fun next => sequence settings (.ofGraph graph) (id :: path) next)
          (graph.sideEdge id side) = .ok (crossing settings (graph.sideEdge id side) (rests side)) :=
        fun side => side_eq_ok_iff.mpr
          ⟨rests side, fun edge taken => ⟨known side edge taken, ih side edge taken⟩, rfl⟩
      have opened := branchSides_of_fit (same.symm ▸ fits : SidesFit graph node.id)
      rw [same] at opened
      rw [sequence_of_found fresh found, role]
      exact bind_eq_ok_iff.mpr ⟨_, opened,
        bind_eq_ok_iff.mpr ⟨_, reached true, bind_eq_ok_iff.mpr ⟨_, reached false, rfl⟩⟩⟩
  | @forks path id node join way rest contribution fresh found role named joins isJoin lanes resumed
      ways known _ ih =>
      have same := Graph.id_of_nodeAt? found
      have reached : onward settings (.ofGraph graph)
          (fun next => sequence settings (.ofGraph graph) (join.id :: id :: path) next) join =
            .ok (crossing settings way rest) :=
        onward_eq_ok_iff.mpr
          ⟨way, ways, rest, fun edge taken => ⟨known edge taken, ih edge taken⟩, rfl⟩
      have entered : enter (.ofGraph graph) false (id :: path) join.id = .ok join :=
        enter_of_fresh resumed ((Graph.id_of_nodeAt? joins).symm ▸ joins)
      have grouped := lanes_of_lanesWalked lanes
      rw [same] at grouped
      rw [sequence_of_found fresh found, role]
      exact bind_eq_ok_iff.mpr ⟨join, joinOf_eq_ok_iff.mpr ⟨named, joins, isJoin⟩,
        bind_eq_ok_iff.mpr ⟨_, grouped, bind_eq_ok_iff.mpr ⟨join, entered,
          bind_eq_ok_iff.mpr ⟨_, reached, rfl⟩⟩⟩⟩

/-- A sequence returns an action list exactly when the rules derive it. -/
theorem sequence_eq_ok_iff :
    sequence settings (.ofGraph graph) path id = .ok actions ↔
      Walked settings graph path id actions :=
  ⟨walked_of_sequence, sequence_of_walked⟩

end Derivations

/-- A graph compiles to what the walk from its only start returns, if it has an end at all. -/
theorem compile_eq_ok_iff {settings : Settings} {graph : Graph} {actions : List Action} :
    compile settings graph = .ok actions ↔
      ∃ start, graph.withRole .start = [start] ∧ graph.withRole .finish ≠ [] ∧
        Walked settings graph [] start.id actions := by
  unfold compile
  rcases graph.withRole .start with _ | ⟨start, _ | ⟨second, rest⟩⟩
  · simp
  · by_cases endless : graph.withRole .finish = []
    · simp [endless]
    · simp [endless, sequence_eq_ok_iff]
  · simp

end SceneScript.Compile
