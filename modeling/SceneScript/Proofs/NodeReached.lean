import SceneScript.Proofs.Coverage
import SceneScript.Proofs.GuardCompleteness

/-!
Waits that end when a node is reached. The engine learns that a node is reached from its mark, and
joins leave none. Main statement: where a report has nothing but tips, such a wait names a node of
the graph, and the action list marks the name exactly when some node of that name is no join, if
the walk stops short at no join.
-/

namespace SceneScript

namespace Guard

variable {mark name : String} {edge : Edge} {guard : Guard}

theorem eq_of_orElse {default text value : String} (chosen : orElse default text = value)
    (other : value ≠ default) : text = value := by
  unfold orElse at chosen
  split at chosen
  · exact (other chosen.symm).elim
  · exact chosen

theorem endNode_of_stopRule? {condition : String}
    (stop : stopRule? mark edge condition = some (.node name)) :
    condition = "node_reached" ∧ Text.trim edge.endNode = name := by
  unfold stopRule? at stop
  split at stop
  · simp only at stop
    split at stop <;> cases stop
  · simp only at stop
    split at stop
    · cases stop
    · cases stop
      exact ⟨rfl, rfl⟩
  · obtain ⟨seconds, -, other⟩ := Option.map_eq_some_iff.mp stop
    cases other
  · cases stop

/-- What an edge is like whose guard waits until a node is reached. -/
theorem ends_at_node (guards : ofEdge? mark edge = some guard)
    (stop : guard.stop = some (.node name)) :
    edge.conditionEnabled = true ∧ edge.ifFalse = "wait_until_true" ∧
      edge.stopWhen = "node_reached" ∧ Text.trim edge.endNode = name := by
  simp only [ofEdge?] at guards
  split at guards
  · cases guards
  · rename_i given
    simp only [Bool.or_eq_true, not_or, Bool.not_eq_true', Bool.not_eq_false] at given
    split at guards
    · rename_i waits
      cases guards
      obtain ⟨rule, reached⟩ := endNode_of_stopRule? stop
      exact ⟨given.1, eq_of_orElse waits (by decide), eq_of_orElse rule (by decide), reached⟩
    · cases guards
      cases stop

end Guard

namespace Report

variable {graph : Graph} {settings : Settings} {report : Report} {edge : Edge}

theorem guardProblems_of_tipsOnly (reported : ofGraph settings graph = .ok report)
    (calm : report.TipsOnly) (listed : edge ∈ graph.edges) :
    guardProblems settings.globalVarPrefix (Index.ofGraph graph).names edge = [] := by
  rw [List.eq_nil_iff_forall_not_mem]
  intro problem member
  have warned := calm _ (guard_mem_findings reported listed member)
  simp at warned

/-- Without warnings the name that a wait is to end at is that of a node. -/
theorem endNode_of_tipsOnly {name : String} {guard : Guard}
    (reported : ofGraph settings graph = .ok report) (calm : report.TipsOnly)
    (listed : edge ∈ graph.edges)
    (guards : Guard.ofEdge? settings.globalVarPrefix edge = some guard)
    (stop : guard.stop = some (.node name)) :
    name ≠ "" ∧ ∃ node ∈ graph.nodes, node.displayName = name := by
  obtain ⟨enabled, waits, rule, rfl⟩ := Guard.ends_at_node guards stop
  have sound := guardProblems_of_tipsOnly reported calm listed
  obtain ⟨-, -, policy⟩ := (guardProblems_eq_nil_iff enabled).mp sound
  have stops : stopProblems settings.globalVarPrefix (Index.ofGraph graph).names edge = [] := by
    simpa [policyProblems, waits] using policy
  have known : endNodeProblems (Index.ofGraph graph).names edge = [] := by
    simpa [stopProblems, rule] using stops
  exact endNodeProblems_eq_nil_iff.mp known

end Report

namespace Compile

variable {graph : Graph} {settings : Settings} {report : Report} {actions : List Action}
  {name : String}

/-- A name is marked exactly when a node of that name is visited that is no join. -/
theorem mark_mem_iff (compiled : compile settings graph = .ok actions)
    (marking : settings.markNamedNodes = true) (named : name ≠ "") :
    .mark name ∈ Action.listParts actions ↔
      ∃ config node, Visited graph config ∧ graph.nodeAt? config.node = some node ∧
        node.displayName = name ∧ node.role ≠ .join := by
  constructor
  · intro inside
    obtain ⟨config, visited, gives⟩ := given_of_mem compiled inside
    cases gives with
    | @own _ node _ found given =>
        rcases mem_ownActions_iff.mp given with ⟨role, marked⟩ | ⟨-, other⟩
        · obtain ⟨-, -, same⟩ := mem_marks_iff.mp marked
          cases same
          exact ⟨config, node, visited, found, rfl, role⟩
        · cases other
  · rintro ⟨config, node, visited, found, rfl, role⟩
    have own := (shown_of_visited compiled visited node found).1
    apply own
    exact mem_ownActions_iff.mpr (Or.inl ⟨role, mem_marks_iff.mpr ⟨marking, named, rfl⟩⟩)

/-- Where a report has nothing but tips, a wait that ends when a node is reached names a node, and
its name is marked when a node of that name is visited that is no join; if the walk stops short at
no join, when there is a node of that name that is no join. -/
theorem node_reached_marked {guard : Guard} {inner : List Action} (unique : graph.UniqueIds)
    (reported : Report.ofGraph settings graph = .ok report) (calm : report.TipsOnly)
    (compiled : compile settings graph = .ok actions) (marking : settings.markNamedNodes = true)
    (inside : .guarded guard inner ∈ Action.listParts actions)
    (stop : guard.stop = some (.node name)) :
    (∃ node ∈ graph.nodes, node.displayName = name) ∧
      (.mark name ∈ Action.listParts actions ↔
        ∃ config node, Visited graph config ∧ graph.nodeAt? config.node = some node ∧
          node.displayName = name ∧ node.role ≠ .join) ∧
      (JoinsResume graph → (.mark name ∈ Action.listParts actions ↔
        ∃ node ∈ graph.nodes, node.displayName = name ∧ node.role ≠ .join)) := by
  obtain ⟨named, known⟩ : name ≠ "" ∧ ∃ node ∈ graph.nodes, node.displayName = name := by
    obtain ⟨config, -, gives⟩ := given_of_mem compiled inside
    -- Only an edge that is followed gives a guard, and the report has looked at that edge.
    cases gives with
    | own found given =>
        rcases mem_ownActions_iff.mp given with ⟨-, marked⟩ | ⟨-, other⟩
        · cases (mem_marks_iff.mp marked).2.2
        · cases other
    | guard follows guards =>
        have listed := mem_edges_of_follows follows
        exact Report.endNode_of_tipsOnly reported calm listed guards stop
  have marked := mark_mem_iff compiled marking named
  refine ⟨known, marked, ?_⟩
  intro resumes
  rw [marked]
  constructor
  · rintro ⟨config, node, -, found, same, role⟩
    exact ⟨node, (Graph.mem_of_nodeAt? found).1, same, role⟩
  · rintro ⟨node, listed, same, role⟩
    obtain ⟨config, visited, here⟩ := visited_of_tipsOnly reported calm compiled resumes listed
    have found := (Graph.nodeAt?_eq_some_iff unique).mpr ⟨listed, here.symm⟩
    exact ⟨config, node, visited, found, same, role⟩

/-- Waits for a variable on the way from the start, until a node is reached. -/
def watchEdge (target name : String) : Edge where
  id := "e1"
  source := "s"
  target := target
  targetHandle := some "in_b0"
  waitSeconds := some (.int 1)
  conditionEnabled := true
  conditionVar := "door"
  conditionEquals := "open"
  ifFalse := "wait_until_true"
  stopWhen := "node_reached"
  endNode := name

def watchGuard (name : String) : Guard where
  global := "door"
  equals := "open"
  ifFalse := "wait_until_true"
  stopWhen := some "node_reached"
  stop := some (.node name)

/-- One lane, with a walk; the walk or the join has the name that is waited for. -/
def meetScene (walk join : Option String) : Graph where
  nodes := [
    { id := "s", type := "start" },
    { id := "p", type := "parallel_start", params := [("joinId", .str "j")] },
    { id := "w", type := "walk", name := walk },
    { id := "j", type := "parallel_join", name := join, params := [("pairId", .str "p")] },
    { id := "z", type := "end" }]
  edges := [
    watchEdge "p" "Meet",
    { id := "e2", source := "p", target := "w", sourceHandle := some "out_b0" },
    { id := "e3", source := "w", target := "j", targetHandle := some "in_b0" },
    { id := "e4", source := "j", target := "z" }]

theorem joinsResume_meetScene (walk join : Option String) : JoinsResume (meetScene walk join) := by
  intro id node _ found role
  -- The scene has one join, and the walk comes to it after its fork.
  have only : ∀ node ∈ (meetScene walk join).nodes, node.role = .join → node.id = "j" := by
    simp [meetScene, Node.role, Role.ofType]
  obtain ⟨listed, rfl⟩ := Graph.mem_of_nodeAt? found
  rw [only node listed role]
  have follows : Follows (meetScene walk join) (.plain "s") (watchEdge "p" "Meet") :=
    .pass rfl (Or.inl rfl) List.mem_cons_self
  have start : (meetScene walk join).nodeAt? "s" = some { id := "s", type := "start" } := rfl
  have begun : Visited (meetScene walk join) (.plain "s") := ⟨_, rfl, .refl⟩
  have atFork : Visited (meetScene walk join) (.plain "p") :=
    begun.step (.pass start (by decide) follows)
  have fork : (meetScene walk join).nodeAt? "p" =
      some { id := "p", type := "parallel_start", params := [("joinId", .str "j")] } := rfl
  exact Or.inr (atFork.step (.join fork rfl))

/-- The walk has the name. -/
def walkScene : Graph := meetScene (some "Meet") none

theorem node_reached_marked_walkScene :
    ∃ report actions, walkScene.UniqueIds ∧ Report.ofGraph {} walkScene = .ok report ∧
      report.TipsOnly ∧ compile {} walkScene = .ok actions ∧
      ({} : Settings).markNamedNodes = true ∧
      .guarded (watchGuard "Meet") [.wait (.int 1)] ∈ Action.listParts actions ∧
      (watchGuard "Meet").stop = some (.node "Meet") ∧ JoinsResume walkScene ∧
      (∃ node ∈ walkScene.nodes, node.displayName = "Meet") ∧
      (.mark "Meet" ∈ Action.listParts actions ↔
        ∃ config node, Visited walkScene config ∧ walkScene.nodeAt? config.node = some node ∧
          node.displayName = "Meet" ∧ node.role ≠ .join) ∧
      (.mark "Meet" ∈ Action.listParts actions ↔
        ∃ node ∈ walkScene.nodes, node.displayName = "Meet" ∧ node.role ≠ .join) := by
  have unique : walkScene.UniqueIds := ⟨by decide, by decide⟩
  have reported : Report.ofGraph {} walkScene =
      .ok ⟨[.unnamed "s" "start", .unnamed "p" "parallel_start", .unnamed "j" "parallel_join",
        .unnamed "z" "end"]⟩ := by
    with_unfolding_all rfl
  have calm : Report.TipsOnly ⟨[.unnamed "s" "start", .unnamed "p" "parallel_start",
      .unnamed "j" "parallel_join", .unnamed "z" "end"]⟩ := by
    simp [Report.TipsOnly]
  have compiled : compile {} walkScene =
      .ok [.guarded (watchGuard "Meet") [.wait (.int 1)],
        .parallel [[.mark "Meet", .record [("type", .str "walk")]]]] := by
    with_unfolding_all rfl
  have inside := Action.mem_listParts_of_mem (List.mem_cons_self
    (a := .guarded (watchGuard "Meet") [.wait (.int 1)])
    (l := [.parallel [[.mark "Meet", .record [("type", .str "walk")]]]]))
  have resumes : JoinsResume walkScene := joinsResume_meetScene (some "Meet") none
  obtain ⟨known, marked, ofNodes⟩ :=
    node_reached_marked unique reported calm compiled rfl inside rfl
  exact ⟨_, _, unique, reported, calm, compiled, rfl, inside, rfl, resumes, known, marked,
    ofNodes resumes⟩

/-- The start leads to the join of a fork, and the fork comes only after it. -/
def detourScene : Graph where
  nodes := [
    { id := "s", type := "start" },
    { id := "j", type := "parallel_join", params := [("pairId", .str "p")] },
    { id := "p", type := "parallel_start", params := [("joinId", .str "j")] },
    { id := "w", type := "walk", name := some "Far" },
    { id := "z", type := "end" }]
  edges := [
    watchEdge "j" "Far",
    { id := "e2", source := "j", target := "p" },
    { id := "e3", source := "p", target := "w", sourceHandle := some "out_b0" },
    { id := "e4", source := "w", target := "z" }]

/-- The report has nothing but tips, and still the action list waits for a node that nothing in it
marks. -/
def WaitsInVain (graph : Graph) (name : String) : Prop :=
  ∃ report actions guard inner, Report.ofGraph {} graph = .ok report ∧ report.TipsOnly ∧
    compile {} graph = .ok actions ∧ .guarded guard inner ∈ Action.listParts actions ∧
    guard.stop = some (.node name) ∧
    ∀ part ∈ Action.listParts actions, part.toJson ≠ Action.markJson name

/-- The name may be that of a join, which is never marked, or that of a node beyond a join at which
the walk stops short. -/
theorem waits_in_vain_scenes :
    WaitsInVain (meetScene none (some "Meet")) "Meet" ∧ WaitsInVain detourScene "Far" := by
  constructor
  · have reported : Report.ofGraph {} (meetScene none (some "Meet")) =
        .ok ⟨[.unnamed "s" "start", .unnamed "p" "parallel_start", .unnamed "w" "walk",
          .unnamed "z" "end"]⟩ := by
      with_unfolding_all rfl
    have compiled : compile {} (meetScene none (some "Meet")) =
        .ok [.guarded (watchGuard "Meet") [.wait (.int 1)],
          .parallel [[.record [("type", .str "walk")]]]] := by
      with_unfolding_all rfl
    refine ⟨_, _, watchGuard "Meet", _, reported, ?_, compiled,
      Action.mem_listParts_of_mem List.mem_cons_self, rfl, ?_⟩
    · simp [Report.TipsOnly]
    · simp [Action.listParts, Action.parts, Action.lanesParts, Action.toJson, Action.markJson,
        Action.waitJson, Guard.toJson]
  · have reported : Report.ofGraph {} detourScene =
        .ok ⟨[.unnamed "s" "start", .unnamed "j" "parallel_join", .unnamed "p" "parallel_start",
          .unnamed "z" "end"]⟩ := by
      with_unfolding_all rfl
    have compiled : compile {} detourScene =
        .ok [.guarded (watchGuard "Far") [.wait (.int 1)]] := by
      with_unfolding_all rfl
    refine ⟨_, _, watchGuard "Far", _, reported, ?_, compiled,
      Action.mem_listParts_of_mem List.mem_cons_self, rfl, ?_⟩
    · simp [Report.TipsOnly]
    · simp [Action.listParts, Action.parts, Action.toJson, Action.markJson, Action.waitJson,
        Guard.toJson]

end Compile

end SceneScript
