import SceneScript.Proofs.Unmarked
import SceneScript.Proofs.Walked

/-!
What settings can change of a compilation. Main statements: whether a graph compiles, and with which
error it does not, depends on no setting; and without marks it compiles to what is left of the
marked actions when the marks are taken out.
-/

namespace SceneScript

namespace Compile

variable {graph : Graph} {first second : Settings}

section Parts

variable {walk again : String → Except CompileError (List Action)}

theorem along_failsAlike {edge : Edge} (alike : FailsAlike (walk edge.target) (again edge.target)) :
    FailsAlike (along first (.ofGraph graph) walk edge)
      (along second (.ofGraph graph) again edge) := by
  by_cases known : graph.Has edge.target
  · rw [along, along, edgeActions_of_has known, edgeActions_of_has known]
    exact alike.bind fun _ _ _ _ => .of_ok _ _
  · rw [along, along, edgeActions_of_not_has known, edgeActions_of_not_has known]
    exact .of_error _

theorem side_failsAlike (alike : ∀ id, FailsAlike (walk id) (again id)) (way : Option Edge) :
    FailsAlike (side first (.ofGraph graph) walk way) (side second (.ofGraph graph) again way) := by
  cases way with
  | none => exact .of_ok _ _
  | some edge => exact along_failsAlike (alike edge.target)

theorem onward_failsAlike (alike : ∀ id, FailsAlike (walk id) (again id)) (node : Node) :
    FailsAlike (onward first (.ofGraph graph) walk node)
      (onward second (.ofGraph graph) again node) := by
  unfold onward
  split
  · exact .of_ok _ _
  · exact along_failsAlike (alike _)
  · exact .of_error _

/-- Lanes may be left out under one setting and not under another; they fail alike. -/
theorem lanes_failsAlike (alike : ∀ id, FailsAlike (walk id) (again id)) (edges : List Edge)
    (ids : List String) :
    FailsAlike (lanes first (.ofGraph graph) walk edges ids)
      (lanes second (.ofGraph graph) again edges ids) := by
  induction ids with
  | nil => exact .of_ok _ _
  | cons id rest ih =>
      rw [lanes, lanes]
      split
      · exact ih
      · rename_i edge begins
        exact (along_failsAlike (alike edge.target)).bind fun _ _ _ _ =>
          ih.bind fun _ _ _ _ => .of_ok _ _

end Parts

section Walks

variable {path : List String} {id : String}

theorem lane_failsAlike (first second : Settings) {fork join : String} :
    FailsAlike (lane first (.ofGraph graph) fork join path id)
      (lane second (.ofGraph graph) fork join path id) := by
  induction path, id using lane.induct (.ofGraph graph) join with
  | case1 path =>
      rw [lane, lane, if_pos rfl, if_pos rfl]
      exact .of_ok _ _
  | case2 path id apart error refused =>
      rw [lane_of_error apart refused, lane_of_error apart refused]
      exact .of_error _
  | case3 path id apart node entered bent =>
      obtain ⟨fresh, found⟩ := fresh_of_enter entered
      rw [lane_of_found apart fresh found, lane_of_found apart fresh found, if_pos bent, if_pos bent]
      exact .of_error _
  | case4 path id apart node entered flat deadEnd =>
      obtain ⟨fresh, found⟩ := fresh_of_enter entered
      rw [outEdges_of_enter entered] at deadEnd
      rw [lane_of_found apart fresh found, lane_of_found apart fresh found, if_neg flat, if_neg flat,
        deadEnd]
      exact .of_error _
  | case5 path id apart node entered flat edge way ih =>
      obtain ⟨fresh, found⟩ := fresh_of_enter entered
      rw [outEdges_of_enter entered] at way
      rw [lane_of_found apart fresh found, lane_of_found apart fresh found, if_neg flat, if_neg flat,
        way]
      exact (along_failsAlike (ih edge.target)).bind fun _ _ _ _ => .of_ok _ _
  | case6 path id apart node entered flat some several =>
      obtain ⟨fresh, found⟩ := fresh_of_enter entered
      rw [outEdges_of_enter entered] at some several
      rw [lane_of_found apart fresh found, lane_of_found apart fresh found, if_neg flat, if_neg flat]
      split
      · exact .of_error _
      · rename_i edge one
        exact (several edge one).elim
      · exact .of_error _

theorem sequence_failsAlike (first second : Settings) :
    FailsAlike (sequence first (.ofGraph graph) path id)
      (sequence second (.ofGraph graph) path id) := by
  induction path, id using sequence.induct (.ofGraph graph) with
  | case1 path id error refused =>
      rw [sequence_of_error refused, sequence_of_error refused]
      exact .of_error _
  | case2 path id node entered role | case3 path id node entered role =>
      obtain ⟨fresh, found⟩ := fresh_of_enter entered
      rw [sequence_of_found fresh found, sequence_of_found fresh found, role]
      exact .of_ok _ _
  | case4 path id node entered role ih | case5 path id node entered role ih =>
      obtain ⟨fresh, found⟩ := fresh_of_enter entered
      rw [sequence_of_found fresh found, sequence_of_found fresh found, role]
      exact (onward_failsAlike ih node).bind fun _ _ _ _ => .of_ok _ _
  | case6 path id node entered role ih =>
      obtain ⟨fresh, found⟩ := fresh_of_enter entered
      rw [sequence_of_found fresh found, sequence_of_found fresh found, role]
      -- The ways of the sides are found before either side is walked, under any settings.
      refine .bind_self fun ways _ => ?_
      exact (side_failsAlike ih ways.1).bind fun _ _ _ _ =>
        (side_failsAlike ih ways.2).bind fun _ _ _ _ => .of_ok _ _
  | case7 path id node entered role ih =>
      obtain ⟨fresh, found⟩ := fresh_of_enter entered
      rw [sequence_of_found fresh found, sequence_of_found fresh found, role]
      refine .bind_self fun join _ => ?_
      refine FailsAlike.bind (lanes_failsAlike (fun _ => lane_failsAlike first second) _ _) ?_
      intro _ _ _ _
      refine .bind_self fun after resumed => ?_
      exact (onward_failsAlike (ih join after resumed) after).bind fun _ _ _ _ => .of_ok _ _

end Walks

/-- Whether a graph compiles, and why it does not, is no matter of settings. -/
theorem compile_failsAlike (first second : Settings) (graph : Graph) :
    FailsAlike (compile first graph) (compile second graph) := by
  unfold compile
  split
  · exact .of_error _
  · split
    · exact .of_error _
    · exact sequence_failsAlike first second
  · exact .of_error _

end Compile

/-- No step is recorded as a mark, a guard or a fork is, and no parameter takes the place of a
type. -/
def Graph.StepsApart (graph : Graph) : Prop :=
  ∀ node ∈ graph.nodes, "type" ∉ Table.keys node.params ∧
    (node.role = .step → node.type ∉ ["mark_node", "guard_global", "parallel"])

namespace Compile

open SceneScript.Action

variable {graph : Graph} {node : Node} {edge : Edge} {marking plain : Settings}

/-- A step has a record that is no mark and holds no actions, so nothing is taken out of it. -/
theorem stripsTo_ofNode (apart : graph.StepsApart) (listed : node ∈ graph.nodes)
    (step : node.role = .step) : StripsTo [.ofNode node] [.ofNode node] := by
  obtain ⟨untyped, other⟩ := apart node listed
  have typed : Table.string? (recordFields node) "type" = some node.type := by
    rw [Table.string?, type_recordFields untyped]
    rfl
  have noBranch : node.type ≠ "branch" := by
    intro isBranch
    rw [Node.role, isBranch] at step
    cases step
  have apart := other step
  simp only [List.mem_cons, not_or] at apart
  refine .record ?_ (Json.unmarked_of_type typed ?_) ?_
  · simp [ofNode, toJson, Json.isMark, typed, apart]
  · simp [noBranch, apart]
  · simp [ofNode, toJson, Json.isIdleGuard, typed, apart]

section Parts

variable (off : plain.markNamedNodes = false)
  (same : plain.globalVarPrefix = marking.globalVarPrefix)

include off in
/-- Here the two lists differ; everywhere else they are made alike of lists that may differ. -/
theorem stripsTo_marks (node : Node) : StripsTo (marks marking node) (marks plain node) := by
  have none : marks plain node = [] := by simp [marks, off]
  rw [none, marks]
  split
  · exact .mark node.displayName
  · exact .nil

include off in
theorem stripsTo_ownActions (apart : graph.StepsApart) {id : String}
    (found : graph.nodeAt? id = some node) :
    StripsTo (ownActions marking node) (ownActions plain node) := by
  have listed := (Graph.mem_of_nodeAt? found).1
  unfold ownActions
  cases role : node.role with
  | join => exact .nil
  | step => exact (stripsTo_marks off node).append (stripsTo_ofNode apart listed role)
  | _ => exact stripsTo_marks off node

include same in
theorem stripsTo_waitActions (edge : Edge) :
    StripsTo (waitActions marking edge) (waitActions plain edge) := by
  have wait (seconds : Number) : StripsTo [.wait seconds] [.wait seconds] :=
    .record rfl rfl rfl
  rw [waitActions, waitActions, same]
  cases edge.wait? with
  | none => exact .nil
  | some seconds =>
      simp only [underGuard]
      cases Guard.ofEdge? marking.globalVarPrefix edge with
      | none => exact wait seconds
      | some guard => exact .guarded guard (wait seconds) nofun

include same in
/-- The way on, if there is one, contributes its wait and what is beyond it. -/
theorem exists_stripsTo_crossing {way : Option Edge} {rest : List Action}
    {Walks : Edge → List Action → Prop}
    (beyond : ∀ edge ∈ way, ∃ bare, Walks edge bare ∧ StripsTo rest bare) :
    ∃ bare, (∀ edge ∈ way, Walks edge bare) ∧
      StripsTo (crossing marking way rest) (crossing plain way bare) := by
  cases way with
  | none => exact ⟨[], fun edge taken => (Option.not_mem_none edge taken).elim, .nil⟩
  | some edge =>
      obtain ⟨bare, walked, strips⟩ := beyond edge rfl
      refine ⟨bare, ?_, (stripsTo_waitActions same edge).append strips⟩
      rintro _ ⟨⟩
      exact walked

/-- A lane is put under a guard whole, or left as it is, whatever is in it. -/
theorem guardLane_cases (settings : Settings) (edge : Edge) :
    (∃ guard, ∀ actions, guardLane settings edge actions = [.guarded guard actions]) ∨
      ∀ actions, guardLane settings edge actions = actions := by
  unfold guardLane underGuard
  cases edge.wait? with
  | some seconds => exact Or.inr fun actions => rfl
  | none =>
      cases Guard.ofEdge? settings.globalVarPrefix edge with
      | some guard => exact Or.inl ⟨guard, fun actions => rfl⟩
      | none => exact Or.inr fun actions => rfl

include same in
/-- A lane that held nothing but marks is left out, and its guard with it. -/
theorem unmarkedLanes_guardLane {marked bare : List Action} (strips : StripsTo marked bare) :
    Json.unmarkedLanes (lanesJson
        (if marked.isEmpty then [] else [guardLane marking edge marked])) =
      lanesJson (if bare.isEmpty then [] else [guardLane plain edge bare]) := by
  have gate : guardLane plain edge = guardLane marking edge := by
    funext actions
    rw [guardLane, guardLane, same]
  rw [gate]
  cases marked with
  | nil =>
      cases bare with
      | nil => rfl
      | cons action rest => cases strips.written
  | cons first others =>
      rw [if_neg nofun, unmarkedLanes_singleton]
      rcases guardLane_cases marking edge with ⟨guard, gated⟩ | free
      · rw [gated, gated, strips.written_guarded guard]
        -- Around nothing the guard itself is dropped, as the lane would be without marks.
        cases bare with
        | nil => rfl
        | cons action rest => exact (lanesJson_of_busy (strips.guarded guard nofun).busy).symm
      · rw [free, free, strips.written, lanesJson_of_busy strips.busy]

include same in
theorem unmarkedLanes_laneElement {fork : String} {marked bare : String → List Action}
    {ids : List String}
    (strips : ∀ lane ∈ ids, ∀ edge, graph.laneEdge fork lane = some edge →
      StripsTo (marked lane) (bare lane)) :
    Json.unmarkedLanes (lanesJson (ids.filterMap (laneElement marking graph fork marked))) =
      lanesJson (ids.filterMap (laneElement plain graph fork bare)) := by
  induction ids with
  | nil => rfl
  | cons lane rest ih =>
      have ih := ih fun other listed => strips other (List.mem_cons_of_mem lane listed)
      cases begins : graph.laneEdge fork lane with
      | none =>
          have skipped (settings : Settings) (contribution : String → List Action) :
              laneElement settings graph fork contribution lane = none := by
            rw [laneElement, begins]
            rfl
          rw [List.filterMap_cons_none (skipped _ _), List.filterMap_cons_none (skipped _ _), ih]
      | some edge =>
          have element (settings : Settings) (contribution : String → List Action) :
              (lane :: rest).filterMap (laneElement settings graph fork contribution) =
                (if (contribution lane).isEmpty then []
                  else [guardLane settings edge (contribution lane)]) ++
                  rest.filterMap (laneElement settings graph fork contribution) := by
            rw [List.filterMap_cons, laneElement_of_some begins]
            by_cases empty : (contribution lane).isEmpty = true <;> simp [empty]
          rw [element, element, lanesJson_append, lanesJson_append, Json.unmarkedLanes_append, ih,
            unmarkedLanes_guardLane same (strips lane List.mem_cons_self edge begins)]

end Parts

section Walks

variable (off : plain.markNamedNodes = false)
  (same : plain.globalVarPrefix = marking.globalVarPrefix) (apart : graph.StepsApart)
  {path : List String} {id : String} {actions : List Action}

include off same apart

theorem LaneWalked.exists_bare {join : String}
    (walked : LaneWalked marking graph join path id actions) :
    ∃ bare, LaneWalked plain graph join path id bare ∧ StripsTo actions bare := by
  induction walked with
  | joined path => exact ⟨[], .joined path, .nil⟩
  | @passes path id node edge rest ahead fresh found flat way known _ ih =>
      obtain ⟨bare, walked, strips⟩ := ih
      exact ⟨_, .passes ahead fresh found flat way known walked,
        (stripsTo_ownActions off apart found).append ((stripsTo_waitActions same edge).append strips)⟩

theorem LanesWalked.exists_bare {join : String} {fork : Node}
    {contribution : String → List Action}
    (walked : LanesWalked marking graph join path fork contribution) :
    ∃ bare, LanesWalked plain graph join path fork bare ∧
      ∀ lane ∈ fork.laneIds, ∀ edge, graph.laneEdge fork.id lane = some edge →
        StripsTo (contribution lane) (bare lane) := by
  have each (lane : String) : ∃ bare, lane ∈ fork.laneIds → ∀ edge,
      graph.laneEdge fork.id lane = some edge →
        (graph.Has edge.target ∧ ∃ rest, LaneWalked plain graph join path edge.target rest ∧
          bare = waitActions plain edge ++ rest) ∧ StripsTo (contribution lane) bare := by
    by_cases begun : lane ∈ fork.laneIds ∧ ∃ edge, graph.laneEdge fork.id lane = some edge
    · obtain ⟨declared, edge, begins⟩ := begun
      obtain ⟨known, rest, walked, contributed⟩ := walked lane declared edge begins
      obtain ⟨bare, again, strips⟩ := walked.exists_bare off same apart
      refine ⟨waitActions plain edge ++ bare, fun _ other first => ?_⟩
      cases begins.symm.trans first
      exact ⟨⟨known, bare, again, rfl⟩,
        contributed ▸ (stripsTo_waitActions same edge).append strips⟩
    · -- Of a lane without an edge nothing is asked.
      exact ⟨[], fun declared edge begins => (begun ⟨declared, edge, begins⟩).elim⟩
  choose bare spec using each
  exact ⟨bare, fun lane declared edge begins => (spec lane declared edge begins).1,
    fun lane declared edge begins => (spec lane declared edge begins).2⟩

/-- A walk that leaves marks can be made without them, and comes to the same actions but for those
marks. -/
theorem Walked.exists_bare (walked : Walked marking graph path id actions) :
    ∃ bare, Walked plain graph path id bare ∧ StripsTo actions bare := by
  -- The rules look at the graph only, so the rule that was used applies without marks as well.
  induction walked with
  | stops fresh found role =>
      exact ⟨_, .stops fresh found role, stripsTo_ownActions off apart found⟩
  | @passes path id node way rest fresh found role ways known _ ih =>
      obtain ⟨bare, walked, strips⟩ := exists_stripsTo_crossing same ih
      exact ⟨_, .passes fresh found role ways known walked,
        (stripsTo_ownActions off apart found).append strips⟩
  | @splits path id node rests fresh found role fits known _ ih =>
      choose bare walked strips using fun side => exists_stripsTo_crossing same (ih side)
      refine ⟨_, .splits fresh found role fits known walked,
        (stripsTo_ownActions off apart found).append (.record rfl ?_ rfl)⟩
      rw [unmarked_branch, (strips true).written, (strips false).written]
      rfl
  | @forks path id node join way rest contribution fresh found role named joins isJoin lanes resumed
      ways known _ ih =>
      obtain ⟨bareLane, lanesWalked, stripsLane⟩ := LanesWalked.exists_bare off same apart lanes
      obtain ⟨bare, walked, strips⟩ := exists_stripsTo_crossing same ih
      refine ⟨_, .forks fresh found role named joins isJoin lanesWalked resumed ways known walked,
        (stripsTo_ownActions off apart found).append (.append (.record rfl ?_ rfl) strips)⟩
      rw [unmarked_parallel, unmarkedLanes_laneElement same]
      · rfl
      · intro lane listed edge begins
        rw [← Graph.id_of_nodeAt? found] at begins
        exact stripsLane lane (List.mem_eraseDups.mp listed) edge begins

end Walks

/-- Settings decorate a compilation and do no more. Whether a graph compiles, and why it does not,
depends on none of them. And where no step can be taken for a mark, a guard or a fork, a graph
compiles without marks to what it compiles to with them, less the marks. -/
theorem settings_decorate (graph : Graph) :
    (∀ first second : Settings,
      (∀ error, compile first graph = .error error ↔ compile second graph = .error error) ∧
        ((∃ actions, compile first graph = .ok actions) ↔
          ∃ actions, compile second graph = .ok actions)) ∧
      (graph.StepsApart → ∀ marking plain : Settings, plain.markNamedNodes = false →
        plain.globalVarPrefix = marking.globalVarPrefix →
        ∀ actions, compile marking graph = .ok actions →
          ∃ bare, compile plain graph = .ok bare ∧
            listJson bare = Json.unmarkedList (listJson actions)) := by
  constructor
  · intro first second
    have alike := compile_failsAlike first second graph
    exact ⟨alike, alike.exists_ok_iff⟩
  · intro apart marking plain off same actions compiled
    obtain ⟨start, only, ends, walked⟩ := compile_eq_ok_iff.mp compiled
    obtain ⟨bare, again, strips⟩ := walked.exists_bare off same apart
    exact ⟨bare, compile_eq_ok_iff.mpr ⟨start, only, ends, again⟩, strips.written.symm⟩

/-- A fork with a lane of one record and its mark, a lane of a mark alone, and one under a guard;
after the join a branch with marks on both sides. -/
def cueScene : Graph where
  nodes := [
    { id := "s", type := "start", name := some "Open" },
    { id := "p", type := "parallel_start",
      params := [("joinId", .str "j"), ("branches", .arr [.str "a", .str "b", .str "c"])] },
    { id := "x", type := "walk", name := some "Ann" },
    { id := "y", type := "end", name := some "Bow" },
    { id := "w", type := "end", name := some "Cue" },
    { id := "j", type := "parallel_join" },
    { id := "q", type := "branch", params := [("condition", .str "late")] },
    { id := "t", type := "turn", name := some "Bo" },
    { id := "z", type := "end", name := some "Close" }]
  edges := [
    { id := "e1", source := "s", target := "p" },
    { id := "e2", source := "p", target := "x", sourceHandle := some "out_a" },
    { id := "e3", source := "p", target := "y", sourceHandle := some "out_b" },
    { id := "e4", source := "p", target := "w", sourceHandle := some "out_c",
      conditionEnabled := true, conditionVar := "dark", conditionEquals := "1" },
    { id := "e5", source := "x", target := "j" },
    { id := "e6", source := "y", target := "j" },
    { id := "e7", source := "w", target := "j" },
    { id := "e8", source := "j", target := "q" },
    { id := "e9", source := "q", target := "t", sourceHandle := some "out_true" },
    { id := "e10", source := "q", target := "z", sourceHandle := some "out_false" }]

/-- What the scene compiles to with marks. -/
def cueActions : List Action :=
  let dark : Guard := { global := "dark", equals := "1", ifFalse := "skip" }
  [.mark "Open",
    .parallel [[.mark "Ann", .record [("type", .str "walk")]], [.mark "Bow"],
      [.guarded dark [.mark "Cue"]]],
    .branch "late" [.mark "Bo", .record [("type", .str "turn")]] [.mark "Close"]]

theorem settings_decorate_cueScene :
    cueScene.StepsApart ∧ compile {} cueScene = .ok cueActions ∧
      (∃ bare, compile { markNamedNodes := false } cueScene = .ok bare ∧
        listJson bare = Json.unmarkedList (listJson cueActions)) ∧
      compile { markNamedNodes := false } cueScene =
        .ok [.parallel [[.record [("type", .str "walk")]]],
          .branch "late" [.record [("type", .str "turn")]] []] := by
  have apart : cueScene.StepsApart := by
    unfold Graph.StepsApart
    decide
  have compiled : compile {} cueScene = .ok cueActions := by
    with_unfolding_all rfl
  have bare := (settings_decorate cueScene).2 apart {} { markNamedNodes := false } rfl rfl
    cueActions compiled
  exact ⟨apart, compiled, bare, by with_unfolding_all rfl⟩

end Compile

end SceneScript
