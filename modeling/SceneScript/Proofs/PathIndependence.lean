import SceneScript.Proofs.CallStack
import SceneScript.Proofs.Configuration
import SceneScript.Proofs.Cycle

/-!
What the path of a walk has to do with its outcome: it decides whether the walk succeeds, and
nothing else. Main statement: two walks from one id agree if both succeed, a walk with more on its
path can only fail for what is more, and a call that returns leaves the path as it was, so that a
node at which the sides of a branch meet compiles to the same actions on both.
-/

namespace SceneScript.Compile

/-- The second outcome is the first one, or a cycle at an id that only the second path has. -/
def Agrees {α : Type} (path more : List String) (one other : Except CompileError α) : Prop :=
  other = one ∨ ∃ id inLane, other = .error (.cycle id inLane) ∧ id ∈ more ∧ id ∉ path

variable {settings : Settings} {graph : Graph} {path more : List String} {id : String}

namespace Agrees

variable {α β : Type} {one other : Except CompileError α}

theorem refl (one : Except CompileError α) : Agrees path more one one := .inl rfl

theorem bind {next onward : α → Except CompileError β} (agrees : Agrees path more one other)
    (further : ∀ value, one = .ok value → Agrees path more (next value) (onward value)) :
    Agrees path more (one >>= next) (other >>= onward) := by
  rcases agrees with rfl | ⟨id, inLane, rfl, member, fresh⟩
  · cases other with
    | error error => exact refl _
    | ok value => exact further value rfl
  · exact .inr ⟨id, inLane, rfl, member, fresh⟩

theorem bind_self {next onward : α → Except CompileError β}
    (further : ∀ value, one = .ok value → Agrees path more (next value) (onward value)) :
    Agrees path more (one >>= next) (one >>= onward) :=
  (refl one).bind further

theorem map {build : α → β} (agrees : Agrees path more one other) :
    Agrees path more (one >>= fun value => .ok (build value))
      (other >>= fun value => .ok (build value)) :=
  agrees.bind fun value _ => refl (.ok (build value))

/-- What both paths have before them makes no difference. -/
theorem of_cons (agrees : Agrees (id :: path) (id :: more) one other) :
    Agrees path more one other := by
  rcases agrees with same | ⟨again, inLane, failed, member, fresh⟩
  · exact .inl same
  · rw [List.mem_cons, not_or] at fresh
    exact .inr ⟨again, inLane, failed, (List.mem_cons.mp member).resolve_left fresh.1, fresh.2⟩

end Agrees

section Walks

variable {walk walkMore : String → Except CompileError (List Action)}

theorem agrees_enter (sub : path ⊆ more) (inLane : Bool) (id : String) :
    Agrees path more (enter (.ofGraph graph) inLane path id)
      (enter (.ofGraph graph) inLane more id) := by
  by_cases old : id ∈ path
  · rw [enter, if_pos old, enter, if_pos (sub old)]
    exact .refl _
  · by_cases met : id ∈ more
    · rw [enter.eq_def _ _ more, if_pos met]
      exact .inr ⟨id, inLane, rfl, met, old⟩
    · rw [enter, if_neg old, enter, if_neg met]
      exact .refl _

theorem agrees_along (further : ∀ next, Agrees path more (walk next) (walkMore next))
    (edge : Edge) :
    Agrees path more (along settings (.ofGraph graph) walk edge)
      (along settings (.ofGraph graph) walkMore edge) :=
  .bind_self fun _ _ => (further edge.target).map

theorem agrees_onward (further : ∀ next, Agrees path more (walk next) (walkMore next))
    (node : Node) :
    Agrees path more (onward settings (.ofGraph graph) walk node)
      (onward settings (.ofGraph graph) walkMore node) := by
  rw [onward, onward]
  rcases (Index.ofGraph graph).outEdges node.id with _ | ⟨edge, _ | ⟨second, rest⟩⟩
  · exact .refl _
  · exact agrees_along further edge
  · exact .refl _

theorem agrees_side (further : ∀ next, Agrees path more (walk next) (walkMore next))
    (way : Option Edge) :
    Agrees path more (side settings (.ofGraph graph) walk way)
      (side settings (.ofGraph graph) walkMore way) := by
  cases way with
  | none => exact .refl _
  | some edge => exact agrees_along further edge

theorem agrees_lanes (further : ∀ next, Agrees path more (walk next) (walkMore next))
    (fork : String) (ids : List String) :
    Agrees path more (lanes settings (.ofGraph graph) walk (graph.outEdges fork) ids)
      (lanes settings (.ofGraph graph) walkMore (graph.outEdges fork) ids) := by
  induction ids with
  | nil => exact .refl _
  | cons lane rest ih =>
      cases first : graph.laneEdge fork lane with
      | none =>
          rw [lanes_cons_of_none first, lanes_cons_of_none first]
          exact ih
      | some edge =>
          rw [lanes_cons_of_some first, lanes_cons_of_some first]
          exact (agrees_along further edge).bind fun _ _ => ih.map

end Walks

/-- At an id that only the second path has there is nothing to compare but the cycle. -/
theorem agrees_of_unmet {α : Type} {one other : Except CompileError α} {inLane : Bool}
    (fresh : id ∉ path) (met : id ∈ more → other = .error (.cycle id inLane))
    (unmet : id ∉ more → Agrees path more one other) : Agrees path more one other := by
  by_cases member : id ∈ more
  · exact .inr ⟨id, inLane, met member, member, fresh⟩
  · exact unmet member

theorem agrees_of_refused {α : Type} {other : Except CompileError α} {inLane : Bool}
    {error : CompileError} (sub : path ⊆ more)
    (refused : enter (.ofGraph graph) inLane path id = .error error)
    (failed : ∀ error, enter (.ofGraph graph) inLane more id = .error error →
      other = .error error) : Agrees path more (.error error) other := by
  have agrees := @agrees_enter graph path more sub inLane id
  rw [refused] at agrees
  rcases agrees with same | ⟨again, lane, met, member, fresh⟩
  · exact .inl (failed error same)
  · exact .inr ⟨again, lane, failed _ met, member, fresh⟩

theorem lane_of_mem {fork join : String} (apart : id ≠ join) (member : id ∈ more) :
    lane settings (.ofGraph graph) fork join more id = .error (.cycle id true) :=
  lane_of_error apart (if_pos member)

theorem sequence_of_mem (member : id ∈ more) :
    sequence settings (.ofGraph graph) more id = .error (.cycle id false) :=
  sequence_of_error (if_pos member)

/-- With more on its path a lane comes to the same, or to an id that is more. -/
theorem agrees_lane (sub : path ⊆ more) (fork join id : String) :
    Agrees path more (lane settings (.ofGraph graph) fork join path id)
      (lane settings (.ofGraph graph) fork join more id) := by
  induction path, id using lane.induct (.ofGraph graph) join generalizing more with
  | case1 path =>
      rw [lane, if_pos rfl, lane, if_pos rfl]
      exact .refl _
  | case2 path id apart error refused =>
      rw [lane_of_error apart refused]
      exact agrees_of_refused sub refused fun _ => lane_of_error apart
  | case3 path id apart node entered bent =>
      obtain ⟨fresh, found⟩ := fresh_of_enter entered
      refine agrees_of_unmet fresh (lane_of_mem apart) fun unmet => ?_
      rw [lane_of_found apart fresh found, lane_of_found apart unmet found, if_pos bent,
        if_pos bent]
      exact .refl _
  | case4 path id apart node entered flat deadEnd =>
      obtain ⟨fresh, found⟩ := fresh_of_enter entered
      rw [outEdges_of_enter entered] at deadEnd
      refine agrees_of_unmet fresh (lane_of_mem apart) fun unmet => ?_
      rw [lane_of_found apart fresh found, lane_of_found apart unmet found, if_neg flat,
        if_neg flat, deadEnd]
      exact .refl _
  | case5 path id apart node entered flat edge way ih =>
      obtain ⟨fresh, found⟩ := fresh_of_enter entered
      rw [outEdges_of_enter entered] at way
      refine agrees_of_unmet fresh (lane_of_mem apart) fun unmet => ?_
      rw [lane_of_found apart fresh found, lane_of_found apart unmet found, if_neg flat,
        if_neg flat, way]
      have further (next : String) := (ih next (List.cons_subset_cons id sub)).of_cons
      exact (agrees_along further edge).map
  | case6 path id apart node entered flat some several =>
      obtain ⟨fresh, found⟩ := fresh_of_enter entered
      rw [outEdges_of_enter entered] at some several
      refine agrees_of_unmet fresh (lane_of_mem apart) fun unmet => ?_
      rw [lane_of_found apart fresh found, lane_of_found apart unmet found, if_neg flat,
        if_neg flat]
      rcases ways : graph.outEdges id with _ | ⟨edge, _ | ⟨second, rest⟩⟩
      · exact (some ways).elim
      · exact (several edge ways).elim
      · exact .refl _

/-- The record of a fork and the join from which the walk goes on, by themselves. -/
def parallel (settings : Settings) (index : Index) (path : List String) (fork : Node) :
    Except CompileError (Action × Node) := do
  let join ← joinOf index fork
  let groups ← lanes settings index (lane settings index fork.id join.id path)
    (index.outEdges fork.id) fork.laneIds.eraseDups
  .ok (.parallel groups, join)

theorem agrees_parallel (sub : path ⊆ more) (fork : Node) :
    Agrees path more (parallel settings (.ofGraph graph) path fork)
      (parallel settings (.ofGraph graph) more fork) := by
  refine .bind_self fun join _ => ?_
  rw [Index.outEdges_scan]
  exact (agrees_lanes (agrees_lane sub fork.id join.id) fork.id fork.laneIds.eraseDups).map

theorem sequence_of_fork {node : Node} (fresh : id ∉ path) (found : graph.nodeAt? id = some node)
    (role : node.role = .fork) :
    sequence settings (.ofGraph graph) path id = (do
      let (record, join) ← parallel settings (.ofGraph graph) (id :: path) node
      let after ← enter (.ofGraph graph) false (id :: path) join.id
      let rest ← onward settings (.ofGraph graph)
        (fun next => sequence settings (.ofGraph graph) (join.id :: id :: path) next) after
      .ok (ownActions settings node ++ record :: rest)) := by
  obtain rfl := Graph.id_of_nodeAt? found
  rw [sequence_of_found fresh found, role, parallel, Index.outEdges_scan]
  simp only [bind_assoc]
  rfl

/-- With more on its path a sequence comes to the same, or to an id that is more. -/
theorem agrees_sequence (sub : path ⊆ more) (id : String) :
    Agrees path more (sequence settings (.ofGraph graph) path id)
      (sequence settings (.ofGraph graph) more id) := by
  induction path, id using sequence.induct (.ofGraph graph) generalizing more with
  | case1 path id error refused =>
      rw [sequence_of_error refused]
      exact agrees_of_refused sub refused fun _ => sequence_of_error
  | case2 path id node entered role | case3 path id node entered role =>
      obtain ⟨fresh, found⟩ := fresh_of_enter entered
      refine agrees_of_unmet fresh sequence_of_mem fun unmet => ?_
      rw [sequence_of_found fresh found, sequence_of_found unmet found, role]
      exact .refl _
  | case4 path id node entered role ih | case5 path id node entered role ih =>
      obtain ⟨fresh, found⟩ := fresh_of_enter entered
      refine agrees_of_unmet fresh sequence_of_mem fun unmet => ?_
      rw [sequence_of_found fresh found, sequence_of_found unmet found, role]
      have further (next : String) := (ih next (List.cons_subset_cons id sub)).of_cons
      exact (agrees_onward further node).map
  | case6 path id node entered role ih =>
      obtain ⟨fresh, found⟩ := fresh_of_enter entered
      refine agrees_of_unmet fresh sequence_of_mem fun unmet => ?_
      rw [sequence_of_found fresh found, sequence_of_found unmet found, role]
      have further (next : String) := (ih next (List.cons_subset_cons id sub)).of_cons
      exact .bind_self fun ways _ =>
        (agrees_side further ways.1).bind fun _ _ => (agrees_side further ways.2).map
  | case7 path id node entered role ih =>
      obtain ⟨fresh, found⟩ := fresh_of_enter entered
      refine agrees_of_unmet fresh sequence_of_mem fun unmet => ?_
      rw [sequence_of_fork fresh found role, sequence_of_fork unmet found role]
      -- The lanes and the join are tried with the fork on the path, what follows with both.
      have sub := List.cons_subset_cons id sub
      refine (agrees_parallel sub node).of_cons.bind fun record _ => ?_
      refine Agrees.of_cons ((agrees_enter sub false record.2.id).bind fun after resumed => ?_)
      have further (next : String) :=
        (ih record.2 after resumed next (List.cons_subset_cons record.2.id sub)).of_cons
      exact (agrees_onward further after).map

/-- What a path has to do with an outcome: two that let a run succeed give one value, and more on
the path gives that value too, or a cycle at an id that is more. -/
structure PathDecides {α : Type} (run : List String → Except CompileError α) : Prop where
  same : ∀ path other value another,
    run path = .ok value → run other = .ok another → value = another
  grows : ∀ path more value, path ⊆ more → run path = .ok value →
    run more = .ok value ∨
      ∃ id inLane, run more = .error (.cycle id inLane) ∧ id ∈ more ∧ id ∉ path

/-- Both paths are compared with what is on either. -/
theorem pathDecides_of_agrees {α : Type} {run : List String → Except CompileError α}
    (agrees : ∀ path more, path ⊆ more → Agrees path more (run path) (run more)) :
    PathDecides run where
  same path other value another succeeded again := by
    -- A cycle at an id of either path would have to be at one that neither path has.
    have first := agrees path (path ++ other) (List.subset_append_left path other)
    have second := agrees other (path ++ other) (List.subset_append_right path other)
    rw [succeeded] at first
    rw [again] at second
    rcases first with first | ⟨id, inLane, failed, member, fresh⟩
    · rcases second with second | ⟨id, inLane, failed, -⟩
      · exact Except.ok.inj (first.symm.trans second)
      · cases first.symm.trans failed
    · rcases second with second | ⟨met, lane, other, -, unseen⟩
      · cases failed.symm.trans second
      · cases failed.symm.trans other
        exact ((List.mem_append.mp member).elim fresh unseen).elim
  grows path more value sub succeeded := by
    rw [← succeeded]
    exact agrees path more sub

section Sharing

variable {node : Node} {actions : List Action}

/-- A list of actions that ends another one, or stands so in the record of a branch at its end. -/
inductive Within (part : List Action) : List Action → Prop where
  | ending (front : List Action) : Within part (front ++ part)
  | onTrue {whenTrue : List Action} (front : List Action) (condition : String)
      (whenFalse : List Action) (inside : Within part whenTrue) :
      Within part (front ++ [.branch condition whenTrue whenFalse])
  | onFalse {whenFalse : List Action} (front : List Action) (condition : String)
      (whenTrue : List Action) (inside : Within part whenFalse) :
      Within part (front ++ [.branch condition whenTrue whenFalse])

theorem Within.append_left {part whole : List Action} (within : Within part whole)
    (front : List Action) : Within part (front ++ whole) := by
  cases within with
  | ending middle =>
      rw [← List.append_assoc]
      exact .ending (front ++ middle)
  | onTrue middle condition whenFalse inside =>
      rw [← List.append_assoc]
      exact .onTrue (front ++ middle) condition whenFalse inside
  | onFalse middle condition whenTrue inside =>
      rw [← List.append_assoc]
      exact .onFalse (front ++ middle) condition whenTrue inside

theorem Within.crossing {part rest : List Action} {way : Option Edge} {edge : Edge}
    (taken : edge ∈ way) (within : Within part rest) :
    Within part (Compile.crossing settings way rest) := by
  cases taken
  exact within.append_left (waitActions settings edge)

/-- A lane is left only by way of its fork. -/
theorem not_trail_of_inLane {path' : List String} {fork later : String} :
    ¬ Trail graph path (.inLane fork id) path' (.plain later) := by
  intro trail
  generalize begins : Config.inLane fork id = config at trail
  generalize ended : Config.plain later = last at trail
  induction trail generalizing id with
  | here => cases begins.trans ended.symm
  | next fresh step trail ih =>
      subst begins
      cases step with
      | inLane found follows apart => exact ih rfl ended

/-- Wherever a walk comes to as a sequence, what is walked from there is within what is walked from
the start. -/
theorem within_of_trail {path' : List String} {later : String}
    (walked : Walked settings graph path id actions)
    (trail : Trail graph path (.plain id) path' (.plain later)) :
    ∃ part, Walked settings graph path' later part ∧ Within part actions := by
  induction walked with
  | @stops path id node fresh found role =>
      cases trail with
      | here => exact ⟨_, .stops fresh found role, .ending []⟩
      | next _ step _ =>
          rcases next_plain found step with ⟨-, edge, follows, -⟩ | ⟨fork, -⟩
          · rw [follows_plain_iff found] at follows
            rcases role with role | role <;> simp [role] at follows
          · rcases role with role | role <;> simp [role] at fork
  | @passes path id node way rest fresh found role ways known walked ih =>
      cases trail with
      | here => exact ⟨_, .passes fresh found role ways known walked, .ending []⟩
      | next _ step trail =>
          rcases next_plain found step with ⟨-, edge, follows, rfl⟩ | ⟨fork, -⟩
          · have taken : edge ∈ way := follows_mem_way follows ways
            obtain ⟨part, reached, within⟩ := ih edge taken trail
            exact ⟨part, reached, (within.crossing taken).append_left _⟩
          · rcases role with role | role <;> simp [role] at fork
  | @splits path id node rests fresh found role fits known walked ih =>
      cases trail with
      | here => exact ⟨_, .splits fresh found role fits known walked, .ending []⟩
      | next _ step trail =>
          rcases next_plain found step with ⟨-, edge, follows, rfl⟩ | ⟨fork, -⟩
          · rw [follows_plain_iff found] at follows
            simp only [role, reduceCtorEq, or_self, false_and, true_and, false_or, or_false]
              at follows
            obtain ⟨side, way⟩ := follows
            obtain ⟨part, reached, within⟩ := ih side edge way trail
            cases side with
            | true => exact ⟨part, reached, .onTrue _ _ _ (within.crossing way)⟩
            | false => exact ⟨part, reached, .onFalse _ _ _ (within.crossing way)⟩
          · simp [role] at fork
  | @forks path id node join way rest contribution fresh found role named joins isJoin lanes resumed
      ways known walked ih =>
      cases trail with
      | here =>
          exact ⟨_, .forks fresh found role named joins isJoin lanes resumed ways known walked,
            .ending []⟩
      | next _ step trail =>
          rcases next_plain found step with ⟨flat, -⟩ | ⟨-, rfl | ⟨edge, -, -, rfl⟩⟩
          · exact (flat role).elim
          · rw [← Graph.id_of_nodeAt? joins] at trail
            cases trail with
            | next _ step trail =>
                cases step with
                | @resume _ edge follows =>
                    have taken : edge ∈ way := follows_mem_way follows ways
                    obtain ⟨part, reached, within⟩ := ih edge taken trail
                    refine ⟨part, reached, ?_⟩
                    rw [List.append_cons]
                    exact (within.crossing taken).append_left _
          · exact (not_trail_of_inLane trail).elim

/-- The sides of a branch are walked with the path at the branch, whatever the other side does, and
a node to which both come gives both the same. -/
theorem shared_of_sides {edges : Bool → Edge} {paths : Bool → List String} {later : String}
    (succeeded : sequence settings (.ofGraph graph) path id = .ok actions)
    (found : graph.nodeAt? id = some node) (role : node.role = .branch)
    (ways : ∀ side, graph.sideEdge id side = some (edges side))
    (trails : ∀ side,
      Trail graph (id :: path) (.plain (edges side).target) (paths side) (.plain later)) :
    ∃ (lists : Bool → List Action) (shared : List Action),
      actions = ownActions settings node ++
        [.branch (node.textParam "condition") (lists true) (lists false)] ∧
      ∀ side, sequence settings (.ofGraph graph) (paths side) later = .ok shared ∧
        Within shared (lists side) := by
  cases sequence_eq_ok_iff.mp succeeded with
  | stops _ again other =>
      cases found.symm.trans again
      rcases other with other | other <;> cases role.symm.trans other
  | passes _ again other =>
      cases found.symm.trans again
      rcases other with other | other <;> cases role.symm.trans other
  | forks _ again other =>
      cases found.symm.trans again
      cases role.symm.trans other
  | @splits _ _ _ rests _ again _ _ _ walked =>
      cases found.symm.trans again
      choose parts reached within using fun side =>
        within_of_trail (walked side (edges side) (ways side)) (trails side)
      have decides := pathDecides_of_agrees fun path more sub =>
        @agrees_sequence settings graph path more sub later
      have alike (side : Bool) : parts side = parts true :=
        decides.same _ _ _ _ (sequence_of_walked (reached side)) (sequence_of_walked (reached true))
      refine ⟨fun side => crossing settings (graph.sideEdge id side) (rests side), parts true, rfl,
        fun side => ?_⟩
      rw [← alike side]
      exact ⟨sequence_of_walked (reached side), (within side).crossing (ways side)⟩

end Sharing

section Restoring

variable {walker : Walker} {actions : List Action}

/-- A call returns exactly what the walk returns, and the path with which it began. -/
theorem runs_returned_iff {after : List String} :
    Runs settings (.ofGraph graph) (called walker path id) (.returned after actions) ↔
      after = path ∧ walk settings (.ofGraph graph) walker path id = .ok actions := by
  have ends := @runs_called settings graph walker path id
  constructor
  · intro run
    have same := Runs.eq_of_halted (Runs.to_end ends (halted_ofOutcome _ _) run) trivial
    cases reached : walk settings (.ofGraph graph) walker path id with
    | error error =>
        rw [reached] at same
        cases same
    | ok others =>
        rw [reached] at same
        cases same
        exact ⟨rfl, rfl⟩
  · rintro ⟨rfl, reached⟩
    rw [reached] at ends
    exact ends

/-- The lanes of a fork leave the path with which they began. -/
theorem runs_lanes {pending : List Call} {loop : Loop} {fork join : Node} {record : Action}
    (succeeded : parallel settings (.ofGraph graph) path fork = .ok (record, join)) :
    ∃ groups, record = .parallel groups ∧
      Runs settings (.ofGraph graph)
        (.running ⟨path, pending, .sequence, loop, .lanes fork join [] fork.laneIds.eraseDups⟩)
        (.running ⟨path, pending, .sequence, loop, .lanes fork join groups []⟩) := by
  obtain ⟨found, -, succeeded⟩ := bind_eq_ok_iff.mp succeeded
  obtain ⟨groups, gathered, same⟩ := bind_eq_ok_iff.mp succeeded
  cases same
  have gathers := @gathers_lanes settings graph path pending loop
    (lane settings (.ofGraph graph) fork.id join.id path) fork join [] fork.laneIds.eraseDups
    fun next pending => finishes_lane
  rw [← Index.outEdges_scan, gathered] at gathers
  exact ⟨groups, rfl, gathers⟩

end Restoring

/-- The path decides whether a walk succeeds and nothing else, and is restored: by a call of a
sequence or of a lane, and by the lanes of a fork. -/
theorem path_decides_success (settings : Settings) (graph : Graph) :
    (∀ walker path id after actions,
      Runs settings (.ofGraph graph) (called walker path id) (.returned after actions) ↔
        after = path ∧ walk settings (.ofGraph graph) walker path id = .ok actions) ∧
    (∀ walker path id pending actions,
      walk settings (.ofGraph graph) walker path id = .ok actions →
        Runs settings (.ofGraph graph) (.running ⟨path, pending, walker, {}, .head id⟩)
          (returning settings path actions pending)) ∧
    (∀ path pending loop fork join record,
      parallel settings (.ofGraph graph) path fork = .ok (record, join) →
        ∃ groups, record = .parallel groups ∧ Runs settings (.ofGraph graph)
          (.running ⟨path, pending, .sequence, loop, .lanes fork join [] fork.laneIds.eraseDups⟩)
          (.running ⟨path, pending, .sequence, loop, .lanes fork join groups []⟩)) ∧
    (∀ walker id, PathDecides fun path => walk settings (.ofGraph graph) walker path id) ∧
    (∀ fork, PathDecides fun path => parallel settings (.ofGraph graph) path fork) ∧
    ∀ path id node actions later (edges : Bool → Edge) (paths : Bool → List String),
      sequence settings (.ofGraph graph) path id = .ok actions →
      graph.nodeAt? id = some node → node.role = .branch →
      (∀ side, graph.sideEdge id side = some (edges side)) →
      (∀ side, Trail graph (id :: path) (.plain (edges side).target) (paths side) (.plain later)) →
        ∃ (lists : Bool → List Action) (shared : List Action),
          actions = ownActions settings node ++
            [.branch (node.textParam "condition") (lists true) (lists false)] ∧
          ∀ side, sequence settings (.ofGraph graph) (paths side) later = .ok shared ∧
            Within shared (lists side) := by
  refine ⟨fun _ _ _ _ _ => runs_returned_iff, fun _ _ _ _ _ => runs_returning,
    fun _ _ _ _ _ _ => runs_lanes, ?_,
    fun fork => pathDecides_of_agrees fun _ _ sub => agrees_parallel sub fork,
    fun _ _ _ _ _ _ _ => shared_of_sides⟩
  intro walker id
  cases walker with
  | sequence => exact pathDecides_of_agrees fun _ _ sub => agrees_sequence sub id
  | lane fork join => exact pathDecides_of_agrees fun _ _ sub => agrees_lane sub fork join id

/-- The way through `x` and the way past it meet at `m`; a lane beyond it goes through `k`. -/
theorem path_decides_success_wovenScene :
    (∃ shared, sequence {} (.ofGraph wovenScene) ["x", "b", "s"] "m" = .ok shared ∧
      sequence {} (.ofGraph wovenScene) ["b", "s"] "m" = .ok shared ∧
      Runs {} (.ofGraph wovenScene) (called .sequence ["b", "s"] "m")
        (.returned ["b", "s"] shared)) ∧
      ∃ inLane, sequence {} (.ofGraph wovenScene) ["k", "b", "s"] "m" =
        .error (.cycle "k" inLane) := by
  obtain ⟨returned, -, -, decides, -, shares⟩ := path_decides_success {} wovenScene
  let edges (side : Bool) : Edge :=
    bif side then { id := "e2", source := "b", target := "x", sourceHandle := some "out_true" }
    else { id := "e3", source := "b", target := "m", sourceHandle := some "out_false" }
  have ways (side : Bool) : wovenScene.sideEdge "b" side = some (edges side) := by
    cases side <;> with_unfolding_all rfl
  have found : wovenScene.nodeAt? "x" = some { id := "x", type := "walk" } := by
    with_unfolding_all rfl
  have way : wovenScene.outEdges "x" = [{ id := "e4", source := "x", target := "m" }] := by
    with_unfolding_all rfl
  have step : Next wovenScene (.plain "x") (.plain "m") :=
    .pass found (by decide) (.pass found (.inr rfl) (way ▸ List.mem_singleton_self _))
  have trails (side : Bool) : Trail wovenScene ["b", "s"] (.plain (edges side).target)
      (bif side then ["x", "b", "s"] else ["b", "s"]) (.plain "m") := by
    cases side with
    | true => exact .next (by decide) step .here
    | false => exact .here
  have compiled : (sequence {} (.ofGraph wovenScene) ["s"] "b").toBool = true := by decide +kernel
  cases succeeded : sequence {} (.ofGraph wovenScene) ["s"] "b" with
  | error error =>
      rw [succeeded] at compiled
      cases compiled
  | ok actions =>
      obtain ⟨lists, shared, -, alike⟩ := shares ["s"] "b" { id := "b", type := "branch" } actions
        "m" edges (fun side => bif side then ["x", "b", "s"] else ["b", "s"]) succeeded
        (by with_unfolding_all rfl) rfl ways trails
      have past := (alike false).1
      refine ⟨⟨shared, (alike true).1, past, (returned .sequence _ _ _ _).mpr ⟨rfl, past⟩⟩, ?_⟩
      have failed : (sequence {} (.ofGraph wovenScene) ["k", "b", "s"] "m").toBool = false := by
        decide +kernel
      rcases (decides .sequence "m").grows ["b", "s"] ["k", "b", "s"] shared
        (List.subset_cons_self _ _) past with same | ⟨id, inLane, met, more, fresh⟩
      · rw [walk] at same
        rw [same] at failed
        cases failed
      · obtain rfl : id = "k" := (List.mem_cons.mp more).resolve_right fresh
        exact ⟨inLane, met⟩

end SceneScript.Compile
