import SceneScript.Proofs.PathIndependence
import SceneScript.Proofs.Termination

/-!
Lanes walked as sequences. As long as a lane enters neither an end nor a join, each step of it is a
step of a sequence too. At the join of the fork the lane is over, while a sequence still enters the
join, and ends there without an action. Main statement: where such a lane succeeds, a sequence from
the same id succeeds with the same actions; it enters what the lane enters, and then the join.
-/

namespace SceneScript.Compile

/-- The ids that a call of a lane enters. -/
def LaneEnters (settings : Settings) (graph : Graph) (fork join : String) (path : List String)
    (id entered : String) : Prop :=
  ∃ moment, Runs settings (.ofGraph graph) (called (.lane fork join) path id) (.running moment) ∧
    entered ∈ moment.loop.entered

/-- A moment of a lane as a sequence has it. Where the lane is over, the sequence has the join still
before it. -/
def Moment.asSequence (join : String) (moment : Moment) : Moment :=
  { moment with
    walker := .sequence
    place :=
      match moment.place with
      | .finished => .head join
      | place => place }

/-- At the head of the loop again, past a node and along its one way on. -/
def Moment.passing (settings : Settings) (moment : Moment) (id : String) (node : Node)
    (edge : Edge) : Moment :=
  ((moment.entering id (ownActions settings node)).adding (waitActions settings edge)).goingTo
    (.head edge.target)

/-- What holds at each moment of a lane that was called by itself. -/
structure Moment.InLane (fork join : String) (moment : Moment) : Prop where
  walker : moment.walker = .lane fork join
  alone : moment.pending = []
  between : moment.place.Between

/-- What a step of a lane does: it stops at the join, or it enters a node that has one way on. -/
inductive LaneStep (settings : Settings) (graph : Graph) (join : String) (moment : Moment) :
    Moment → Prop where
  | joins (place : moment.place = .head join) :
      LaneStep settings graph join moment (moment.goingTo .finished)
  | passes {id : String} {node : Node} {edge : Edge} (place : moment.place = .head id)
      (fresh : id ∉ moment.path) (found : graph.nodeAt? id = some node)
      (flat : ¬ (node.role = .branch ∨ node.role = .fork)) (way : graph.outEdges id = [edge])
      (known : graph.Has edge.target) :
      LaneStep settings graph join moment (moment.passing settings id node edge)

variable {settings : Settings} {graph : Graph} {fork join : String} {moment after : Moment}

theorem turn_eq_ok_iff {edge : Edge} :
    turn settings (.ofGraph graph) moment edge = .ok after ↔
      graph.Has edge.target ∧
        after = (moment.adding (waitActions settings edge)).goingTo (.head edge.target) := by
  rw [turn, bind_eq_ok_iff]
  by_cases known : graph.Has edge.target
  · simp [edgeActions_of_has known, known, eq_comm]
  · simp [edgeActions_of_not_has known, known]

theorem laneStep_of_laneHead {id : String} (place : moment.place = .head id)
    (reached : laneHead settings (.ofGraph graph) fork join moment id = .ok after) :
    LaneStep settings graph join moment after := by
  by_cases apart : id = join
  · rw [laneHead, if_pos apart] at reached
    cases reached
    exact .joins (apart ▸ place)
  · rw [laneHead, if_neg apart] at reached
    obtain ⟨node, entered, reached⟩ := bind_eq_ok_iff.mp reached
    obtain ⟨fresh, found⟩ := fresh_of_enter entered
    rw [outEdges_of_enter entered] at reached
    by_cases flat : node.role = .branch ∨ node.role = .fork
    · rw [if_pos flat] at reached
      cases reached
    · rw [if_neg flat] at reached
      rcases way : graph.outEdges id with _ | ⟨edge, _ | ⟨second, rest⟩⟩ <;>
        simp only [way] at reached
      · cases reached
      · obtain ⟨known, rfl⟩ := turn_eq_ok_iff.mp reached
        exact .passes place fresh found flat way known
      · cases reached

theorem Status.eq_ok_of_ofStep {result : Except CompileError Moment}
    (reached : Status.ofStep result = .running after) : result = .ok after := by
  cases result with
  | error error => cases reached
  | ok next =>
      cases reached
      rfl

namespace Moment.InLane

theorem laneStep (inLane : moment.InLane fork join)
    (reached : step settings (.ofGraph graph) moment = .running after) :
    LaneStep settings graph join moment after := by
  rcases inLane.between with place | ⟨id, place⟩
  · -- A lane that is over returns, and no call waits for it.
    simp only [step, place, leave, inLane.alone, returning] at reached
    cases reached
  · simp only [step, place, inLane.walker] at reached
    exact laneStep_of_laneHead place (Status.eq_ok_of_ofStep reached)

theorem step (inLane : moment.InLane fork join)
    (stepped : LaneStep settings graph join moment after) :
    after.InLane fork join ∧ moment.loop.entered ⊆ after.loop.entered := by
  cases stepped with
  | joins place => exact ⟨⟨inLane.walker, inLane.alone, .inl rfl⟩, List.Subset.refl _⟩
  | passes place fresh found flat way known =>
      exact ⟨⟨inLane.walker, inLane.alone, .inr ⟨_, rfl⟩⟩, List.subset_cons_self _ _⟩

/-- A lane calls nothing, and what it has entered only grows. -/
theorem run (inLane : moment.InLane fork join)
    (reached : Runs settings (.ofGraph graph) (.running moment) (.running after)) :
    after.InLane fork join ∧ moment.loop.entered ⊆ after.loop.entered := by
  generalize ended : Status.running after = status at reached
  induction reached generalizing after with
  | refl =>
      cases ended
      exact ⟨inLane, List.Subset.refl _⟩
  | tail _ last ih =>
      cases last with
      | step middle =>
          obtain ⟨within, grown⟩ := ih rfl
          obtain ⟨still, more⟩ := within.step (within.laneStep ended.symm)
          exact ⟨still, List.Subset.trans grown more⟩

end Moment.InLane

section Calls

variable {path : List String} {id : String}

theorem inLane_called (path : List String) (id : String) :
    Moment.InLane fork join ⟨path, [], .lane fork join, {}, .head id⟩ :=
  ⟨rfl, rfl, .inr ⟨id, rfl⟩⟩

/-- What a lane has entered when it is over is all that it enters. -/
theorem laneEnters_iff (finished : moment.place = .finished)
    (ends : Runs settings (.ofGraph graph) (called (.lane fork join) path id) (.running moment))
    (entered : String) :
    LaneEnters settings graph fork join path id entered ↔ entered ∈ moment.loop.entered := by
  refine ⟨?_, fun here => ⟨moment, ends, here⟩⟩
  rintro ⟨other, reached, here⟩
  rcases ends.total_of_right_unique (fun _ _ _ one another => one.unique another) reached with
    further | back
  · -- After the last moment there is only the return.
    have inLane := ((inLane_called path id).run ends).1
    rcases further.cases_head with same | ⟨returned, last, rest⟩
    · cases same
      exact here
    · cases last
      simp only [step, finished, leave, inLane.alone, returning] at rest
      cases Runs.eq_of_halted rest trivial
  · have inLane := ((inLane_called path id).run reached).1
    exact (inLane.run back).2 here

end Calls

section Simulation

theorem Moment.asSequence_of_head {id : String} (place : moment.place = .head id) :
    moment.asSequence join = ⟨moment.path, moment.pending, .sequence, moment.loop, .head id⟩ := by
  rw [Moment.asSequence, place]

theorem runs_of_sequenceHead {id : String} (place : moment.place = .head id)
    (walker : moment.walker = .sequence)
    (head : sequenceHead settings (.ofGraph graph) moment id = .ok after) :
    Runs settings (.ofGraph graph) (.running moment) (.running after) := by
  apply Runs.of_step
  simp only [step, place, walker, head]
  exact .refl

/-- A sequence passes a node as a lane does, unless the node is an end or a join. -/
theorem sequenceHead_of_passes {id : String} {node : Node} {edge : Edge}
    (fresh : id ∉ moment.path) (found : graph.nodeAt? id = some node)
    (flat : ¬ (node.role = .branch ∨ node.role = .fork))
    (unstopped : ¬ (node.role = .finish ∨ node.role = .join)) (way : graph.outEdges id = [edge])
    (known : graph.Has edge.target) :
    sequenceHead settings (.ofGraph graph) moment id =
      .ok (moment.passing settings id node edge) := by
  have onwards : transition settings (.ofGraph graph)
      (moment.entering id (ownActions settings node)) node =
        .ok (moment.passing settings id node edge) := by
    rw [transition, Graph.id_of_nodeAt? found, Index.outEdges_scan, way]
    exact turn_eq_ok_iff.mpr ⟨known, rfl⟩
  rw [sequenceHead_of_found fresh found]
  cases role : node.role with
  | start | step => exact onwards
  | finish | join => exact (unstopped (by simp [role])).elim
  | branch | fork => exact (flat (by simp [role])).elim

/-- A step of a lane is a step of the sequence, or none where the lane comes to the join. -/
theorem LaneStep.asSequence (stepped : LaneStep settings graph join moment after)
    (unstopped : ∀ id ∈ after.loop.entered, ∀ node, graph.nodeAt? id = some node →
      ¬ (node.role = .finish ∨ node.role = .join)) :
    Runs settings (.ofGraph graph) (.running (moment.asSequence join))
      (.running (after.asSequence join)) := by
  cases stepped with
  | joins place =>
      rw [Moment.asSequence_of_head place]
      exact .refl
  | @passes id node edge place fresh found flat way known =>
      have head := @sequenceHead_of_passes settings graph
        ⟨moment.path, moment.pending, .sequence, moment.loop, .head id⟩ id node edge fresh found flat
        (unstopped id List.mem_cons_self node found) way known
      rw [Moment.asSequence_of_head place]
      exact runs_of_sequenceHead rfl rfl head

variable {path : List String} {id : String}

/-- Whatever a lane has come to, a sequence from the same id comes to as well. -/
theorem runs_asSequence
    (unstopped : ∀ entered node, LaneEnters settings graph fork join path id entered →
      graph.nodeAt? entered = some node → ¬ (node.role = .finish ∨ node.role = .join))
    (reached : Runs settings (.ofGraph graph) (called (.lane fork join) path id)
      (.running moment)) :
    Runs settings (.ofGraph graph) (called .sequence path id)
      (.running (moment.asSequence join)) := by
  generalize ended : Status.running moment = status at reached
  induction reached generalizing moment with
  | refl =>
      cases ended
      exact .refl
  | tail before last ih =>
      cases last with
      | step middle =>
          have inLane := ((inLane_called path id).run before).1
          have reached := before.tail (.step middle)
          rw [← ended] at reached
          have follows := (inLane.laneStep ended.symm).asSequence fun entered here node =>
            unstopped entered node ⟨moment, reached, here⟩
          exact (ih rfl).trans follows

/-- A sequence that comes to a join is over, and has nothing to add. -/
theorem runs_joined {pending : List Call} {loop : Loop} {joinNode : Node}
    (fresh : join ∉ path) (found : graph.nodeAt? join = some joinNode)
    (isJoin : joinNode.role = .join) :
    Runs settings (.ofGraph graph) (.running ⟨path, pending, .sequence, loop, .head join⟩)
      (.running ⟨join :: path, pending, .sequence, ⟨join :: loop.entered, loop.actions⟩,
        .finished⟩) := by
  have silent : ownActions settings joinNode = [] := by rw [ownActions, isJoin]
  refine runs_of_sequenceHead rfl rfl ?_
  rw [sequenceHead_of_found fresh found, isJoin, silent, Moment.entering, List.append_nil]
  rfl

end Simulation

/-- Where a lane succeeds and enters neither an end nor a join, a sequence succeeds with the same
actions: it enters what the lane enters, and at last the join, where it is over. -/
theorem sequence_of_lane {path : List String} {id : String} {joinNode : Node}
    {actions : List Action} (found : graph.nodeAt? join = some joinNode)
    (isJoin : joinNode.role = .join) (fresh : join ∉ path)
    (succeeded : lane settings (.ofGraph graph) fork join path id = .ok actions)
    (unstopped : ∀ entered node, LaneEnters settings graph fork join path id entered →
      graph.nodeAt? entered = some node → ¬ (node.role = .finish ∨ node.role = .join)) :
    sequence settings (.ofGraph graph) path id = .ok actions ∧
      ∃ entered, (∀ other, LaneEnters settings graph fork join path id other ↔ other ∈ entered) ∧
        Runs settings (.ofGraph graph) (called .sequence path id)
          (.running ⟨join :: entered ++ path, [], .sequence, ⟨join :: entered, actions⟩,
            .finished⟩) := by
  have finishes := @finishes_lane settings graph path [] {} id fork join
  rw [succeeded] at finishes
  obtain ⟨entered, unseen, ends⟩ := finishes
  rw [List.append_nil] at ends
  have enters := laneEnters_iff rfl ends
  have apart : join ∉ entered := fun here =>
    unstopped join joinNode ((enters join).mpr here) found (.inr isJoin)
  have joined : Runs settings (.ofGraph graph) (called .sequence path id)
      (.running ⟨join :: entered ++ path, [], .sequence, ⟨join :: entered, actions⟩, .finished⟩) :=
    (runs_asSequence unstopped ends).trans
      (runs_joined (List.not_mem_append apart fresh) found isJoin)
  refine ⟨?_, entered, enters, joined⟩
  have returned : Runs settings (.ofGraph graph) (called .sequence path id)
      (.returned path actions) := by
    refine @Runs.leaves settings (.ofGraph graph) _ (join :: entered) path [] .sequence actions ?_ ?_
    · exact List.forall_mem_cons.mpr ⟨fresh, unseen⟩
    · rw [List.append_nil]
      exact joined
  exact (runs_returned_iff.mp returned).2

/-- The lane of the fork passes two nodes, with a wait under a guard between them. The join has a
name, but leaves no mark. -/
def relayScene : Graph where
  nodes := [
    { id := "s", type := "start" },
    { id := "p", type := "parallel_start", params := [("joinId", .str "j")] },
    { id := "a", type := "walk", name := some " Ann " },
    { id := "b", type := "talk" },
    { id := "j", type := "parallel_join", name := some "Meet" },
    { id := "z", type := "end" }]
  edges := [
    { id := "e1", source := "s", target := "p" },
    { id := "e2", source := "p", target := "a", sourceHandle := some "out_b0" },
    { id := "e3", source := "a", target := "b", waitSeconds := some (.int 2),
      conditionEnabled := true, conditionVar := "global.tide" },
    { id := "e4", source := "b", target := "j", waitSeconds := some (.int 1) },
    { id := "e5", source := "j", target := "z" }]

def relayActions : List Action :=
  [.mark "Ann", .record [("type", .str "walk")],
    .guarded { global := "tide", equals := "", ifFalse := "skip" } [.wait (.int 2)],
    .record [("type", .str "talk")], .wait (.int 1)]

theorem sequence_of_lane_relayScene :
    relayScene.nodeAt? "j" = some { id := "j", type := "parallel_join", name := some "Meet" } ∧
      "j" ∉ ["p", "s"] ∧
      lane {} (.ofGraph relayScene) "p" "j" ["p", "s"] "a" = .ok relayActions ∧
      (∀ entered node, LaneEnters {} relayScene "p" "j" ["p", "s"] "a" entered →
        relayScene.nodeAt? entered = some node → ¬ (node.role = .finish ∨ node.role = .join)) ∧
      sequence {} (.ofGraph relayScene) ["p", "s"] "a" = .ok relayActions := by
  have join : relayScene.nodeAt? "j" =
      some { id := "j", type := "parallel_join", name := some "Meet" } := by
    with_unfolding_all rfl
  have succeeded : lane {} (.ofGraph relayScene) "p" "j" ["p", "s"] "a" = .ok relayActions := by
    with_unfolding_all rfl
  have ends : Runs {} (.ofGraph relayScene) (called (.lane "p" "j") ["p", "s"] "a")
      (.running ⟨["b", "a", "p", "s"], [], .lane "p" "j", ⟨["b", "a"], relayActions⟩,
        .finished⟩) := by
    with_unfolding_all exact .of_step (.of_step (.of_step .refl))
  have unstopped : ∀ entered node, LaneEnters {} relayScene "p" "j" ["p", "s"] "a" entered →
      relayScene.nodeAt? entered = some node → ¬ (node.role = .finish ∨ node.role = .join) := by
    intro entered node enters found
    have listed : entered ∈ ["b", "a"] := (laneEnters_iff rfl ends entered).mp enters
    have steps : ∀ id ∈ ["b", "a"], (relayScene.nodeAt? id).map Node.role = some .step := by decide
    have step := steps entered listed
    rw [found] at step
    simp [Option.some.inj step]
  have fresh : "j" ∉ ["p", "s"] := by decide
  exact ⟨join, fresh, succeeded, unstopped,
    (sequence_of_lane join rfl fresh succeeded unstopped).1⟩

end SceneScript.Compile
