import SceneScript.Proofs.CallStack

/-!
Why the walk ends, on every graph. A loop that goes on has put a node on the path that was not
there, and no two calls in progress have entered the same node, so that there are never more
sequences in progress than nodes. Main statement: from the start, and from every call, the steps of
the walk come to an end, and to the outcome of the walk.
-/

namespace SceneScript.Compile

open Relation

/-- What all calls in progress have entered, the last first. -/
def Moment.active (moment : Moment) : List String :=
  moment.loop.entered ++ moment.pending.flatMap fun call => call.loop.entered

/-- The sequences in progress: those that wait, and the innermost call if it is one. -/
def Moment.sequences (moment : Moment) : Nat :=
  match moment.walker with
  | .sequence => moment.pending.length + 1
  | .lane _ _ => moment.pending.length

/-- The branch or fork whose sides or lanes are walked. -/
def Place.opened : Place → Option Node
  | .trueSide node _ _ | .falseSide node _ _ | .lanes node _ _ _ => some node
  | .head _ | .finished => none

/-- The compilation of a graph as a run. -/
def begun (graph : Graph) : Status :=
  match graph.withRole .start with
  | [] => .failed .noStart
  | [start] =>
      if (graph.withRole .finish).isEmpty then .failed .noEnd else called .sequence [] start.id
  | starts => .failed (.severalStarts (starts.map Node.id))

section Steps

variable {settings : Settings} {graph : Graph} {moment after : Moment} {id : String} {node : Node}

/-- A later moment of the same loop, which has put these ids on the path since. -/
structure Moment.Extends (before after : Moment) (added : List String) : Prop where
  path : after.path = added ++ before.path
  entered : after.loop.entered = added ++ before.loop.entered
  pending : after.pending = before.pending
  walker : after.walker = before.walker

theorem Moment.Extends.trans {middle : Moment} {first second : List String}
    (one : moment.Extends middle first) (other : middle.Extends after second) :
    moment.Extends after (second ++ first) where
  path := by rw [other.path, one.path, List.append_assoc]
  entered := by rw [other.entered, one.entered, List.append_assoc]
  pending := other.pending.trans one.pending
  walker := other.walker.trans one.walker

/-- At the head of the loop again, or at its end. -/
def Place.Between (place : Place) : Prop := place = .finished ∨ ∃ next, place = .head next

/-- An attempt to enter a node: it fails, or the id was not on the path and is the id of a node,
and the loop goes on to a place of a certain kind. -/
inductive Entered (graph : Graph) (moment : Moment) (id : String) (leads : Node → Place → Prop) :
    Except CompileError Moment → Prop where
  | fails (error : CompileError) : Entered graph moment id leads (.error error)
  | enters {node : Node} {after : Moment} (fresh : id ∉ moment.path)
      (found : graph.nodeAt? id = some node) (extended : moment.Extends after [id])
      (place : leads node after.place) : Entered graph moment id leads (.ok after)

/-- Where a sequence goes from the node that it has entered. -/
inductive LeadsTo (graph : Graph) (node : Node) : Place → Prop where
  | between {place : Place} (role : node.role ≠ .fork) (between : place.Between) :
      LeadsTo graph node place
  | sides (role : node.role = .branch) (onTrue onFalse : Option Edge) :
      LeadsTo graph node (.trueSide node onTrue onFalse)
  | lanes {join : Node} (role : node.role = .fork)
      (joined : joinOf (.ofGraph graph) node = .ok join) (ids : List String) :
      LeadsTo graph node (.lanes node join [] ids)

theorem entered_turn {leads : Node → Place → Prop} {own : List Action} {edge : Edge}
    (fresh : id ∉ moment.path) (found : graph.nodeAt? id = some node)
    (ahead : ∀ next, leads node (.head next)) :
    Entered graph moment id leads
      (turn settings (.ofGraph graph) (moment.entering id own) edge) := by
  rw [turn]
  cases edgeActions settings (.ofGraph graph) edge with
  | error error => exact .fails error
  | ok first => exact .enters fresh found ⟨rfl, rfl, rfl, rfl⟩ (ahead edge.target)

theorem entered_transition {leads : Node → Place → Prop} {own : List Action} {source : Node}
    (fresh : id ∉ moment.path) (found : graph.nodeAt? id = some node)
    (between : ∀ place : Place, place.Between → leads node place) :
    Entered graph moment id leads
      (transition settings (.ofGraph graph) (moment.entering id own) source) := by
  rw [transition]
  rcases (Index.ofGraph graph).outEdges source.id with _ | ⟨edge, _ | ⟨second, rest⟩⟩
  · exact .enters fresh found ⟨rfl, rfl, rfl, rfl⟩ (between .finished (.inl rfl))
  · exact entered_turn fresh found fun next => between _ (.inr ⟨next, rfl⟩)
  · exact .fails _

theorem entered_sequenceHead :
    Entered graph moment id (LeadsTo graph)
      (sequenceHead settings (.ofGraph graph) moment id) := by
  cases entered : enter (.ofGraph graph) false moment.path id with
  | error error =>
      rw [sequenceHead, entered]
      exact .fails error
  | ok node =>
      obtain ⟨fresh, found⟩ := fresh_of_enter entered
      rw [sequenceHead_of_found fresh found]
      cases role : node.role with
      | finish | join =>
          exact .enters fresh found ⟨rfl, rfl, rfl, rfl⟩ (.between (by simp [role]) (.inl rfl))
      | start | step =>
          exact entered_transition fresh found fun place => .between (by simp [role])
      | branch =>
          cases branchSides (.ofGraph graph) node with
          | error error => exact .fails error
          | ok ways => exact .enters fresh found ⟨rfl, rfl, rfl, rfl⟩ (.sides role ways.1 ways.2)
      | fork =>
          cases joined : joinOf (.ofGraph graph) node with
          | error error => exact .fails error
          | ok join => exact .enters fresh found ⟨rfl, rfl, rfl, rfl⟩ (.lanes role joined _)

theorem entered_laneHead {fork join : String} (apart : id ≠ join) :
    Entered graph moment id (fun node place => node.role ≠ .fork ∧ ∃ next, place = .head next)
      (laneHead settings (.ofGraph graph) fork join moment id) := by
  cases entered : enter (.ofGraph graph) true moment.path id with
  | error error =>
      rw [laneHead, if_neg apart, entered]
      exact .fails error
  | ok node =>
      obtain ⟨fresh, found⟩ := fresh_of_enter entered
      rw [laneHead_of_found apart fresh found]
      by_cases bent : node.role = .branch ∨ node.role = .fork
      · rw [if_pos bent]
        exact .fails _
      · rw [if_neg bent]
        rcases graph.outEdges id with _ | ⟨edge, _ | ⟨second, rest⟩⟩
        · exact .fails _
        · have flat : node.role ≠ .fork := fun fork => bent (.inr fork)
          exact entered_turn fresh found fun next => ⟨flat, next, rfl⟩
        · exact .fails _

theorem entered_nextLane {fork join : Node} {groups : List (List Action)} :
    Entered graph moment join.id (fun _ place => place.Between)
      (nextLane settings (.ofGraph graph) moment fork join groups []) := by
  rw [nextLane]
  cases resumed : enter (.ofGraph graph) false moment.path join.id with
  | error error => exact .fails error
  | ok after =>
      obtain ⟨fresh, found⟩ := fresh_of_enter resumed
      exact entered_transition fresh found fun place between => between

/-- What a step does to the path and to the calls in progress: nothing, one id more in the innermost
loop, one call more, or one call less. -/
inductive Effect (graph : Graph) (moment after : Moment) : Prop where
  | stays (extended : moment.Extends after [])
      (opened : ∀ node ∈ after.place.opened, node ∈ moment.place.opened)
  | enters {id : String} {node : Node} (fresh : id ∉ moment.path)
      (found : graph.nodeAt? id = some node) (extended : moment.Extends after [id])
      (opened : ∀ other ∈ after.place.opened,
        other = node ∧ (node.role = .branch ∨ node.role = .fork))
  | calls {call : Call} (waits : call.node ∈ moment.place.opened) (loop : call.loop = moment.loop)
      (path : after.path = moment.path) (pending : after.pending = call :: moment.pending)
      (entered : after.loop.entered = []) (place : after.place.Between)
  | returns {call : Call} (pending : moment.pending = call :: after.pending)
      (path : after.path = leaving moment.path moment.loop.entered)
      (entered : after.loop.entered = call.loop.entered)
      (opened : ∀ node ∈ after.place.opened, node = call.node)

theorem Place.Between.not_mem {place : Place} (between : place.Between) (node : Node) :
    node ∉ place.opened := by
  rcases between with rfl | ⟨next, rfl⟩ <;> exact Option.not_mem_none node

theorem forall_opened_of_between {place : Place} {holds : Node → Prop} (between : place.Between) :
    ∀ node ∈ place.opened, holds node :=
  fun node here => (between.not_mem node here).elim

theorem LeadsTo.opened {place : Place} (leads : LeadsTo graph node place) {other : Node}
    (opened : other ∈ place.opened) :
    other = node ∧ (node.role = .branch ∨ node.role = .fork) := by
  cases leads with
  | between role between => exact (between.not_mem other opened).elim
  | sides role onTrue onFalse =>
      cases opened
      exact ⟨rfl, .inl role⟩
  | lanes role joined ids =>
      cases opened
      exact ⟨rfl, .inr role⟩

theorem effect_of_entered {leads : Node → Place → Prop} {result : Except CompileError Moment}
    (entered : Entered graph moment id leads result)
    (opened : ∀ node place other, leads node place → other ∈ place.opened →
      other = node ∧ (node.role = .branch ∨ node.role = .fork))
    (reached : Status.ofStep result = .running after) : Effect graph moment after := by
  cases entered with
  | fails error => cases reached
  | enters fresh found extended place =>
      cases reached
      exact .enters fresh found extended fun other => opened _ _ other place

theorem effect_of_calling {walker : Walker} {edge : Edge} {awaits : List Action → Awaits}
    (waits : node ∈ moment.place.opened)
    (reached : Status.ofStep (calling settings (.ofGraph graph) moment node walker edge awaits) =
      .running after) : Effect graph moment after := by
  rw [calling] at reached
  cases first : edgeActions settings (.ofGraph graph) edge with
  | error error =>
      rw [first] at reached
      cases reached
  | ok actions =>
      rw [first] at reached
      cases reached
      exact .calls waits rfl rfl rfl rfl (.inr ⟨_, rfl⟩)

theorem opened_resume {path : List String} {pending : List Call} {call : Call}
    {returned : List Action} :
    let after := resume settings path pending call returned
    after.path = path ∧ after.pending = pending ∧ after.loop.entered = call.loop.entered ∧
      ∀ node ∈ after.place.opened, node = call.node := by
  cases awaits : call.awaits with
  | whenTrue first onFalse =>
      simp only [resume, awaits]
      exact ⟨rfl, rfl, rfl, fun node opened => (Option.some.inj opened).symm⟩
  | whenFalse whenTrue first =>
      simp only [resume, awaits]
      exact ⟨rfl, rfl, rfl, forall_opened_of_between (.inl rfl)⟩
  | lane join groups edge first rest =>
      simp only [resume, awaits]
      exact ⟨rfl, rfl, rfl, fun node opened => (Option.some.inj opened).symm⟩

/-- A step of the walk has one of the four effects. -/
theorem effect_of_step (reached : step settings (.ofGraph graph) moment = .running after) :
    Effect graph moment after := by
  cases place : moment.place with
  | head id =>
      cases walker : moment.walker with
      | sequence =>
          simp only [step, place, walker] at reached
          exact effect_of_entered entered_sequenceHead (fun _ _ _ leads => leads.opened) reached
      | lane fork join =>
          simp only [step, place, walker] at reached
          by_cases apart : id = join
          · rw [laneHead, if_pos apart] at reached
            cases reached
            exact .stays ⟨rfl, rfl, rfl, rfl⟩ (forall_opened_of_between (.inl rfl))
          · refine effect_of_entered (entered_laneHead apart) ?_ reached
            rintro node place other ⟨-, next, rfl⟩ opened
            cases opened
  | trueSide node onTrue onFalse =>
      have opened : node ∈ moment.place.opened := place ▸ rfl
      cases onTrue <;> simp only [step, place] at reached
      case none =>
        cases reached
        exact .stays ⟨rfl, rfl, rfl, rfl⟩ fun other here => place ▸ here
      case some edge => exact effect_of_calling opened reached
  | falseSide node whenTrue onFalse =>
      have opened : node ∈ moment.place.opened := place ▸ rfl
      cases onFalse <;> simp only [step, place] at reached
      case none =>
        cases reached
        exact .stays ⟨rfl, rfl, rfl, rfl⟩ (forall_opened_of_between (.inl rfl))
      case some edge => exact effect_of_calling opened reached
  | lanes fork join groups ids =>
      have opened : fork ∈ moment.place.opened := place ▸ rfl
      simp only [step, place] at reached
      cases ids with
      | nil =>
          exact effect_of_entered entered_nextLane
            (fun _ _ other between here => (between.not_mem other here).elim) reached
      | cons lane rest =>
          cases first : graph.laneEdge fork.id lane with
          | none =>
              rw [nextLane_of_none first] at reached
              cases reached
              exact .stays ⟨rfl, rfl, rfl, rfl⟩ fun other here => place ▸ here
          | some edge =>
              rw [nextLane_of_some first] at reached
              exact effect_of_calling opened reached
  | finished =>
      simp only [step, place, leave] at reached
      cases pending : moment.pending with
      | nil =>
          rw [pending] at reached
          cases reached
      | cons call pending' =>
          rw [pending] at reached
          cases reached
          obtain ⟨path, waiting, entered, opened⟩ := @opened_resume settings
            (leaving moment.path moment.loop.entered) pending' call moment.loop.actions
          exact .returns (waiting.symm ▸ pending) path entered opened

end Steps

section Soundness

variable {settings : Settings} {graph : Graph} {base : List String} {moment after : Moment}

/-- A branch or a fork that a loop has entered. -/
structure Opened (graph : Graph) (entered : List String) (node : Node) : Prop where
  entered : node.id ∈ entered
  found : graph.nodeAt? node.id = some node
  role : node.role = .branch ∨ node.role = .fork

/-- What holds at each moment of a run that began with some path. -/
structure Moment.Sound (graph : Graph) (base : List String) (moment : Moment) : Prop where
  path : moment.path = moment.active ++ base
  distinct : moment.active.Nodup
  apart : ∀ id ∈ moment.active, id ∉ base
  known : ∀ id ∈ moment.active, graph.Has id
  opened : ∀ node ∈ moment.place.opened, Opened graph moment.loop.entered node
  waiting : ∀ call ∈ moment.pending, Opened graph call.loop.entered call.node

theorem sound_called (walker : Walker) (path : List String) (id : String) :
    Moment.Sound graph path ⟨path, [], walker, {}, .head id⟩ where
  path := rfl
  distinct := .nil
  apart := List.forall_mem_nil _
  known := List.forall_mem_nil _
  opened := forall_opened_of_between (.inr ⟨id, rfl⟩)
  waiting := List.forall_mem_nil _

namespace Moment.Sound

/-- The fields about the path hold as long as the ids in progress, and what they follow, are the
same. -/
theorem of_active (sound : moment.Sound graph base) (path : after.path = moment.path)
    (active : after.active = moment.active)
    (opened : ∀ node ∈ after.place.opened, Opened graph after.loop.entered node)
    (waiting : ∀ call ∈ after.pending, Opened graph call.loop.entered call.node) :
    after.Sound graph base where
  path := by rw [path, active, sound.path]
  distinct := active ▸ sound.distinct
  apart := active ▸ sound.apart
  known := active ▸ sound.known
  opened := opened
  waiting := waiting

theorem stays (sound : moment.Sound graph base) (extended : moment.Extends after [])
    (opened : ∀ node ∈ after.place.opened, node ∈ moment.place.opened) :
    after.Sound graph base := by
  have entered : after.loop.entered = moment.loop.entered := extended.entered
  refine sound.of_active extended.path ?_ ?_ (extended.pending ▸ sound.waiting)
  · rw [Moment.active, entered, extended.pending]
    rfl
  · intro node here
    rw [entered]
    exact sound.opened node (opened node here)

theorem enters (sound : moment.Sound graph base) {id : String} {node : Node}
    (fresh : id ∉ moment.path) (found : graph.nodeAt? id = some node)
    (extended : moment.Extends after [id])
    (opened : ∀ other ∈ after.place.opened,
      other = node ∧ (node.role = .branch ∨ node.role = .fork)) : after.Sound graph base := by
  have active : after.active = id :: moment.active := by
    rw [Moment.active, extended.entered, extended.pending]
    rfl
  rw [sound.path, List.mem_append, not_or] at fresh
  refine ⟨?_, ?_, ?_, ?_, ?_, extended.pending ▸ sound.waiting⟩
  · rw [extended.path, active, sound.path]
    rfl
  · rw [active]
    exact List.nodup_cons.mpr ⟨fresh.1, sound.distinct⟩
  · rw [active]
    exact List.forall_mem_cons.mpr ⟨fresh.2, sound.apart⟩
  · rw [active]
    exact List.forall_mem_cons.mpr ⟨Graph.has_of_nodeAt? found, sound.known⟩
  · intro other here
    obtain ⟨rfl, role⟩ := opened other here
    have same := Graph.id_of_nodeAt? found
    refine ⟨?_, same.symm ▸ found, role⟩
    rw [extended.entered, same]
    exact List.mem_cons_self

theorem calls (sound : moment.Sound graph base) {call : Call}
    (waits : call.node ∈ moment.place.opened) (loop : call.loop = moment.loop)
    (path : after.path = moment.path) (pending : after.pending = call :: moment.pending)
    (entered : after.loop.entered = []) (place : after.place.Between) :
    after.Sound graph base := by
  refine sound.of_active path ?_ (forall_opened_of_between place) ?_
  · rw [Moment.active, entered, pending, List.flatMap_cons, loop]
    rfl
  · rw [pending]
    exact List.forall_mem_cons.mpr ⟨loop.symm ▸ sound.opened call.node waits, sound.waiting⟩

/-- What the innermost call has entered stands before all that the others have, so that to take it
off leaves theirs. -/
theorem returns (sound : moment.Sound graph base) {call : Call}
    (pending : moment.pending = call :: after.pending)
    (path : after.path = leaving moment.path moment.loop.entered)
    (entered : after.loop.entered = call.loop.entered)
    (opened : ∀ node ∈ after.place.opened, node = call.node) : after.Sound graph base := by
  have active : moment.active = moment.loop.entered ++ after.active := by
    rw [Moment.active, Moment.active, pending, List.flatMap_cons, entered]
  -- The path is the ids of the call that returns, then those of the others, then the base.
  have waiting := sound.waiting
  rw [pending, List.forall_mem_cons] at waiting
  obtain ⟨-, distinct, disjoint⟩ := List.nodup_append.mp (active ▸ sound.distinct)
  have apart := sound.apart
  have known := sound.known
  simp only [active, List.mem_append] at apart known
  refine ⟨?_, distinct, fun id here => apart id (.inr here), fun id here => known id (.inr here),
    ?_, waiting.2⟩
  · rw [path, sound.path, active, List.append_assoc, leaving_append]
    intro id own
    rw [List.mem_append, not_or]
    exact ⟨fun again => disjoint id own id again rfl, apart id (.inl own)⟩
  · intro node here
    rw [opened node here, entered]
    exact waiting.1

/-- One step. -/
theorem step (sound : moment.Sound graph base)
    (reached : Compile.step settings (.ofGraph graph) moment = .running after) :
    after.Sound graph base := by
  cases effect_of_step reached with
  | stays extended opened => exact sound.stays extended opened
  | enters fresh found extended opened => exact sound.enters fresh found extended opened
  | calls waits loop path pending entered place =>
      exact sound.calls waits loop path pending entered place
  | returns pending path entered opened => exact sound.returns pending path entered opened

/-- All steps. -/
theorem run (sound : moment.Sound graph base)
    (reached : Runs settings (.ofGraph graph) (.running moment) (.running after)) :
    after.Sound graph base := by
  generalize ended : Status.running after = status at reached
  induction reached generalizing after with
  | refl =>
      cases ended
      exact sound
  | tail _ last ih =>
      cases last with
      | step middle => exact (ih rfl).step ended.symm

/-- The nodes at which sequences wait are as many branches and forks. -/
theorem nodup_waiting (sound : moment.Sound graph base) :
    (moment.pending.map fun call => call.node.id).Nodup := by
  -- Each waits at a node of its own loop, and no two loops have entered the same.
  have distinct := (List.nodup_append.mp sound.distinct).2.1
  rw [List.Nodup, List.pairwise_map]
  refine (List.nodup_flatMap.mp distinct).2.imp_of_mem ?_
  intro one other here there disjoint same
  exact disjoint (sound.waiting one here).entered (same ▸ (sound.waiting other there).entered)

/-- Where a node is no branch and no fork, there are no more sequences than nodes. -/
theorem sequences_le (sound : moment.Sound graph base) {plain : Node}
    (found : graph.nodeAt? plain.id = some plain)
    (role : ¬ (plain.role = .branch ∨ plain.role = .fork)) :
    moment.sequences ≤ graph.nodes.length := by
  -- A sequence waits at a branch or at a fork, so none waits at the node that is neither.
  have apart : plain.id ∉ moment.pending.map fun call => call.node.id := by
    intro waits
    obtain ⟨call, member, same⟩ := List.mem_map.mp waits
    have opened := sound.waiting call member
    have again := opened.found
    rw [same, found] at again
    exact role (Option.some.inj again ▸ opened.role)
  have within : (plain.id :: moment.pending.map fun call => call.node.id) ⊆
      graph.nodes.map Node.id := by
    refine List.cons_subset.mpr ⟨List.mem_map_of_mem (Graph.mem_of_nodeAt? found).1, ?_⟩
    intro id member
    obtain ⟨call, waits, rfl⟩ := List.mem_map.mp member
    exact List.mem_map_of_mem (Graph.mem_of_nodeAt? (sound.waiting call waits).found).1
  have bound := (List.nodup_cons.mpr ⟨apart, sound.nodup_waiting⟩).length_le_of_subset within
  rw [List.length_cons, List.length_map, List.length_map] at bound
  unfold Moment.sequences
  split <;> omega

end Moment.Sound

end Soundness

section Iterations

variable {settings : Settings} {graph : Graph} {moment after : Moment} {id : String} {node : Node}

/-- What one turn of a loop, begun at an id, comes to: to an error, to the end of the loop, or to
its head again, with the id on the path, and after a fork with the id of its join. -/
inductive Iteration (graph : Graph) (moment : Moment) (id : String) : Status → Prop where
  | raises (error : CompileError) : Iteration graph moment id (.failed error)
  | ends {after : Moment} {added : List String} (extended : moment.Extends after added)
      (fresh : ∀ other ∈ added, other ∉ moment.path) (place : after.place = .finished) :
      Iteration graph moment id (.running after)
  | advances {after : Moment} {node : Node} {next : String} (fresh : id ∉ moment.path)
      (found : graph.nodeAt? id = some node) (role : node.role ≠ .fork)
      (extended : moment.Extends after [id]) (place : after.place = .head next) :
      Iteration graph moment id (.running after)
  | resumes {after : Moment} {node join : Node} {next : String} (fresh : id ∉ moment.path)
      (found : graph.nodeAt? id = some node) (role : node.role = .fork)
      (joins : graph.nodeAt? (node.textParam "joinId") = some join)
      (resumed : join.id ∉ id :: moment.path) (extended : moment.Extends after [join.id, id])
      (place : after.place = .head next) : Iteration graph moment id (.running after)

def ComesRound (settings : Settings) (graph : Graph) (moment : Moment) (id : String)
    (status : Status) : Prop :=
  ∃ reached, Iteration graph moment id reached ∧ Runs settings (.ofGraph graph) status reached

theorem comesRound_of_finishes {base : Moment} {added : List String} {status : Status}
    {outcome : Except CompileError (List Action)} (extended : moment.Extends base added)
    (fresh : ∀ other ∈ added, other ∉ moment.path)
    (finishes : Finishes settings (.ofGraph graph) status base outcome) :
    ComesRound settings graph moment id status := by
  cases outcome with
  | error error => exact ⟨_, .raises error, finishes⟩
  | ok rest =>
      obtain ⟨new, unseen, run⟩ := finishes
      have further : base.Extends ⟨new ++ base.path, base.pending, base.walker,
          ⟨new ++ base.loop.entered, base.loop.actions ++ rest⟩, .finished⟩ new := ⟨rfl, rfl, rfl, rfl⟩
      refine ⟨_, .ends (extended.trans further) ?_ rfl, run⟩
      intro other member
      rcases List.mem_append.mp member with here | there
      · rw [extended.path] at unseen
        exact fun old => unseen other here (List.mem_append_right added old)
      · exact fresh other there

theorem comesRound_of_gathers {status : Status} {gathered : List (List Action) → Moment}
    {groups : Except CompileError (List (List Action))}
    (gathers : Gathers settings (.ofGraph graph) status gathered groups)
    (further : ∀ more, ComesRound settings graph moment id (.running (gathered more))) :
    ComesRound settings graph moment id status := by
  cases groups with
  | error error => exact ⟨_, .raises error, gathers⟩
  | ok more =>
      obtain ⟨reached, iteration, run⟩ := further more
      exact ⟨reached, iteration, gathers.trans run⟩

/-- After the lanes of a fork its join is entered. -/
theorem comesRound_join {before : Moment} {join : Node} {groups : List (List Action)}
    (fresh : id ∉ moment.path) (found : graph.nodeAt? id = some node) (role : node.role = .fork)
    (joins : graph.nodeAt? (node.textParam "joinId") = some join)
    (extended : moment.Extends before [id]) (place : before.place = .lanes node join groups []) :
    ComesRound settings graph moment id (.running before) := by
  have onwards := @Steps.step settings (.ofGraph graph) before
  simp only [step, place] at onwards
  have entered := @entered_nextLane settings graph before node join groups
  generalize nextLane settings (.ofGraph graph) before node join groups [] = result
    at onwards entered
  cases entered with
  | fails error => exact ⟨_, .raises error, .single onwards⟩
  | @enters _ after unseen _ further between =>
      have both : moment.Extends after [join.id, id] := extended.trans further
      rw [extended.path] at unseen
      rcases between with ended | ⟨next, head⟩
      · refine ⟨_, .ends both ?_ ended, .single onwards⟩
        intro other member
        rcases List.mem_cons.mp member with rfl | here
        · exact fun old => unseen (List.mem_cons_of_mem id old)
        · exact List.mem_singleton.mp here ▸ fresh
      · exact ⟨_, .resumes fresh found role joins unseen both head, .single onwards⟩

/-- A fork that has been entered: its lanes are walked, and then its join is entered. -/
theorem comesRound_lanes {join : Node} {ids : List String} (sequence : moment.walker = .sequence)
    (fresh : id ∉ moment.path) (found : graph.nodeAt? id = some node) (role : node.role = .fork)
    (joined : joinOf (.ofGraph graph) node = .ok join) (extended : moment.Extends after [id])
    (place : after.place = .lanes node join [] ids) :
    ComesRound settings graph moment id (.running after) := by
  obtain ⟨path, pending, walker, loop, place⟩ := after
  obtain rfl : walker = .sequence := extended.walker.trans sequence
  subst place
  have gathers := @gathers_lanes settings graph path pending loop
    (lane settings (.ofGraph graph) node.id join.id path) node join [] ids
    fun next pending => finishes_lane
  refine comesRound_of_gathers gathers fun more => ?_
  exact comesRound_join fresh found role (joinOf_eq_ok_iff.mp joined).2.1
    ⟨extended.path, extended.entered, extended.pending, extended.walker⟩ rfl

theorem comesRound_sequence (sequence : moment.walker = .sequence) :
    ComesRound settings graph moment id
      (.ofStep (sequenceHead settings (.ofGraph graph) moment id)) := by
  have entered := @entered_sequenceHead settings graph moment id
  generalize sequenceHead settings (.ofGraph graph) moment id = result at entered
  cases entered with
  | fails error => exact ⟨_, .raises error, .refl⟩
  | @enters node after fresh found extended leads =>
      generalize place : after.place = reached at leads
      have unseen : ∀ other ∈ [id], other ∉ moment.path := by simpa using fresh
      cases leads with
      | between role between =>
          rcases between with rfl | ⟨next, rfl⟩
          · exact ⟨_, .ends extended unseen place, .refl⟩
          · exact ⟨_, .advances fresh found role extended place, .refl⟩
      | sides role onTrue onFalse =>
          obtain ⟨path, pending, walker, loop, here⟩ := after
          obtain rfl : walker = .sequence := extended.walker.trans sequence
          obtain rfl : here = .trueSide node onTrue onFalse := place
          exact comesRound_of_finishes extended unseen
            (finishes_trueSide node onTrue onFalse fun next pending => finishes_sequence)
      | lanes role joined ids =>
          exact comesRound_lanes sequence fresh found role joined extended place

theorem comesRound_lane {fork join : String} :
    ComesRound settings graph moment id
      (.ofStep (laneHead settings (.ofGraph graph) fork join moment id)) := by
  by_cases apart : id = join
  · rw [laneHead, if_pos apart]
    have extended : moment.Extends (moment.goingTo .finished) [] := ⟨rfl, rfl, rfl, rfl⟩
    exact ⟨_, .ends extended (List.forall_mem_nil _) rfl, .refl⟩
  · have entered := @entered_laneHead settings graph moment id fork join apart
    generalize laneHead settings (.ofGraph graph) fork join moment id = result at entered
    cases entered with
    | fails error => exact ⟨_, .raises error, .refl⟩
    | enters fresh found extended leads =>
        obtain ⟨flat, next, place⟩ := leads
        exact ⟨_, .advances fresh found flat extended place, .refl⟩

/-- From the head of any loop the walk comes round. -/
theorem iteration_of_head (settings : Settings) (graph : Graph) (moment : Moment) (id : String)
    (place : moment.place = .head id) :
    ∃ reached, Iteration graph moment id reached ∧
      TransGen (Steps settings (.ofGraph graph)) (.running moment) reached := by
  have comes : ComesRound settings graph moment id (step settings (.ofGraph graph) moment) := by
    rw [step, place]
    cases walker : moment.walker with
    | sequence => exact comesRound_sequence walker
    | lane fork join => exact comesRound_lane
  obtain ⟨reached, iteration, run⟩ := comes
  exact ⟨reached, iteration, .head' (.step moment) run⟩

end Iterations

theorem runs_begun (settings : Settings) (graph : Graph) :
    Runs settings (.ofGraph graph) (begun graph) (.ofOutcome [] (compile settings graph)) := by
  unfold begun compile
  rcases graph.withRole .start with _ | ⟨start, _ | ⟨second, rest⟩⟩
  · exact .refl
  · by_cases endless : (graph.withRole .finish).isEmpty
    · simp only [endless, if_true]
      exact .refl
    · simp only [endless]
      exact runs_called .sequence [] start.id
  · exact .refl

/-- A walk that has begun at all has begun at a start, which is no branch and no fork. -/
theorem sequences_le_of_begun {settings : Settings} {graph : Graph} {moment : Moment}
    (unique : graph.UniqueIds)
    (reached : Runs settings (.ofGraph graph) (begun graph) (.running moment)) :
    moment.sequences ≤ graph.nodes.length := by
  unfold begun at reached
  rcases starts : graph.withRole .start with _ | ⟨start, _ | ⟨second, rest⟩⟩ <;>
    rw [starts] at reached
  · cases Runs.eq_of_halted reached trivial
  · by_cases endless : (graph.withRole .finish).isEmpty
    · simp only [endless, if_true] at reached
      cases Runs.eq_of_halted reached trivial
    · simp only [endless] at reached
      have listed : start ∈ graph.withRole .start := starts ▸ List.mem_singleton_self start
      obtain ⟨member, role⟩ := List.mem_filter.mp listed
      have role : start.role = .start := by simpa using role
      exact ((sound_called .sequence [] start.id).run reached).sequences_le
        ((Graph.nodeAt?_eq_some_iff unique).mpr ⟨member, rfl⟩) (by simp [role])
  · cases Runs.eq_of_halted reached trivial

/-- A run comes to this end, and there is no way for it to go on for ever. -/
structure Ends (settings : Settings) (graph : Graph) (began ended : Status) : Prop where
  runs : Runs settings (.ofGraph graph) began ended
  halted : ended.Halted
  acc : Acc (fun later earlier => Steps settings (.ofGraph graph) earlier later) began

theorem ends_of_runs {settings : Settings} {graph : Graph} {began : Status} {path : List String}
    {outcome : Except CompileError (List Action)}
    (runs : Runs settings (.ofGraph graph) began (.ofOutcome path outcome)) :
    Ends settings graph began (.ofOutcome path outcome) :=
  ⟨runs, halted_ofOutcome path outcome, Runs.acc runs (halted_ofOutcome path outcome)⟩

/-- On every graph the walk ends, from the start as from every call, and comes to its outcome. Each
turn of a loop ends the loop, fails, or adds to the path; the ids that all calls in progress have
entered are distinct, and there are never more sequences in progress than nodes. -/
theorem walk_ends (settings : Settings) {graph : Graph} (unique : graph.UniqueIds) :
    Ends settings graph (begun graph) (.ofOutcome [] (compile settings graph)) ∧
    (∀ walker path id, Ends settings graph (called walker path id)
      (.ofOutcome path (walk settings (.ofGraph graph) walker path id))) ∧
    (∀ moment id, moment.place = .head id → ∃ reached, Iteration graph moment id reached ∧
      TransGen (Steps settings (.ofGraph graph)) (.running moment) reached) ∧
    (∀ walker path id moment,
      Runs settings (.ofGraph graph) (called walker path id) (.running moment) →
        moment.path = moment.active ++ path ∧ moment.active.Nodup ∧
          ∀ entered ∈ moment.active, entered ∉ path ∧ graph.Has entered) ∧
    ∀ moment, Runs settings (.ofGraph graph) (begun graph) (.running moment) →
      moment.sequences ≤ graph.nodes.length := by
  refine ⟨ends_of_runs (runs_begun settings graph),
    fun walker path id => ends_of_runs (runs_called walker path id),
    iteration_of_head settings graph, ?_, fun moment => sequences_le_of_begun unique⟩
  intro walker path id moment reached
  have sound := (sound_called walker path id).run reached
  exact ⟨sound.path, sound.distinct, fun entered here =>
    ⟨sound.apart entered here, sound.known entered here⟩⟩

/-- The true side of each of the two branches leads to the other branch. -/
def spiralScene : Graph where
  nodes := [
    { id := "s", type := "start" },
    { id := "b", type := "branch" },
    { id := "c", type := "branch" },
    { id := "z", type := "end" }]
  edges := [
    { id := "e1", source := "s", target := "b" },
    { id := "e2", source := "b", target := "c", sourceHandle := some "out_true" },
    { id := "e3", source := "c", target := "b", sourceHandle := some "out_true" },
    { id := "e4", source := "c", target := "z", sourceHandle := some "out_false" }]

theorem walk_ends_spiralScene :
    spiralScene.UniqueIds ∧
      Ends {} spiralScene (begun spiralScene) (.failed (.cycle "b" false)) ∧
      ∀ moment, Runs {} (.ofGraph spiralScene) (begun spiralScene) (.running moment) →
        moment.active.Nodup ∧ moment.sequences ≤ 4 := by
  have unique : spiralScene.UniqueIds := ⟨by decide, by decide⟩
  have failed : compile {} spiralScene = .error (.cycle "b" false) := by with_unfolding_all rfl
  obtain ⟨ends, -, -, distinct, few⟩ := walk_ends {} unique
  rw [failed] at ends
  exact ⟨unique, ends, fun moment reached =>
    ⟨(distinct .sequence [] "s" moment reached).2.1, few moment reached⟩⟩

end SceneScript.Compile
