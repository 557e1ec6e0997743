import Mathlib.Logic.Relation
import SceneScript.Proofs.Nesting
import SceneScript.Proofs.Totality

/-!
What a compilation visits, and what it makes of it. Main statements, for a graph that compiles:
every configuration that the start can come to is sound, and their nodes are the ones that the walk
enters; every part of the action list is given by one of these configurations; and what the nodes of
these configurations give is in the action list.
-/

namespace SceneScript.Compile

open Relation

variable (settings : Settings) (graph : Graph)

/-- The walk from the only start can come to the configuration. -/
def Visited (config : Config) : Prop :=
  ∃ start, graph.withRole .start = [start] ∧
    ReflTransGen (Next graph) (.plain start.id) config

/-- The walk enters the node of an id: if the id counts as entered from the first, it stops there. -/
def Enters (id : String) : Prop :=
  ∃ start inLane, graph.withRole .start = [start] ∧
    sequence settings (.ofGraph graph) [id] start.id = .error (.cycle id inLane)

/-- The actions that a configuration puts into an action list: those of its node, the record of a
branch or of a fork, and the wait and the guard of an edge that is followed from it. -/
inductive Gives : Config → Action → Prop where
  | own {config : Config} {node : Node} {action : Action}
      (found : graph.nodeAt? config.node = some node) (given : action ∈ ownActions settings node) :
      Gives config action
  | branch {id : String} {node : Node} {whenTrue whenFalse : List Action}
      (found : graph.nodeAt? id = some node) (role : node.role = .branch) :
      Gives (.plain id) (.branch (node.textParam "condition") whenTrue whenFalse)
  | fork {id : String} {node : Node} {lanes : List (List Action)}
      (found : graph.nodeAt? id = some node) (role : node.role = .fork) :
      Gives (.plain id) (.parallel lanes)
  | wait {config : Config} {edge : Edge} {seconds : Number} (follows : Follows graph config edge)
      (waits : edge.wait? = some seconds) : Gives config (.wait seconds)
  | guard {config : Config} {edge : Edge} {guard : Guard} {inner : List Action}
      (follows : Follows graph config edge)
      (guards : Guard.ofEdge? settings.globalVarPrefix edge = some guard) :
      Gives config (.guarded guard inner)

/-- Some configuration that can be come to gives the action. -/
def GivenFrom (config : Config) (action : Action) : Prop :=
  ∃ after, ReflTransGen (Next graph) config after ∧ Gives settings graph after action

/-- What the node of an id gives by itself is in an action list, and so is the record of a branch. -/
def Shown (id : String) (actions : List Action) : Prop :=
  ∀ node, graph.nodeAt? id = some node →
    (∀ action ∈ ownActions settings node, action ∈ Action.listParts actions) ∧
      (node.role = .branch → ∃ whenTrue whenFalse,
        .branch (node.textParam "condition") whenTrue whenFalse ∈ Action.listParts actions)

variable {settings graph} {path : List String} {id : String} {actions : List Action}
  {action : Action} {config after : Config}

theorem Visited.step (visited : Visited graph config) (step : Next graph config after) :
    Visited graph after := by
  obtain ⟨start, only, reached⟩ := visited
  exact ⟨start, only, reached.tail step⟩

section Origins

theorem GivenFrom.step (step : Next graph config after)
    (given : GivenFrom settings graph after action) : GivenFrom settings graph config action := by
  obtain ⟨last, reached, gives⟩ := given
  exact ⟨last, .head step reached, gives⟩

theorem GivenFrom.here (gives : Gives settings graph config action) :
    GivenFrom settings graph config action :=
  ⟨config, .refl, gives⟩

theorem gives_of_waitActions {edge : Edge} (follows : Follows graph config edge)
    (inside : action ∈ Action.listParts (waitActions settings edge)) :
    Gives settings graph config action := by
  obtain ⟨seconds, waits, rfl | ⟨guard, guards, rfl⟩⟩ := mem_listParts_waitActions inside
  · exact .wait follows waits
  · exact .guard follows guards

theorem gives_of_ownActions {node : Node} (found : graph.nodeAt? config.node = some node)
    (inside : action ∈ Action.listParts (ownActions settings node)) :
    Gives settings graph config action := by
  rw [listParts_ownActions] at inside
  exact .own found inside

/-- What comes after an edge that is followed is given by the edge or from its target on. -/
theorem givenFrom_of_crossing {way : Option Edge} {rest : List Action}
    (follows : ∀ edge ∈ way, Follows graph config edge)
    (step : ∀ edge ∈ way, Next graph config (.plain edge.target))
    (beyond : ∀ edge ∈ way, action ∈ Action.listParts rest →
      GivenFrom settings graph (.plain edge.target) action)
    (inside : action ∈ Action.listParts (crossing settings way rest)) :
    GivenFrom settings graph config action := by
  cases way with
  | none => cases inside
  | some edge =>
      rw [crossing, Action.listParts_append, List.mem_append] at inside
      rcases inside with first | later
      · exact .here (gives_of_waitActions (follows edge rfl) first)
      · exact (beyond edge rfl later).step (step edge rfl)

theorem givenFrom_of_laneWalked {fork join : String} {forkNode : Node}
    (walked : LaneWalked settings graph join path id actions)
    (forks : graph.nodeAt? fork = some forkNode) (joins : forkNode.textParam "joinId" = join)
    (inside : action ∈ Action.listParts actions) :
    GivenFrom settings graph (.inLane fork id) action := by
  induction walked with
  | joined path => cases inside
  | @passes path id node edge rest apart fresh found flat way known walked ih =>
      have follows : Follows graph (.inLane fork id) edge := .inLane (way ▸ List.mem_cons_self)
      rw [Action.listParts_append, Action.listParts_append, List.mem_append,
        List.mem_append] at inside
      rcases inside with own | first | later
      · exact .here (gives_of_ownActions found own)
      · exact .here (gives_of_waitActions follows first)
      · -- At the join nothing is left of the lane.
        have farther : edge.target ≠ join := by
          intro same
          rw [same] at walked
          cases walked with
          | joined => cases later
          | passes apart => exact apart rfl
        exact (ih later).step (.inLane forks follows (joins ▸ farther))

theorem givenFrom_of_lanesWalked {join : String} {fork : Node}
    {contribution : String → List Action} {lane : List Action}
    (walked : LanesWalked settings graph join path fork contribution)
    (found : graph.nodeAt? fork.id = some fork) (role : fork.role = .fork)
    (joins : fork.textParam "joinId" = join)
    (listed : lane ∈ fork.laneIds.eraseDups.filterMap
      (laneElement settings graph fork.id contribution))
    (inside : action ∈ Action.listParts lane) :
    GivenFrom settings graph (.plain fork.id) action := by
  obtain ⟨laneId, declared, element⟩ := List.mem_filterMap.mp listed
  obtain ⟨edge, begins, element⟩ := Option.bind_eq_some_iff.mp element
  have isDeclared := List.mem_eraseDups.mp declared
  have follows : Follows graph (.plain fork.id) edge := .lane laneId found role isDeclared begins
  obtain ⟨-, rest, laneWalked, same⟩ := walked laneId isDeclared edge begins
  split at element
  · cases element
  · cases element
    rcases mem_listParts_guardLane inside with ⟨guard, guards, rfl⟩ | within
    · exact .here (.guard follows guards)
    · rw [same, Action.listParts_append, List.mem_append] at within
      rcases within with first | later
      · exact .here (gives_of_waitActions follows first)
      · have farther : edge.target ≠ join := by
          intro atOnce
          rw [atOnce] at laneWalked
          cases laneWalked with
          | joined => cases later
          | passes apart => exact apart rfl
        exact (givenFrom_of_laneWalked laneWalked found joins later).step
          (.intoLane found role follows (joins ▸ farther))

/-- Every part of what a sequence returns is given by a configuration that it can come to. -/
theorem givenFrom_of_walked (walked : Walked settings graph path id actions)
    (inside : action ∈ Action.listParts actions) :
    GivenFrom settings graph (.plain id) action := by
  induction walked with
  | @stops path id node fresh found role => exact .here (gives_of_ownActions found inside)
  | @passes path id node way rest fresh found role ways known _ ih =>
      have flat : node.role ≠ .fork := by rcases role with role | role <;> simp [role]
      have follows (edge : Edge) (taken : edge ∈ way) : Follows graph (.plain id) edge :=
        .pass found role (ways ▸ Option.mem_toList.mpr taken)
      rw [Action.listParts_append, List.mem_append] at inside
      rcases inside with own | later
      · exact .here (gives_of_ownActions found own)
      · exact givenFrom_of_crossing follows
          (fun edge taken => .pass found flat (follows edge taken)) (fun edge taken => ih edge taken)
          later
  | @splits path id node rests fresh found role fits known _ ih =>
      have flat : node.role ≠ .fork := by simp [role]
      have onSide (side : Bool) (within : action ∈ Action.listParts
          (crossing settings (graph.sideEdge id side) (rests side))) :
          GivenFrom settings graph (.plain id) action := by
        have follows (edge : Edge) (way : edge ∈ graph.sideEdge id side) :
            Follows graph (.plain id) edge := .side side found role way
        exact givenFrom_of_crossing follows (fun edge way => .pass found flat (follows edge way))
          (fun edge way => ih side edge way) within
      rw [Action.listParts_append, Action.listParts_singleton, Action.parts, List.mem_append,
        List.mem_cons, List.mem_append] at inside
      rcases inside with own | rfl | whenTrue | whenFalse
      · exact .here (gives_of_ownActions found own)
      · exact .here (.branch found role)
      · exact onSide true whenTrue
      · exact onSide false whenFalse
  | @forks path id node join way rest contribution fresh found role named joins isJoin lanes resumed
      ways known _ ih =>
      obtain rfl := Graph.id_of_nodeAt? found
      have same := Graph.id_of_nodeAt? joins
      have follows (edge : Edge) (taken : edge ∈ way) : Follows graph (.resumed join.id) edge :=
        .resumed (ways ▸ Option.mem_toList.mpr taken)
      rw [Action.listParts_append, Action.listParts, Action.parts, List.mem_append, List.mem_append,
        List.mem_cons] at inside
      rcases inside with own | (rfl | inLane) | later
      · exact .here (gives_of_ownActions found own)
      · exact .here (.fork found role)
      · obtain ⟨lane, listed, within⟩ := Action.mem_lanesParts_iff.mp inLane
        exact givenFrom_of_lanesWalked lanes found role same.symm listed within
      · have beyond : GivenFrom settings graph (.resumed join.id) action :=
          givenFrom_of_crossing follows (fun edge taken => .resume (follows edge taken))
            (fun edge taken => ih edge taken) later
        exact beyond.step (same ▸ .join found role)

end Origins

section Showing

theorem Shown.of_subset {first second : List Action} (shown : Shown settings graph id first)
    (kept : ∀ action ∈ Action.listParts first, action ∈ Action.listParts second) :
    Shown settings graph id second := by
  intro node found
  obtain ⟨own, branches⟩ := shown node found
  refine ⟨fun action given => kept action (own action given), fun role => ?_⟩
  obtain ⟨whenTrue, whenFalse, inside⟩ := branches role
  exact ⟨whenTrue, whenFalse, kept _ inside⟩

/-- What comes first hides nothing of what comes after it. -/
theorem Shown.append {first second : List Action} (shown : Shown settings graph id second) :
    Shown settings graph id (first ++ second) := by
  apply shown.of_subset
  intro action inside
  rw [Action.listParts_append]
  exact List.mem_append_right _ inside

/-- A node that is no branch is shown where its own actions are. -/
theorem shown_of_own {node : Node} (found : graph.nodeAt? id = some node)
    (flat : node.role ≠ .branch)
    {rest : List Action} : Shown settings graph id (ownActions settings node ++ rest) := by
  intro other again
  cases found.symm.trans again
  constructor
  · intro action given
    exact Action.mem_listParts_of_mem (List.mem_append_left rest given)
  · intro role
    exact (flat role).elim

theorem shown_of_crossing {way : Option Edge} {edge : Edge} {rest : List Action} (taken : edge ∈ way)
    (shown : Shown settings graph id rest) :
    Shown settings graph id (crossing settings way rest) := by
  cases taken
  exact shown.append

theorem shown_of_laneWalked {fork join : String} {forkNode : Node}
    (walked : LaneWalked settings graph join path id actions)
    (forks : graph.nodeAt? fork = some forkNode) (joins : forkNode.textParam "joinId" = join)
    (apart : id ≠ join) (reached : ReflTransGen (Next graph) (.inLane fork id) config) :
    Shown settings graph config.node actions := by
  induction walked with
  | joined path => exact (apart rfl).elim
  | @passes path id node edge rest _ fresh found flat way known _ ih =>
      rcases reached.cases_head with rfl | ⟨after, step, beyond⟩
      · exact shown_of_own found fun role => flat (Or.inl role)
      · cases step with
        | inLane again follows farther =>
            cases forks.symm.trans again
            have taken : _ ∈ some edge := follows_mem_way follows way
            cases taken
            exact (ih (joins ▸ farther) beyond).append.append

/-- What is in the contribution of a lane is in the record of its fork. -/
theorem shown_of_lane {fork : Node} {contribution : String → List Action} {lane : String}
    {edge : Edge} (declared : lane ∈ fork.laneIds)
    (begins : graph.laneEdge fork.id lane = some edge)
    (shown : Shown settings graph id (contribution lane)) :
    Shown settings graph id [.parallel (fork.laneIds.eraseDups.filterMap
      (laneElement settings graph fork.id contribution))] := by
  apply shown.of_subset
  intro action inside
  have given : (contribution lane).isEmpty ≠ true := by
    intro none
    rw [List.isEmpty_iff.mp none] at inside
    cases inside
  have element : laneElement settings graph fork.id contribution lane =
      some (guardLane settings edge (contribution lane)) := by
    rw [laneElement_of_some begins, if_neg given]
  have listed := List.mem_filterMap.mpr ⟨lane, List.mem_eraseDups.mpr declared, element⟩
  rw [Action.listParts_singleton, Action.parts]
  exact List.mem_cons_of_mem _
    (Action.mem_lanesParts_iff.mpr ⟨_, listed, mem_guardLane_of_mem inside⟩)

/-- What a sequence can come to is shown in what it returns. -/
theorem shown_of_walked (walked : Walked settings graph path id actions)
    (reached : ReflTransGen (Next graph) (.plain id) config) :
    Shown settings graph config.node actions := by
  -- What is come to is the node itself, or it lies beyond one of the ways that the rule has walked.
  induction walked with
  | @stops path id node fresh found role =>
      have flat : node.role ≠ .branch := by rcases role with role | role <;> simp [role]
      rcases reached.cases_head with rfl | ⟨after, step, -⟩
      · rw [← List.append_nil (ownActions settings node)]
        exact shown_of_own found flat
      · rcases next_plain found step with ⟨-, edge, follows, -⟩ | ⟨forks, -⟩
        · rw [follows_plain_iff found] at follows
          rcases role with role | role <;> simp [role] at follows
        · rcases role with role | role <;> simp [role] at forks
  | @passes path id node way rest fresh found role ways known _ ih =>
      have flat : node.role ≠ .branch := by rcases role with role | role <;> simp [role]
      rcases reached.cases_head with rfl | ⟨after, step, beyond⟩
      · exact shown_of_own found flat
      · rcases next_plain found step with ⟨-, edge, follows, rfl⟩ | ⟨forks, -⟩
        · have taken := follows_mem_way follows ways
          exact (shown_of_crossing taken (ih edge taken beyond)).append
        · rcases role with role | role <;> simp [role] at forks
  | @splits path id node rests fresh found role fits known _ ih =>
      rcases reached.cases_head with rfl | ⟨after, step, beyond⟩
      · intro other again
        cases found.symm.trans again
        constructor
        · intro action given
          rw [Action.listParts_append]
          exact List.mem_append_left _ (Action.mem_listParts_of_mem given)
        · intro _
          exact ⟨_, _, Action.mem_listParts_of_mem (List.mem_append_right _ (List.mem_singleton_self _))⟩
      · rcases next_plain found step with ⟨-, edge, follows, rfl⟩ | ⟨forks, -⟩
        · rw [follows_plain_iff found] at follows
          obtain ⟨side, way⟩ : ∃ side, graph.sideEdge id side = some edge := by
            simpa [role] using follows
          apply (shown_of_crossing way (ih side edge way beyond)).of_subset
          intro action inside
          cases side <;> simp [Action.parts, inside]
        · simp [role] at forks
  | @forks path id node join way rest contribution fresh found role named joins isJoin lanes resumed
      ways known _ ih =>
      obtain rfl := Graph.id_of_nodeAt? found
      have joinSame := Graph.id_of_nodeAt? joins
      have inRecord {sought : String} (shown : Shown settings graph sought
          [.parallel (node.laneIds.eraseDups.filterMap
            (laneElement settings graph node.id contribution))]) :
          Shown settings graph sought (ownActions settings node ++
            .parallel (node.laneIds.eraseDups.filterMap
              (laneElement settings graph node.id contribution)) ::
                crossing settings way rest) := by
        apply shown.of_subset
        intro action inside
        rw [Action.listParts_singleton] at inside
        simp [Action.listParts, inside]
      rcases reached.cases_head with rfl | ⟨after, step, beyond⟩
      · exact shown_of_own found (by simp [role])
      · rcases next_plain found step with ⟨flat, -⟩ | ⟨-, rfl | ⟨edge, follows, apart, rfl⟩⟩
        · exact (flat role).elim
        · rcases beyond.cases_head with rfl | ⟨after, step, beyond⟩
          · -- A join gives nothing by itself.
            intro other again
            cases joins.symm.trans again
            simp [ownActions, isJoin]
          · cases step with
            | resume follows =>
                have taken := follows_mem_way follows (joinSame ▸ ways)
                apply (shown_of_crossing taken (ih _ taken beyond)).of_subset
                intro action inside
                simp [Action.listParts, inside]
        · rw [follows_plain_iff found] at follows
          obtain ⟨lane, declared, begins⟩ : ∃ lane ∈ node.laneIds,
              graph.laneEdge node.id lane = some edge := by
            simpa [role] using follows
          obtain ⟨-, rest, laneWalked, same⟩ := lanes lane declared edge begins
          have shown := shown_of_laneWalked laneWalked found joinSame.symm (joinSame ▸ apart) beyond
          apply inRecord
          apply shown_of_lane declared begins
          rw [same]
          exact shown.append

end Showing

section Entering

theorem Clear.along (clear : Clear graph path config)
    (reached : ReflTransGen (Next graph) config after) :
    ∃ entered, Clear graph (entered ++ path) after := by
  induction reached with
  | refl => exact ⟨[], clear⟩
  | @tail before after _ step ih =>
      obtain ⟨entered, -, -, ahead⟩ := ih
      exact ⟨before.node :: entered, ahead after step⟩

/-- What counts as entered from the first does not keep a walk from what is clear otherwise. -/
theorem Clear.of_trail {held path' : List String} {last : Config} (clear : Clear graph path config)
    (trail : Trail graph (path ++ held) config path' last) :
    ∃ entered, path' = entered ++ held ∧ ReflTransGen (Next graph) config last ∧
      Clear graph entered last := by
  generalize entire : path ++ held = whole at trail
  induction trail generalizing path with
  | here => exact ⟨path, entire.symm, .refl, clear⟩
  | @next whole path' config after last _ step _ ih =>
      obtain ⟨-, -, ahead⟩ := clear
      obtain ⟨entered, rfl, reached, clear⟩ := ih (ahead after step) (entire ▸ rfl)
      exact ⟨entered, rfl, .head step reached, clear⟩

/-- A walk for which all is clear stops at nothing but what counts as entered from the first. -/
theorem held_of_error {held : String} {error : CompileError} (clear : Clear graph [] (.plain id))
    (failed : sequence settings (.ofGraph graph) [held] id = .error error) :
    ∃ last, ReflTransGen (Next graph) (.plain id) last ∧ last.node = held ∧
      error = .cycle held last.isInLane := by
  have known : graph.Has id := by
    obtain ⟨-, ⟨⟨node, found, -⟩, -⟩, -⟩ := clear
    exact Graph.has_of_nodeAt? found
  obtain ⟨path', last, trail, stuck⟩ := fails_of_sequence known failed
  obtain ⟨entered, rfl, reached, fresh, sound, -⟩ := clear.of_trail trail
  rcases stuck with ⟨old, rfl⟩ | ⟨-, fault⟩
  · rcases List.mem_append.mp old with again | isHeld
    · exact (fresh again).elim
    · rw [List.mem_singleton] at isHeld
      exact ⟨last, reached, isHeld, isHeld ▸ rfl⟩
  · exact (not_sound_of_fault fault sound).elim

end Entering

section Compiled

variable (compiled : compile settings graph = .ok actions)

include compiled

theorem clear_of_visited (visited : Visited graph config) : ∃ path, Clear graph path config := by
  obtain ⟨start, only, -, walked⟩ := compile_eq_ok_iff.mp compiled
  obtain ⟨other, again, reached⟩ := visited
  cases only.symm.trans again
  obtain ⟨entered, clear⟩ := (clear_of_walked walked).along reached
  exact ⟨_, clear⟩

/-- The nodes of the configurations that are visited are those that the walk enters. -/
theorem enters_iff_visited :
    Enters settings graph id ↔ ∃ config, Visited graph config ∧ config.node = id := by
  obtain ⟨start, only, -, walked⟩ := compile_eq_ok_iff.mp compiled
  have clear := clear_of_walked walked
  constructor
  · rintro ⟨other, inLane, again, stopped⟩
    cases only.symm.trans again
    obtain ⟨last, reached, named, -⟩ := held_of_error clear stopped
    exact ⟨last, ⟨start, only, reached⟩, named⟩
  · rintro ⟨config, ⟨other, again, reached⟩, rfl⟩
    cases only.symm.trans again
    refine ⟨start, ?_⟩
    cases ended : sequence settings (.ofGraph graph) [config.node] start.id with
    | error error =>
        obtain ⟨last, -, -, rfl⟩ := held_of_error clear ended
        exact ⟨_, only, rfl⟩
    | ok actions =>
        -- A walk that succeeds has not come to a node that counts as entered.
        obtain ⟨entered, fresh, -, -⟩ := (clear_of_walked (walked_of_sequence ended)).along reached
        exact (fresh (List.mem_append_right entered (List.mem_singleton_self _))).elim

theorem sound_of_visited (visited : Visited graph config) : Sound graph config := by
  obtain ⟨path, -, sound, -⟩ := clear_of_visited compiled visited
  exact sound

/-- Every part of the action list is given by a configuration that is visited. -/
theorem given_of_mem (inside : action ∈ Action.listParts actions) :
    ∃ config, Visited graph config ∧ Gives settings graph config action := by
  obtain ⟨start, only, -, walked⟩ := compile_eq_ok_iff.mp compiled
  obtain ⟨config, reached, gives⟩ := givenFrom_of_walked walked inside
  exact ⟨config, ⟨start, only, reached⟩, gives⟩

/-- What the node of a visited configuration gives is in the action list. -/
theorem shown_of_visited (visited : Visited graph config) :
    Shown settings graph config.node actions := by
  obtain ⟨start, only, -, walked⟩ := compile_eq_ok_iff.mp compiled
  obtain ⟨other, again, reached⟩ := visited
  cases only.symm.trans again
  exact shown_of_walked walked reached

end Compiled

end SceneScript.Compile
