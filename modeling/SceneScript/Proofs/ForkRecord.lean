import Mathlib.Data.List.Forall2
import SceneScript.Proofs.Travel
import SceneScript.Proofs.Visits

/-!
The record of a fork. Main statement: wherever the walk enters a fork, the record that it leaves has
one element for each declared lane that has an edge and something to do, in the order in which the
lanes are declared; and what a lane has to do is read off the chain of single edges that leads from
its first edge to the join.
-/

namespace SceneScript

open Relation

namespace Guard

/-- The guard of an edge is enabled, and names a variable. -/
def IsSet (mark : String) (edge : Edge) : Prop :=
  edge.conditionEnabled = true ∧ bareName mark edge.conditionVar ≠ ""

theorem isSet_iff_exists {mark : String} {edge : Edge} :
    IsSet mark edge ↔ ∃ guard, ofEdge? mark edge = some guard := by
  simp only [IsSet, ofEdge?]
  constructor
  · rintro ⟨enabled, named⟩
    rw [if_neg (by simp [enabled, named])]
    split <;> exact ⟨_, rfl⟩
  · rintro ⟨guard, guards⟩
    split at guards
    · cases guards
    · rename_i fits
      simpa using fits

/-- A record is larger than what its guard holds back. -/
theorem ne_toJson_singleton (guard : Guard) (action : Json) : action ≠ guard.toJson [action] := by
  intro same
  have sizes := congrArg sizeOf same
  simp only [toJson, List.cons_append, List.nil_append, Json.obj.sizeOf_spec,
    List.cons.sizeOf_spec, Prod.mk.sizeOf_spec, Json.arr.sizeOf_spec] at sizes
  omega

end Guard

/-- An element of a parallel record, for a lane with its first edge and all that it has to do: one
guard around everything if the edge has a guard and no wait; else a single action is itself, and
several are a list. -/
structure LaneElement (mark : String) (entry : Edge) (records : List Action) (element : Json) :
    Prop where
  gated : (∃ guard : Guard, element = guard.toJson (Action.listJson records)) ↔
    Guard.IsSet mark entry ∧ entry.wait? = none
  guard : ∀ guard, Guard.ofEdge? mark entry = some guard → entry.wait? = none →
    element = guard.toJson (Action.listJson records)
  single : ∀ record, ¬ (Guard.IsSet mark entry ∧ entry.wait? = none) → records = [record] →
    element = record.toJson
  several : ¬ (Guard.IsSet mark entry ∧ entry.wait? = none) → 2 ≤ records.length →
    element = .arr (Action.listJson records)

namespace Action

/-- How a lane is written in the record of its fork. -/
def laneJson : List Action → Json
  | [action] => action.toJson
  | lane => .arr (listJson lane)

theorem lanesJson_eq_map (lanes : List (List Action)) : lanesJson lanes = lanes.map laneJson := by
  induction lanes with
  | nil => rfl
  | cons lane rest ih =>
      rcases lane with _ | ⟨action, _ | ⟨second, others⟩⟩ <;>
        rw [lanesJson, ih, List.map_cons, laneJson] <;> simp

end Action

namespace Compile

section Chains

variable (graph : Graph)

/-- The nodes that single edges lead through up to the join, each with its edge. -/
inductive StraightTo (join : String) : String → List (Node × Edge) → Prop where
  | joined : StraightTo join join []
  | passes {id : String} {node : Node} {edge : Edge} {rest : List (Node × Edge)}
      (apart : id ≠ join) (found : graph.nodeAt? id = some node)
      (way : graph.outEdges id = [edge]) (ahead : StraightTo join edge.target rest) :
      StraightTo join id ((node, edge) :: rest)

/-- A lane goes straight to the join, past nodes that are all different and not on the path. -/
structure LaneChain (join : String) (path : List String) (id : String)
    (chain : List (Node × Edge)) : Prop where
  straight : StraightTo graph join id chain
  distinct : (chain.map fun link => link.1.id).Nodup
  fresh : ∀ link ∈ chain, link.1.id ∉ path

/-- What the nodes of a chain give, each with the wait of its edge. -/
def chainActions (settings : Settings) (chain : List (Node × Edge)) : List Action :=
  chain.flatMap fun (node, edge) => emission settings node ++ waitActions settings edge

/-- What a lane has to do: the wait of its first edge, and what the nodes after it give. -/
def laneRecords (settings : Settings) (entry : Edge) (chain : List (Node × Edge)) : List Action :=
  waitActions settings entry ++ chainActions settings chain

/-- The lanes with an edge and something to do, as declared. -/
def busyLanes (settings : Settings) (fork : Node) (chains : String → List (Node × Edge)) :
    List (Edge × List Action) :=
  fork.laneIds.eraseDups.filterMap fun lane => do
    let entry ← graph.laneEdge fork.id lane
    if laneRecords settings entry (chains lane) = [] then none
    else some (entry, laneRecords settings entry (chains lane))

/-- What the walk makes of a fork that it enters after a path. -/
structure ForkRecord (settings : Settings) (path : List String) (fork join : Node)
    (chains : String → List (Node × Edge)) (lanes : List (List Action)) : Prop where
  joins : graph.nodeAt? (fork.textParam "joinId") = some join
  isJoin : join.role = .join
  straight : ∀ lane ∈ fork.laneIds, ∀ entry, graph.laneEdge fork.id lane = some entry →
    LaneChain graph join.id (fork.id :: path) entry.target (chains lane)
  returned : ∃ rest, sequence settings (.ofGraph graph) path fork.id =
    .ok (ownActions settings fork ++ .parallel lanes :: rest)
  written : ∃ elements, (Action.parallel lanes).toJson =
      .obj [("type", .str "parallel"), ("actions", .arr elements)] ∧
    List.Forall₂ (fun lane => LaneElement settings.globalVarPrefix lane.1 lane.2)
      (busyLanes graph settings fork chains) elements

/-- The walk from the only start enters a node after those of the path, latest first. -/
def EntersAlong (path : List String) (id : String) : Prop :=
  ∃ start, graph.withRole .start = [start] ∧ Trail graph [] (.plain start.id) path (.plain id)

end Chains

variable {settings : Settings} {graph : Graph} {path path' : List String} {id : String}
  {actions : List Action}

/-- A lane that has been walked is a chain up to the join. -/
theorem exists_chain_of_laneWalked {join : String}
    (walked : LaneWalked settings graph join path id actions) :
    ∃ chain, LaneChain graph join path id chain ∧ actions = chainActions settings chain := by
  induction walked with
  | joined path => exact ⟨[], ⟨.joined, List.nodup_nil, by simp⟩, rfl⟩
  | @passes path id node edge rest apart fresh found flat way known _ ih =>
      obtain ⟨chain, ⟨straight, distinct, others⟩, rfl⟩ := ih
      have same := Graph.id_of_nodeAt? found
      refine ⟨(node, edge) :: chain, ⟨.passes apart found way straight, ?_, ?_⟩, ?_⟩
      · -- The path of the rest of the lane holds this node, so none of the rest repeats it.
        refine List.nodup_cons.mpr ⟨fun again => ?_, distinct⟩
        obtain ⟨link, listed, repeats⟩ := List.mem_map.mp again
        exact others link listed (repeats ▸ same ▸ List.mem_cons_self)
      · intro link listed
        rcases List.mem_cons.mp listed with rfl | later
        · exact same ▸ fresh
        · exact fun old => others link later (List.mem_cons_of_mem id old)
      · rw [ownActions_eq_emission, ← List.append_assoc]
        rfl

section Record

variable {fork : Node} {chains : String → List (Node × Edge)} {contribution : String → List Action}

/-- The chains of all lanes at once. -/
theorem exists_chains_of_lanesWalked {join : String}
    (walked : LanesWalked settings graph join path fork contribution) :
    ∃ chains : String → List (Node × Edge),
      ∀ lane ∈ fork.laneIds, ∀ entry, graph.laneEdge fork.id lane = some entry →
        LaneChain graph join path entry.target (chains lane) ∧
          contribution lane = laneRecords settings entry (chains lane) := by
  have each : ∀ lane, ∃ chain, lane ∈ fork.laneIds → ∀ entry,
      graph.laneEdge fork.id lane = some entry →
        LaneChain graph join path entry.target chain ∧
          contribution lane = laneRecords settings entry chain := by
    intro lane
    by_cases begun : lane ∈ fork.laneIds ∧ ∃ entry, graph.laneEdge fork.id lane = some entry
    · obtain ⟨declared, entry, begins⟩ := begun
      obtain ⟨-, rest, laneWalked, same⟩ := walked lane declared entry begins
      obtain ⟨chain, isChain, rfl⟩ := exists_chain_of_laneWalked laneWalked
      refine ⟨chain, fun _ other again => ?_⟩
      cases begins.symm.trans again
      exact ⟨isChain, same⟩
    · exact ⟨[], fun declared entry begins => (begun ⟨declared, entry, begins⟩).elim⟩
  choose chains found using each
  exact ⟨chains, found⟩

/-- The lanes of a record are those that have something to do, each under the guard of its edge. -/
theorem filterMap_laneElement
    (given : ∀ lane ∈ fork.laneIds, ∀ entry, graph.laneEdge fork.id lane = some entry →
      contribution lane = laneRecords settings entry (chains lane)) :
    fork.laneIds.eraseDups.filterMap (laneElement settings graph fork.id contribution) =
      (busyLanes graph settings fork chains).map fun lane => guardLane settings lane.1 lane.2 := by
  rw [busyLanes, List.map_filterMap]
  apply List.filterMap_congr
  intro lane declared
  rw [laneElement]
  cases begins : graph.laneEdge fork.id lane with
  | none => rfl
  | some entry =>
      have same := given lane (List.mem_eraseDups.mp declared) entry begins
      by_cases idle : laneRecords settings entry (chains lane) = [] <;> simp [same, idle]

theorem ne_nil_of_mem_busyLanes {lane : Edge × List Action}
    (member : lane ∈ busyLanes graph settings fork chains) : lane.2 ≠ [] := by
  obtain ⟨id, -, kept⟩ := List.mem_filterMap.mp member
  obtain ⟨entry, -, kept⟩ := Option.bind_eq_some_iff.mp kept
  split at kept
  · cases kept
  · rename_i busy
    cases kept
    exact busy

theorem laneElement_guardLane {entry : Edge} {records : List Action} (busy : records ≠ []) :
    LaneElement settings.globalVarPrefix entry records
      (Action.laneJson (guardLane settings entry records)) := by
  by_cases gated : Guard.IsSet settings.globalVarPrefix entry ∧ entry.wait? = none
  · obtain ⟨guard, guards⟩ := Guard.isSet_iff_exists.mp gated.1
    have written : Action.laneJson (guardLane settings entry records) =
        guard.toJson (Action.listJson records) := by
      rw [guardLane, gated.2, Option.isNone_none, if_pos rfl, Action.underGuard, guards]
      rfl
    refine ⟨⟨fun _ => gated, fun _ => ⟨guard, written⟩⟩, ?_, ?_, ?_⟩
    · intro other again _
      cases guards.symm.trans again
      exact written
    · intro _ open_
      exact (open_ gated).elim
    · intro open_
      exact (open_ gated).elim
  · have bare : guardLane settings entry records = records := by
      rw [guardLane, Action.underGuard]
      split
      · rename_i instant
        split
        · rename_i guard guards
          exact (gated ⟨Guard.isSet_iff_exists.mpr ⟨guard, guards⟩,
            Option.isNone_iff_eq_none.mp instant⟩).elim
        · rfl
      · rfl
    rw [bare]
    refine ⟨⟨?_, fun held => (gated held).elim⟩, ?_, ?_, ?_⟩
    · rintro ⟨guard, around⟩
      rcases records with _ | ⟨record, _ | ⟨second, others⟩⟩
      · exact (busy rfl).elim
      · exact (guard.ne_toJson_singleton record.toJson around).elim
      · cases around
    · intro guard guards instant
      exact (gated ⟨Guard.isSet_iff_exists.mpr ⟨guard, guards⟩, instant⟩).elim
    · rintro record - rfl
      rfl
    · intro _ several
      rcases records with _ | ⟨record, _ | ⟨second, others⟩⟩
      · simp at several
      · simp at several
      · rfl

/-- The elements of a record, lane by lane. -/
theorem laneElements : List.Forall₂
    (fun lane => LaneElement settings.globalVarPrefix lane.1 lane.2)
    (busyLanes graph settings fork chains)
    (Action.lanesJson ((busyLanes graph settings fork chains).map fun lane =>
      guardLane settings lane.1 lane.2)) := by
  rw [Action.lanesJson_eq_map, List.map_map, List.forall₂_map_right_iff, List.forall₂_same]
  intro lane member
  exact laneElement_guardLane (ne_nil_of_mem_busyLanes member)

/-- A walk that succeeds at a fork leaves its record there. -/
theorem forkRecord_of_walked (walked : Walked settings graph path fork.id actions)
    (found : graph.nodeAt? fork.id = some fork) (role : fork.role = .fork) :
    ∃ join chains lanes rest, ForkRecord graph settings path fork join chains lanes ∧
      actions = ownActions settings fork ++ .parallel lanes :: rest := by
  have succeeded := sequence_of_walked walked
  cases walked with
  | stops _ again clash | passes _ again clash | splits _ again clash =>
      cases found.symm.trans again
      simp [role] at clash
  | forks _ again _ _ joins isJoin lanesWalked =>
      cases found.symm.trans again
      obtain ⟨chains, given⟩ := exists_chains_of_lanesWalked lanesWalked
      have listed := filterMap_laneElement fun lane declared entry begins =>
        (given lane declared entry begins).2
      rw [listed] at succeeded ⊢
      refine ⟨_, chains, _, _, ⟨joins, isJoin, ?_, ⟨_, succeeded⟩, ⟨_, rfl, laneElements⟩⟩, rfl⟩
      intro lane declared entry begins
      exact (given lane declared entry begins).1

end Record

section Arrival

/-- What a walk that succeeds has returned from a configuration. Of lanes nothing is asked. -/
def WalkedFrom (settings : Settings) (graph : Graph) (path : List String) :
    Config → List Action → Prop
  | .plain id, actions => Walked settings graph path id actions
  | .resumed join, actions => ∃ (way : Option Edge) (rest : List Action),
      graph.outEdges join = way.toList ∧
      (∀ edge ∈ way, Walked settings graph (join :: path) edge.target rest) ∧
      actions = crossing settings way rest
  | .inLane _ _, _ => True

theorem walkedFrom_of_crossing {way : Option Edge} {edge : Edge} {rest : List Action}
    (taken : edge ∈ way) (walked : ∀ edge ∈ way, Walked settings graph path edge.target rest)
    (inside : Action.listParts (crossing settings way rest) ⊆ Action.listParts actions) :
    ∃ beyond, WalkedFrom settings graph path (.plain edge.target) beyond ∧
      Action.listParts beyond ⊆ Action.listParts actions := by
  cases taken
  refine ⟨rest, walked edge rfl, fun action within => inside ?_⟩
  rw [crossing, Action.listParts_append]
  exact List.mem_append_right _ within

/-- What is returned from the next configuration is in what is returned from this one. -/
theorem WalkedFrom.next {config after : Config}
    (walked : WalkedFrom settings graph path config actions) (step : Next graph config after) :
    ∃ beyond, WalkedFrom settings graph (config.node :: path) after beyond ∧
      Action.listParts beyond ⊆ Action.listParts actions := by
  cases config with
  | inLane fork id =>
      cases step with
      | inLane => exact ⟨[], trivial, List.nil_subset _⟩
  | resumed join =>
      obtain ⟨way, rest, ways, walked, rfl⟩ := walked
      cases step with
      | resume follows =>
          exact walkedFrom_of_crossing (follows_mem_way follows ways) walked (List.Subset.refl _)
  | plain id =>
      cases walked with
      | stops fresh found role =>
          rcases next_plain found step with ⟨-, edge, follows, -⟩ | ⟨forks, -⟩
          · rw [follows_plain_iff found] at follows
            rcases role with role | role <;> simp [role] at follows
          · rcases role with role | role <;> simp [role] at forks
      | passes fresh found role ways known walked =>
          rcases next_plain found step with ⟨-, edge, follows, rfl⟩ | ⟨forks, -⟩
          · apply walkedFrom_of_crossing (follows_mem_way follows ways) walked
            simp
          · rcases role with role | role <;> simp [role] at forks
      | @splits _ _ node rests fresh found role fits known walked =>
          rcases next_plain found step with ⟨-, edge, follows, rfl⟩ | ⟨forks, -⟩
          · rw [follows_plain_iff found] at follows
            obtain ⟨side, way⟩ : ∃ side, graph.sideEdge id side = some edge := by
              simpa [role] using follows
            apply walkedFrom_of_crossing way (walked side)
            intro action inside
            cases side <;> simp [Action.parts, inside]
          · simp [role] at forks
      | @forks _ _ node join way rest contribution fresh found role named joins isJoin lanes resumed
          ways known walked =>
          rcases next_plain found step with ⟨flat, -⟩ | ⟨-, rfl | ⟨edge, follows, apart, rfl⟩⟩
          · exact (flat role).elim
          · refine ⟨crossing settings way rest, ?_, ?_⟩
            · rw [← Graph.id_of_nodeAt? joins]
              exact ⟨way, rest, ways, walked, rfl⟩
            · intro action inside
              simp [Action.listParts, inside]
          · exact ⟨[], trivial, List.nil_subset _⟩

/-- Wherever a walk that succeeds comes to, it has returned something, and that is in the whole. -/
theorem WalkedFrom.along {config last : Config}
    (walked : WalkedFrom settings graph path config actions)
    (trail : Trail graph path config path' last) :
    ∃ beyond, WalkedFrom settings graph path' last beyond ∧
      Action.listParts beyond ⊆ Action.listParts actions := by
  induction trail generalizing actions with
  | here => exact ⟨actions, walked, List.Subset.refl _⟩
  | next _ step _ ih =>
      obtain ⟨middle, walked, inside⟩ := walked.next step
      obtain ⟨beyond, walked, within⟩ := ih walked
      exact ⟨beyond, walked, List.Subset.trans within inside⟩

/-- Where all is clear, a way is a trail. -/
theorem Clear.exists_trail {config last : Config} (clear : Clear graph path config)
    (reached : ReflTransGen (Next graph) config last) :
    ∃ path', Trail graph path config path' last := by
  induction reached using ReflTransGen.head_induction_on generalizing path with
  | refl => exact ⟨path, .here⟩
  | head step _ ih =>
      obtain ⟨fresh, -, ahead⟩ := clear
      obtain ⟨path', trail⟩ := ih (ahead _ step)
      exact ⟨path', .next fresh step trail⟩

theorem reaches_of_trail {config last : Config} (trail : Trail graph path config path' last) :
    ReflTransGen (Next graph) config last := by
  induction trail with
  | here => exact .refl
  | next _ step _ ih => exact .head step ih

theorem joins_of_resumed {join : String} (compiled : compile settings graph = .ok actions)
    (visited : Visited graph (.resumed join)) :
    ∃ node, graph.nodeAt? join = some node ∧ node.role = .join := by
  obtain ⟨start, only, reached⟩ := visited
  rcases reached.cases_tail with same | ⟨before, reached, step⟩
  · cases same
  · have sound := sound_of_visited compiled ⟨start, only, reached⟩
    cases step with
    | join found role =>
        have fits := roleFits_of_plain found sound.fits
        simp only [RoleFits, role] at fits
        exact fits.2

/-- A fork is entered outside all lanes, and as no join. -/
theorem enters_fork_iff {fork : Node} (compiled : compile settings graph = .ok actions)
    (found : graph.nodeAt? fork.id = some fork) (role : fork.role = .fork) :
    Enters settings graph fork.id ↔ ∃ path, EntersAlong graph path fork.id := by
  obtain ⟨start, only, -, walked⟩ := compile_eq_ok_iff.mp compiled
  rw [enters_iff_visited compiled]
  constructor
  · rintro ⟨config, visited, same⟩
    have sound := sound_of_visited compiled visited
    obtain ⟨other, again, reached⟩ := visited
    cases only.symm.trans again
    cases config with
    | plain id =>
        obtain ⟨path, trail⟩ := (clear_of_walked walked).exists_trail reached
        cases same
        exact ⟨path, start, only, trail⟩
    | resumed join =>
        obtain rfl : join = fork.id := same
        obtain ⟨other, joins, isJoin⟩ := joins_of_resumed compiled ⟨start, only, reached⟩
        cases found.symm.trans joins
        rw [role] at isJoin
        cases isJoin
    | inLane first id =>
        obtain rfl : id = fork.id := same
        obtain ⟨⟨other, again, flat, -⟩, -⟩ := sound
        cases found.symm.trans again
        exact (flat (Or.inr role)).elim
  · rintro ⟨path, other, again, trail⟩
    exact ⟨.plain fork.id, ⟨other, again, reaches_of_trail trail⟩, rfl⟩

end Arrival

/-- Wherever the walk enters a fork, one record holds the lanes that have something to do, in the
order in which they are declared, and each is what the chain up to the join says. -/
theorem fork_recorded {fork : Node} (compiled : compile settings graph = .ok actions)
    (found : graph.nodeAt? fork.id = some fork) (role : fork.role = .fork) :
    (Enters settings graph fork.id ↔ ∃ path, EntersAlong graph path fork.id) ∧
      ∀ path, EntersAlong graph path fork.id → ∃ join chains lanes,
        ForkRecord graph settings path fork join chains lanes ∧
          .parallel lanes ∈ Action.listParts actions := by
  refine ⟨enters_fork_iff compiled found role, ?_⟩
  rintro path ⟨start, only, trail⟩
  obtain ⟨other, again, -, fromStart⟩ := compile_eq_ok_iff.mp compiled
  cases only.symm.trans again
  have whole : WalkedFrom settings graph [] (.plain start.id) actions := fromStart
  obtain ⟨beyond, walked, inside⟩ := whole.along trail
  obtain ⟨join, chains, lanes, rest, record, rfl⟩ := forkRecord_of_walked walked found role
  exact ⟨join, chains, lanes, record, inside (Action.mem_listParts_of_mem (by simp))⟩

def ferryFork : Node where
  id := "p"
  type := "parallel_start"
  params := [("branches", .arr [.str "l", .str "r", .str "l", .str "m", .str "n"]),
    ("joinId", .str "j")]

/-- One lane is held back as a whole, one waits under its guard and does nothing else, one has
nothing to do, and one has no edge. -/
def ferryScene : Graph where
  nodes := [
    { id := "s", type := "start" },
    ferryFork,
    { id := "a", type := "walk", name := some "Ann" },
    { id := "i", type := "parallel_join", name := some "Bo" },
    { id := "j", type := "parallel_join" },
    { id := "z", type := "end" }]
  edges := [
    { id := "e1", source := "s", target := "p" },
    { id := "e2", source := "p", target := "j", sourceHandle := some "out_r",
      waitSeconds := some (.int 2), conditionEnabled := true, conditionVar := "tide" },
    { id := "e3", source := "p", target := "a", sourceHandle := some "out_l",
      conditionEnabled := true, conditionVar := "tide" },
    { id := "e4", source := "a", target := "i", waitSeconds := some (.int 1) },
    { id := "e5", source := "i", target := "j" },
    { id := "e6", source := "p", target := "j", sourceHandle := some "out_m" },
    { id := "e7", source := "j", target := "z" }]

def ferryGuard : Guard where
  global := "tide"
  equals := ""
  ifFalse := "skip"

/-- The lanes with something to do: the mark and the record of a node with the wait after it, all
under the guard; and a wait under the guard. -/
def ferryLanes : List (List Action) :=
  [[.guarded ferryGuard [.mark "Ann", .record [("type", .str "walk")], .wait (.int 1)]],
    [.guarded ferryGuard [.wait (.int 2)]]]

theorem fork_recorded_ferryScene :
    ∃ actions join chains, compile {} ferryScene = .ok actions ∧
      ferryScene.nodeAt? "p" = some ferryFork ∧ ferryFork.role = .fork ∧
      EntersAlong ferryScene ["s"] "p" ∧
      ForkRecord ferryScene {} ["s"] ferryFork join chains ferryLanes ∧
      .parallel ferryLanes ∈ Action.listParts actions := by
  obtain ⟨actions, compiled⟩ : ∃ actions, compile {} ferryScene = .ok actions :=
    ⟨_, by with_unfolding_all rfl⟩
  have found : ferryScene.nodeAt? "p" = some ferryFork := by rfl
  have role : ferryFork.role = .fork := by rfl
  have start : ferryScene.nodeAt? "s" = some { id := "s", type := "start" } := by rfl
  have along : EntersAlong ferryScene ["s"] "p" := by
    refine ⟨{ id := "s", type := "start" }, rfl, .next (by decide) ?_ .here⟩
    have way : { id := "e1", source := "s", target := "p" } ∈ ferryScene.outEdges "s" :=
      List.mem_cons_self
    exact .pass start (by decide) (.pass start (Or.inl rfl) way)
  have walked : sequence {} (.ofGraph ferryScene) ["s"] "p" = .ok [.parallel ferryLanes] := by
    with_unfolding_all rfl
  obtain ⟨join, chains, lanes, record, inside⟩ := (fork_recorded compiled found role).2 ["s"] along
  obtain ⟨rest, returned⟩ := record.returned
  have same : Except.ok [Action.parallel ferryLanes] = .ok (.parallel lanes :: rest) :=
    walked.symm.trans returned
  cases same
  exact ⟨actions, join, chains, compiled, found, role, along, record, inside⟩

end Compile

end SceneScript
