import SceneScript.Proofs.Playback
import SceneScript.Proofs.Walked

/-!
The scene as its graph has it. From each node the travel goes on along one edge: the only one of a
node, the only one of a fork's join, or, at a branch, the edge of the side that the next choice
names. Nothing is nested but the lanes of a fork, and nothing is remembered of the way. Main
statement: what a travel gives is what playing the compiled actions comes to, for every choice.
-/

namespace SceneScript.Compile

variable (settings : Settings) (graph : Graph)

/-- What a node gives by itself: a mark, unless it is a join, and its record, if it is a step. -/
def emission (node : Node) : List Action :=
  (if settings.markNamedNodes = true ∧ node.displayName ≠ "" ∧ node.role ≠ .join then
    [.mark node.displayName]
  else []) ++
    if node.role = .step then [.ofNode node] else []

/-- A lane of single edges up to the join. -/
inductive LaneTravels (join : String) : String → List Action → Prop where
  | joined : LaneTravels join join []
  | passes {id : String} {node : Node} {edge : Edge} {rest : List Action} (apart : id ≠ join)
      (found : graph.nodeAt? id = some node)
      (flat : ¬ (node.role = .branch ∨ node.role = .fork)) (way : graph.outEdges id = [edge])
      (travelled : LaneTravels join edge.target rest) :
      LaneTravels join id (emission settings node ++ (waitActions settings edge ++ rest))

def LanesTravelled (join : String) (fork : Node) (contribution : String → List Action) : Prop :=
  ∀ lane ∈ fork.laneIds, ∀ edge, graph.laneEdge fork.id lane = some edge →
    ∃ rest, LaneTravels settings graph join edge.target rest ∧
      contribution lane = waitActions settings edge ++ rest

/-- What a node gives, the way on from it, and the choices that are left on that way. -/
inductive Visit (node : Node) (choices : Stream' Bool) :
    List Action → Option Edge → Stream' Bool → Prop where
  | stops (role : node.role = .finish ∨ node.role = .join) :
      Visit node choices (emission settings node) none choices
  | passes {way : Option Edge} (role : node.role = .start ∨ node.role = .step)
      (ways : graph.outEdges node.id = way.toList) :
      Visit node choices (emission settings node) way choices
  | turns (role : node.role = .branch) :
      Visit node choices (emission settings node) (graph.sideEdge node.id choices.head)
        choices.tail
  | forks {join : Node} {way : Option Edge} {contribution : String → List Action}
      (role : node.role = .fork) (joins : graph.nodeAt? (node.textParam "joinId") = some join)
      (lanes : LanesTravelled settings graph join.id node contribution)
      (ways : graph.outEdges join.id = way.toList) :
      Visit node choices
        (emission settings node ++ [.parallel (node.laneIds.eraseDups.filterMap
          (laneElement settings graph node.id contribution))]) way choices

inductive Travels : String → Stream' Bool → List Action → Prop where
  | visits {id : String} {node : Node} {choices left : Stream' Bool} {own rest : List Action}
      {way : Option Edge} (found : graph.nodeAt? id = some node)
      (visit : Visit settings graph node choices own way left)
      (travelled : ∀ edge ∈ way, Travels edge.target left rest) :
      Travels id choices (own ++ crossing settings way rest)

section Unique

variable {settings graph}

theorem LaneTravels.unique {join id : String} {first second : List Action}
    (one : LaneTravels settings graph join id first)
    (other : LaneTravels settings graph join id second) : first = second := by
  induction one generalizing second with
  | joined =>
      cases other with
      | joined => rfl
      | passes apart => exact (apart rfl).elim
  | passes apart found _ way _ ih =>
      cases other with
      | joined => exact (apart rfl).elim
      | passes _ again _ ways travelled =>
          cases found.symm.trans again
          cases way.symm.trans ways
          rw [ih travelled]

/-- Only the lanes that have an edge matter, and each of them has one contribution. -/
theorem laneElement_unique {join : String} {fork : Node} {first second : String → List Action}
    (one : LanesTravelled settings graph join fork first)
    (other : LanesTravelled settings graph join fork second) :
    fork.laneIds.eraseDups.filterMap (laneElement settings graph fork.id first) =
      fork.laneIds.eraseDups.filterMap (laneElement settings graph fork.id second) := by
  apply List.filterMap_congr
  intro lane declared
  rw [laneElement, laneElement]
  cases begins : graph.laneEdge fork.id lane with
  | none => rfl
  | some edge =>
      have listed := List.mem_eraseDups.mp declared
      obtain ⟨rest, travelled, same⟩ := one lane listed edge begins
      obtain ⟨again, travelledAgain, sameAgain⟩ := other lane listed edge begins
      rw [same, sameAgain, travelled.unique travelledAgain]

theorem way_unique {edges : List Edge} {first second : Option Edge}
    (one : edges = first.toList) (other : edges = second.toList) : first = second := by
  have same := congrArg List.head? (one.symm.trans other)
  rw [Option.head?_toList, Option.head?_toList] at same
  exact same

theorem Visit.unique {node : Node} {choices left leftAgain : Stream' Bool}
    {own ownAgain : List Action} {way wayAgain : Option Edge}
    (one : Visit settings graph node choices own way left)
    (other : Visit settings graph node choices ownAgain wayAgain leftAgain) :
    own = ownAgain ∧ way = wayAgain ∧ left = leftAgain := by
  -- The role of the node says which rule applies, to both visits.
  cases one with
  | stops role =>
      cases other with
      | stops => exact ⟨rfl, rfl, rfl⟩
      | passes clash | turns clash | forks clash =>
          rcases role with role | role <;> simp [role] at clash
  | passes role ways =>
      cases other with
      | passes _ again => exact ⟨rfl, way_unique ways again, rfl⟩
      | stops clash | turns clash | forks clash =>
          rcases role with role | role <;> simp [role] at clash
  | turns role =>
      cases other with
      | turns => exact ⟨rfl, rfl, rfl⟩
      | stops clash | passes clash | forks clash => simp [role] at clash
  | forks role joins lanes ways =>
      cases other with
      | forks _ again lanesAgain waysAgain =>
          cases joins.symm.trans again
          rw [laneElement_unique lanes lanesAgain]
          exact ⟨rfl, way_unique ways waysAgain, rfl⟩
      | stops clash | passes clash | turns clash => simp [role] at clash

/-- The choices settle the travel. -/
theorem Travels.unique {id : String} {choices : Stream' Bool} {first second : List Action}
    (one : Travels settings graph id choices first)
    (other : Travels settings graph id choices second) : first = second := by
  induction one generalizing second with
  | @visits id node choices left own rest way found visit travelled ih =>
      obtain ⟨again, visitAgain, travelledAgain⟩ := other
      cases found.symm.trans again
      obtain ⟨rfl, rfl, rfl⟩ := visit.unique visitAgain
      -- Without a way on, what the rule says of the rest does not matter.
      cases way with
      | none => rfl
      | some edge =>
          rw [ih edge rfl (travelledAgain edge rfl)]

end Unique

section Emission

variable {settings graph}

theorem ownActions_eq_emission (node : Node) : ownActions settings node = emission settings node := by
  cases role : node.role <;> simp [ownActions, emission, marks, role]

theorem isPlain_emission {node : Node} (untyped : "type" ∉ Table.keys node.params) :
    ∀ action ∈ emission settings node, action.IsPlain := by
  intro action given
  rcases List.mem_append.mp given with mark | record
  · split at mark
    · cases List.mem_singleton.mp mark
      exact Action.isPlain_mark node.displayName
    · cases mark
  · split at record
    · rename_i step
      cases List.mem_singleton.mp record
      exact Action.isPlain_ofNode step untyped
    · cases record

theorem isPlain_of_visit {node : Node} {choices left : Stream' Bool} {own : List Action}
    {way : Option Edge} (untyped : "type" ∉ Table.keys node.params)
    (visit : Visit settings graph node choices own way left) : ∀ action ∈ own, action.IsPlain := by
  cases visit with
  | stops | passes | turns => exact isPlain_emission untyped
  | forks =>
      intro action given
      rcases List.mem_append.mp given with own | parallel
      · exact isPlain_emission untyped action own
      · cases List.mem_singleton.mp parallel
        exact Action.isPlain_parallel _

theorem isPlain_waitActions (edge : Edge) : ∀ action ∈ waitActions settings edge, action.IsPlain := by
  intro action given
  unfold waitActions at given
  split at given
  · rename_i seconds _
    unfold Action.underGuard at given
    split at given
    · rename_i guard _
      cases List.mem_singleton.mp given
      exact Action.isPlain_guarded guard [.wait seconds]
    · cases List.mem_singleton.mp given
      exact Action.isPlain_wait seconds
  · cases given

end Emission

section Simulation

variable {settings graph}

theorem played_own {own : List Action} (plain : ∀ action ∈ own, action.IsPlain)
    (choices : Stream' Bool) (rest : List Action) :
    Json.played choices (Action.listJson (own ++ rest)) =
      Action.listJson own ++ Json.played choices (Action.listJson rest) := by
  rw [Action.listJson_append, Json.played_append_of_plain (Action.branch?_listJson plain)]

theorem laneTravels_of_laneWalked {join : String} {path : List String} {id : String}
    {actions : List Action} (walked : LaneWalked settings graph join path id actions) :
    LaneTravels settings graph join id actions := by
  induction walked with
  | joined => exact .joined
  | passes apart _ found flat way _ _ ih =>
      rw [ownActions_eq_emission]
      exact .passes apart found flat way ih

theorem lanesTravelled_of_lanesWalked {join : String} {path : List String} {fork : Node}
    {contribution : String → List Action}
    (walked : LanesWalked settings graph join path fork contribution) :
    LanesTravelled settings graph join fork contribution := by
  intro lane declared edge begins
  obtain ⟨-, rest, lanes, same⟩ := walked lane declared edge begins
  exact ⟨rest, laneTravels_of_laneWalked lanes, same⟩

/-- What is beyond a way can be travelled, and playing it gives the same. -/
theorem travels_beyond {way : Option Edge} {left : Stream' Bool} {rest : List Action}
    (beyond : ∀ edge ∈ way, ∃ records, Travels settings graph edge.target left records ∧
      Json.played left (Action.listJson rest) = Action.listJson records) :
    ∃ records, (∀ edge ∈ way, Travels settings graph edge.target left records) ∧
      Json.played left (Action.listJson (crossing settings way rest)) =
        Action.listJson (crossing settings way records) := by
  cases way with
  | none =>
      refine ⟨[], ?_, Json.played_nil left⟩
      intro edge taken
      cases taken
  | some edge =>
      obtain ⟨records, travelled, same⟩ := beyond edge rfl
      refine ⟨records, ?_, ?_⟩
      · intro other taken
        cases taken
        exact travelled
      · rw [crossing, crossing, played_own (isPlain_waitActions edge), same, Action.listJson_append]

/-- Whatever a visit leaves to play, the travel goes on as the compiled actions do. -/
theorem travels_of_visit {id : String} {node : Node} {choices left : Stream' Bool}
    {own : List Action} {way : Option Edge} (found : graph.nodeAt? id = some node)
    (visit : Visit settings graph node choices own way left) (rest : List Action)
    (beyond : ∀ edge ∈ way, ∃ records, Travels settings graph edge.target left records ∧
      Json.played left (Action.listJson rest) = Action.listJson records) :
    ∃ records, Travels settings graph id choices records ∧
      Action.listJson own ++ Json.played left (Action.listJson (crossing settings way rest)) =
        Action.listJson records := by
  obtain ⟨records, travelled, same⟩ := travels_beyond beyond
  exact ⟨own ++ crossing settings way records, .visits found visit travelled,
    by rw [same, Action.listJson_append]⟩

/-- Where a visit takes no choice, the list is played on as it stands. -/
theorem travels_of_straight {id : String} {node : Node} {choices : Stream' Bool}
    {own : List Action} {way : Option Edge} (untyped : "type" ∉ Table.keys node.params)
    (found : graph.nodeAt? id = some node)
    (visit : Visit settings graph node choices own way choices) (rest : List Action)
    (beyond : ∀ edge ∈ way, ∃ records, Travels settings graph edge.target choices records ∧
      Json.played choices (Action.listJson rest) = Action.listJson records) :
    ∃ records, Travels settings graph id choices records ∧
      Json.played choices (Action.listJson (own ++ crossing settings way rest)) =
        Action.listJson records := by
  obtain ⟨records, travelled, same⟩ := travels_of_visit found visit rest beyond
  exact ⟨records, travelled, by rw [played_own (isPlain_of_visit untyped visit), same]⟩

theorem travels_of_walked (untyped : ∀ node ∈ graph.nodes, "type" ∉ Table.keys node.params)
    {path : List String} {id : String} {actions : List Action}
    (walked : Walked settings graph path id actions) (choices : Stream' Bool) :
    ∃ records, Travels settings graph id choices records ∧
      Json.played choices (Action.listJson actions) = Action.listJson records := by
  induction walked generalizing choices with
  | @stops path id node fresh found role =>
      have clear := untyped node (Graph.mem_of_nodeAt? found).1
      have visit : Visit settings graph node choices _ none choices := .stops role
      rw [ownActions_eq_emission, ← List.append_nil (emission settings node)]
      apply travels_of_straight clear found visit []
      intro edge taken
      cases taken
  | @passes path id node way rest fresh found role ways known _ ih =>
      have clear := untyped node (Graph.mem_of_nodeAt? found).1
      obtain rfl := Graph.id_of_nodeAt? found
      have visit : Visit settings graph node choices _ way choices := .passes role ways
      rw [ownActions_eq_emission]
      exact travels_of_straight clear found visit rest fun edge taken => ih edge taken choices
  | @splits path id node rests fresh found role fits known _ ih =>
      have clear := untyped node (Graph.mem_of_nodeAt? found).1
      obtain rfl := Graph.id_of_nodeAt? found
      have visit : Visit settings graph node choices _ _ choices.tail := .turns role
      obtain ⟨records, travelled, same⟩ := travels_of_visit found visit
        (rests choices.head) fun edge taken => ih choices.head edge taken choices.tail
      obtain ⟨fields, isBranch, onSide⟩ := Action.branch?_branch (node.textParam "condition")
        fun side => crossing settings (graph.sideEdge node.id side) (rests side)
      refine ⟨records, travelled, ?_⟩
      -- The record ends the list, so what is played after it is the chosen side alone.
      rw [ownActions_eq_emission, played_own (isPlain_of_visit clear visit),
        Action.listJson, Action.listJson, Json.played_branch isBranch, onSide]
      exact same
  | @forks path id node join way rest contribution fresh found role named joins isJoin lanes resumed
      ways known _ ih =>
      have clear := untyped node (Graph.mem_of_nodeAt? found).1
      obtain rfl := Graph.id_of_nodeAt? found
      have visit : Visit settings graph node choices _ way choices :=
        .forks role joins (lanesTravelled_of_lanesWalked lanes) ways
      rw [ownActions_eq_emission, List.append_cons]
      exact travels_of_straight clear found visit rest fun edge taken => ih edge taken choices

end Simulation

/-- The compiled actions mean what the graph means. Whatever the choices, the travel from the only
start ends, and what it gives is what playing the actions comes to. -/
theorem travels_iff_played {settings : Settings} {graph : Graph} {actions : List Action}
    (untyped : ∀ node ∈ graph.nodes, "type" ∉ Table.keys node.params)
    (compiled : compile settings graph = .ok actions) :
    ∃ start, graph.withRole .start = [start] ∧ ∀ choices output,
      (∃ records, Travels settings graph start.id choices records ∧
          output = Action.listJson records) ↔
        output = Json.played choices (Action.listJson actions) := by
  obtain ⟨start, only, -, walked⟩ := compile_eq_ok_iff.mp compiled
  refine ⟨start, only, fun choices output => ?_⟩
  obtain ⟨records, travelled, same⟩ := travels_of_walked untyped walked choices
  constructor
  · rintro ⟨others, travelledToo, rfl⟩
    rw [same, travelledToo.unique travelled]
  · rintro rfl
    exact ⟨records, travelled, same⟩

/-- One side of the branch goes through a fork, and both sides end at one node. -/
def duskScene : Graph where
  nodes := [
    { id := "s", type := "start" },
    { id := "b", type := "branch", params := [("condition", .str "late")] },
    { id := "p", type := "parallel_start", params := [("joinId", .str "j")] },
    { id := "w", type := "walk", params := [("to", .str "gate")] },
    { id := "j", type := "parallel_join" },
    { id := "z", type := "end" }]
  edges := [
    { id := "e1", source := "s", target := "b", waitSeconds := some (.int 2) },
    { id := "e2", source := "b", target := "p", sourceHandle := some "out_false" },
    { id := "e3", source := "b", target := "z" },
    { id := "e4", source := "p", target := "w", sourceHandle := some "out_b0" },
    { id := "e5", source := "w", target := "j" },
    { id := "e6", source := "j", target := "z" }]

def duskActions : List Action :=
  [.wait (.int 2),
    .branch "late" [] [.parallel [[.record [("type", .str "walk"), ("to", .str "gate")]]]]]

theorem travels_iff_played_duskScene :
    (∀ node ∈ duskScene.nodes, "type" ∉ Table.keys node.params) ∧
      compile {} duskScene = .ok duskActions ∧
      ∃ start, duskScene.withRole .start = [start] ∧ ∀ choices output,
        (∃ records, Travels {} duskScene start.id choices records ∧
            output = Action.listJson records) ↔
          output = Json.played choices (Action.listJson duskActions) := by
  have untyped : ∀ node ∈ duskScene.nodes, "type" ∉ Table.keys node.params := by decide
  have compiled : compile {} duskScene = .ok duskActions := by with_unfolding_all rfl
  exact ⟨untyped, compiled, travels_iff_played untyped compiled⟩

end SceneScript.Compile
