import SceneScript.Proofs.Configuration

/-!
When a graph compiles. Main statement: exactly when it has one start and some end, no path of
configurations from the start comes to a node twice, and every configuration on such a path is
sound. The settings have no say in it.
-/

namespace SceneScript.Compile

variable (graph : Graph)

/-- Every way from a configuration is sound and comes to nothing that was entered before. -/
inductive Clear : List String → Config → Prop where
  | intro {path : List String} {config : Config} (fresh : config.node ∉ path)
      (sound : Sound graph config)
      (ahead : ∀ after, Next graph config after → Clear (config.node :: path) after) :
      Clear path config

variable {graph} {settings : Settings} {path : List String} {id : String} {actions : List Action}

/-- A lane that has been walked is clear up to the join. -/
theorem clear_of_laneWalked {fork join : String} {forkNode : Node}
    (walked : LaneWalked settings graph join path id actions)
    (forks : graph.nodeAt? fork = some forkNode) (joins : forkNode.textParam "joinId" = join)
    (apart : id ≠ join) : Clear graph path (.inLane fork id) := by
  induction walked with
  | joined path => exact (apart rfl).elim
  | @passes path id node edge rest apart fresh found flat way known _ ih =>
      have only {other : Edge} (follows : Follows graph (.inLane fork id) other) :
          other = edge := by
        have taken : other ∈ some edge := follows_mem_way follows way
        exact (Option.some.inj taken).symm
      refine .intro fresh ⟨⟨node, found, flat, by rw [way]; rfl⟩, ?_⟩ ?_
      · intro other follows
        rw [only follows]
        exact known
      · intro after step
        cases step with
        | inLane again follows farther =>
            cases forks.symm.trans again
            rw [only follows] at farther ⊢
            exact ih (joins ▸ farther)

theorem clear_of_lanesWalked {join : String} {fork : Node} {contribution : String → List Action}
    (walked : LanesWalked settings graph join path fork contribution)
    (found : graph.nodeAt? fork.id = some fork) (joins : fork.textParam "joinId" = join)
    {lane : String} {edge : Edge} (declared : lane ∈ fork.laneIds)
    (begins : graph.laneEdge fork.id lane = some edge) (apart : edge.target ≠ join) :
    Clear graph path (.inLane fork.id edge.target) := by
  obtain ⟨-, rest, reached, -⟩ := walked lane declared edge begins
  exact clear_of_laneWalked reached found joins apart

theorem length_le_one_of_toList {edges : List Edge} {way : Option Edge}
    (ways : edges = way.toList) : edges.length ≤ 1 := by
  rw [ways]
  cases way
  · exact Nat.zero_le 1
  · exact Nat.le_refl 1

/-- A node that is no fork is clear with what its edges lead to. -/
theorem clear_of_flat {node : Node} (fresh : id ∉ path) (found : graph.nodeAt? id = some node)
    (flat : node.role ≠ .fork) (fits : RoleFits graph id node)
    (beyond : ∀ edge, Follows graph (.plain id) edge →
      graph.Has edge.target ∧ Clear graph (id :: path) (.plain edge.target)) :
    Clear graph path (.plain id) := by
  refine .intro fresh ⟨⟨node, found, fits⟩, fun edge follows => (beyond edge follows).1⟩ ?_
  intro after step
  rcases next_plain found step with ⟨-, edge, follows, rfl⟩ | ⟨forks, -⟩
  · exact (beyond edge follows).2
  · exact (flat forks).elim

/-- All that a sequence that succeeds has walked is clear. -/
theorem clear_of_walked (walked : Walked settings graph path id actions) :
    Clear graph path (.plain id) := by
  induction walked with
  | @stops path id node fresh found role =>
      have flat : node.role ≠ .fork := by rcases role with role | role <;> simp [role]
      have fits : RoleFits graph id node := by
        rcases role with role | role <;> simp [RoleFits, role]
      apply clear_of_flat fresh found flat fits
      intro edge follows
      rw [follows_plain_iff found] at follows
      rcases role with role | role <;> simp [role] at follows
  | @passes path id node way rest fresh found role ways known _ ih =>
      have flat : node.role ≠ .fork := by rcases role with role | role <;> simp [role]
      have fits : RoleFits graph id node := by
        have few := length_le_one_of_toList ways
        rcases role with role | role <;> simpa only [RoleFits, role] using few
      apply clear_of_flat fresh found flat fits
      intro edge follows
      have taken := follows_mem_way follows ways
      exact ⟨known edge taken, ih edge taken⟩
  | @splits path id node rests fresh found role fits known _ ih =>
      have flat : node.role ≠ .fork := by simp [role]
      apply clear_of_flat fresh found flat (by simpa only [RoleFits, role] using fits)
      intro edge follows
      rw [follows_plain_iff found] at follows
      obtain ⟨side, way⟩ : ∃ side, graph.sideEdge id side = some edge := by
        simpa [role] using follows
      exact ⟨known side edge way, ih side edge way⟩
  | @forks path id node join way rest contribution fresh found role named joins isJoin lanes resumed
      ways known _ ih =>
      have same := Graph.id_of_nodeAt? found
      have joinSame := Graph.id_of_nodeAt? joins
      have inLane {edge : Edge} (follows : Follows graph (.plain id) edge) :
          ∃ lane ∈ node.laneIds, graph.laneEdge id lane = some edge := by
        rw [follows_plain_iff found] at follows
        simpa [role] using follows
      have fits : RoleFits graph id node := by
        simp only [RoleFits, role]
        exact ⟨named, join, joins, isJoin⟩
      refine .intro fresh ⟨⟨node, found, fits⟩, ?_⟩ ?_
      · intro edge follows
        obtain ⟨lane, declared, begins⟩ := inLane follows
        exact (lanes lane declared edge (same.symm ▸ begins)).1
      · intro after step
        rcases next_plain found step with ⟨flat, -⟩ | ⟨-, rfl | ⟨edge, follows, apart, rfl⟩⟩
        · exact (flat role).elim
        · rw [← joinSame]
          -- Lanes leave nothing behind on the path: the join comes right after its fork.
          refine .intro resumed ⟨length_le_one_of_toList ways, ?_⟩ ?_
          · intro edge follows
            exact known edge (follows_mem_way follows ways)
          · intro after step
            cases step with
            | resume follows => exact ih _ (follows_mem_way follows ways)
        · obtain ⟨lane, declared, begins⟩ := inLane follows
          have clear := clear_of_lanesWalked lanes (same.symm ▸ found) joinSame.symm declared
            (same.symm ▸ begins) (joinSame ▸ apart)
          exact same ▸ clear

theorem Clear.of_chain {config : Config} {rest : List Config} (clear : Clear graph path config)
    (chain : List.IsChain (Next graph) (config :: rest)) :
    ((config :: rest).map Config.node).Nodup ∧
      ∀ other ∈ config :: rest, other.node ∉ path ∧ Sound graph other := by
  -- Along the chain the path grows by each node, so no later node can repeat an earlier one.
  induction rest generalizing path config with
  | nil =>
      obtain ⟨fresh, sound, -⟩ := clear
      refine ⟨List.nodup_singleton _, ?_⟩
      intro other member
      rw [List.mem_singleton.mp member]
      exact ⟨fresh, sound⟩
  | cons after rest ih =>
      obtain ⟨fresh, sound, ahead⟩ := clear
      obtain ⟨step, chain⟩ := List.isChain_cons_cons.mp chain
      obtain ⟨distinct, others⟩ := ih (ahead after step) chain
      constructor
      · refine List.nodup_cons.mpr ⟨?_, distinct⟩
        intro again
        obtain ⟨other, member, same⟩ := List.mem_map.mp again
        exact (others other member).1 (same ▸ List.mem_cons_self)
      · intro other member
        rcases List.mem_cons.mp member with rfl | later
        · exact ⟨fresh, sound⟩
        · obtain ⟨apart, otherSound⟩ := others other later
          exact ⟨fun old => apart (List.mem_cons_of_mem _ old), otherSound⟩

/-- A trail is a chain of configurations, and its path is the nodes of the chain, latest first. -/
theorem chain_of_trail {path' : List String} {config last : Config}
    (trail : Trail graph path config path' last) :
    ∃ rest, List.IsChain (Next graph) (config :: rest) ∧ last ∈ config :: rest ∧
      ((config :: rest).map Config.node).reverse ++ path = last.node :: path' := by
  induction trail with
  | here => exact ⟨[], .singleton _, List.mem_cons_self, rfl⟩
  | @next path path' config after last fresh step _ ih =>
      obtain ⟨rest, chain, member, same⟩ := ih
      refine ⟨after :: rest, .cons_cons step chain, List.mem_cons_of_mem config member, ?_⟩
      rw [← same, List.map_cons, List.reverse_cons, List.append_assoc]
      rfl

/-- Where every chain is free of repetition and sound, no walk gets stuck. -/
theorem not_stuck_of_chains {path' : List String} {config last : Config} {error : CompileError}
    (chains : ∀ rest, List.IsChain (Next graph) (config :: rest) →
      ((config :: rest).map Config.node).Nodup ∧ ∀ other ∈ config :: rest, Sound graph other)
    (trail : Trail graph [] config path' last) : ¬ Stuck graph path' last error := by
  obtain ⟨rest, chain, member, same⟩ := chain_of_trail trail
  obtain ⟨distinct, sound⟩ := chains rest chain
  rw [List.append_nil] at same
  have apart : (last.node :: path').Nodup := same ▸ List.nodup_reverse.mpr distinct
  rintro (⟨old, -⟩ | ⟨-, fault⟩)
  · exact (List.nodup_cons.mp apart).1 old
  · exact not_sound_of_fault fault (sound last member)

/-- A graph compiles exactly when it has one start and some end, and every path of configurations
from the start is free of repeated nodes and sound all along. -/
theorem compile_succeeds_iff (settings : Settings) (graph : Graph) :
    (∃ actions, compile settings graph = .ok actions) ↔
      ∃ start, graph.withRole .start = [start] ∧ graph.withRole .finish ≠ [] ∧
        ∀ rest, List.IsChain (Next graph) (.plain start.id :: rest) →
          ((.plain start.id :: rest).map Config.node).Nodup ∧
            ∀ config ∈ .plain start.id :: rest, Sound graph config := by
  constructor
  · rintro ⟨actions, compiled⟩
    obtain ⟨start, starts, ends, walked⟩ := compile_eq_ok_iff.mp compiled
    refine ⟨start, starts, ends, fun rest chain => ?_⟩
    obtain ⟨distinct, others⟩ := (clear_of_walked walked).of_chain chain
    exact ⟨distinct, fun config member => (others config member).2⟩
  · rintro ⟨start, starts, ends, chains⟩
    have listed : start ∈ graph.withRole .start := starts ▸ List.mem_cons_self
    have known : graph.Has start.id := ⟨start, (List.mem_filter.mp listed).1, rfl⟩
    cases outcome : sequence settings (.ofGraph graph) [] start.id with
    | ok actions =>
        exact ⟨actions, compile_eq_ok_iff.mpr ⟨start, starts, ends, sequence_eq_ok_iff.mp outcome⟩⟩
    | error error =>
        obtain ⟨path', last, trail, stuck⟩ := fails_of_sequence known outcome
        exact (not_stuck_of_chains chains trail stuck).elim

end SceneScript.Compile
