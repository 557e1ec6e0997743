import SceneScript.Proofs.Findings

/-!
The topic of a finding can be read off the finding. Main statement: a finding is in a report exactly
when it is one of its own topic, so that nothing need be said of the other topics.
-/

namespace SceneScript

/-- The topics of a report, in its order. -/
inductive Topic where
  | names
  | ends
  | edgeCounts
  | params
  | pairs
  | references
  | guards
  | reach
  deriving DecidableEq, Repr

def Finding.topic : Finding → Topic
  | unnamed _ _ | sharedName _ _ _ => .names
  | noStart | severalStarts _ | noEnd => .ends
  | startEntered _ _ | startStuck _ | endLeft _ _ | disconnected _ _ | noIncoming _ _
  | severalOutgoing _ _ _ => .edgeCounts
  | missingField _ _ _ | noSprite _ | noFalseSide _ | unreadableArgs _ => .params
  | noJoin _ | unknownJoin _ _ | wrongJoin _ _ _ | noFork _ | unknownFork _ _ | wrongFork _ _
  | lanesDiffer _ _ _ _ | lane _ _ _ => .pairs
  | unknownSource _ _ | unknownTarget _ _ | negativeWait _ _ => .references
  | guard _ _ => .guards
  | unreachable _ _ | noEndReachable => .reach

namespace Report

variable {graph : Graph} {settings : Settings} {report : Report} {finding : Finding} {node : Node}
  {edge : Edge} {index : Index}

/-- A finding is one of a topic of the report on a graph. -/
def IsOf (settings : Settings) (graph : Graph) (finding : Finding) : Topic → Prop
  | .names => finding ∈ nameFindings graph
  | .ends => finding ∈ endFindings graph
  | .edgeCounts => ∃ node ∈ graph.nodes, finding ∈ edgeCountFindings (.ofGraph graph) node
  | .params => ∃ node ∈ graph.nodes, finding ∈ paramFindings (.ofGraph graph) node
  | .pairs => ∃ node ∈ graph.nodes, finding ∈ pairFindings (.ofGraph graph) node
  | .references => ∃ edge ∈ graph.edges, finding ∈ danglingEnds (.ofGraph graph) edge ∨
      ∃ waits, waitFindings edge = .ok waits ∧ finding ∈ waits
  | .guards => ∃ edge ∈ graph.edges,
      finding ∈ guardFindings settings.globalVarPrefix (Index.ofGraph graph).names edge
  | .reach => finding ∈ reachFindings (.ofGraph graph)

theorem topic_nameFindings (found : finding ∈ nameFindings graph) : finding.topic = .names := by
  unfold nameFindings at found
  grind [Finding.topic]

theorem topic_endFindings (found : finding ∈ endFindings graph) : finding.topic = .ends := by
  unfold endFindings at found
  grind [Finding.topic]

theorem topic_edgeCountFindings (found : finding ∈ edgeCountFindings index node) :
    finding.topic = .edgeCounts := by
  unfold edgeCountFindings at found
  grind [Finding.topic]

theorem topic_functionFindings (found : finding ∈ functionFindings node) :
    finding.topic = .params := by
  unfold functionFindings at found
  grind [Finding.topic]

theorem topic_paramFindings (found : finding ∈ paramFindings index node) :
    finding.topic = .params := by
  rw [paramFindings, List.mem_append] at found
  rcases found with missing | ofType
  · obtain ⟨field, -, rfl⟩ := List.mem_map.mp missing
    rfl
  · unfold typeFindings at ofType
    split at ofType
    · grind [Finding.topic]
    · grind [Finding.topic]
    · exact topic_functionFindings ofType
    · cases ofType

theorem topic_pairFindings (found : finding ∈ pairFindings index node) :
    finding.topic = .pairs := by
  unfold pairFindings joinLinkFindings forkLinkFindings laneFindings at found
  grind [Finding.topic]

theorem topic_danglingEnds (found : finding ∈ danglingEnds index edge) :
    finding.topic = .references := by
  unfold danglingEnds at found
  grind [Finding.topic]

theorem topic_waitFindings {waits : List Finding} (waited : waitFindings edge = .ok waits)
    (found : finding ∈ waits) : finding.topic = .references := by
  obtain ⟨shown, rfl⟩ := eq_negativeWait waited found
  rfl

theorem topic_guardFindings {mark : String} {names : List String}
    (found : finding ∈ guardFindings mark names edge) : finding.topic = .guards := by
  obtain ⟨problem, -, rfl⟩ := List.mem_map.mp found
  rfl

theorem topic_reachFindings (found : finding ∈ reachFindings index) :
    finding.topic = .reach := by
  unfold reachFindings at found
  grind [Finding.topic]

/-- A finding is in a report exactly when it is one of its own topic. -/
theorem mem_findings_iff_isOf (reported : ofGraph settings graph = .ok report) :
    finding ∈ report.findings ↔ IsOf settings graph finding finding.topic := by
  rw [mem_findings_iff reported]
  constructor
  · rintro (found | found | ⟨node, listed, found⟩ | ⟨node, listed, found⟩ | ⟨node, listed, found⟩ |
      ⟨edge, listed, found⟩ | ⟨edge, listed, found⟩ | found)
    · rwa [topic_nameFindings found]
    · rwa [topic_endFindings found]
    · rw [topic_edgeCountFindings found]
      exact ⟨node, listed, found⟩
    · rw [topic_paramFindings found]
      exact ⟨node, listed, found⟩
    · rw [topic_pairFindings found]
      exact ⟨node, listed, found⟩
    · have topic : finding.topic = .references := by
        rcases found with dangling | ⟨waits, waited, member⟩
        · exact topic_danglingEnds dangling
        · exact topic_waitFindings waited member
      rw [topic]
      exact ⟨edge, listed, found⟩
    · rw [topic_guardFindings found]
      exact ⟨edge, listed, found⟩
    · rwa [topic_reachFindings found]
  · intro found
    -- The topic says in which of the eight places of the report the finding stands.
    cases topic : finding.topic <;> rw [topic] at found
    case names => exact Or.inl found
    case ends => exact Or.inr (Or.inl found)
    case edgeCounts => exact Or.inr (Or.inr (Or.inl found))
    case params => exact Or.inr (Or.inr (Or.inr (Or.inl found)))
    case pairs => exact Or.inr (Or.inr (Or.inr (Or.inr (Or.inl found))))
    case references => exact Or.inr (Or.inr (Or.inr (Or.inr (Or.inr (Or.inl found)))))
    case guards => exact Or.inr (Or.inr (Or.inr (Or.inr (Or.inr (Or.inr (Or.inl found))))))
    case reach => exact Or.inr (Or.inr (Or.inr (Or.inr (Or.inr (Or.inr (Or.inr found))))))

end Report

end SceneScript
