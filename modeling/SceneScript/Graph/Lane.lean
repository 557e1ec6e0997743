import SceneScript.Graph.Basic
import SceneScript.Text.Split

/-!
Lanes: the parallel ways from a fork to its join. The handle of an edge names the lane that it
begins or ends.
-/

namespace SceneScript

/-- The end of a set of lanes: a fork's outgoing edges, or a join's incoming ones. -/
inductive LaneEnd where
  | fork
  | join
  deriving DecidableEq, Repr

namespace LaneEnd

def type : LaneEnd → String
  | fork => "parallel_start"
  | join => "parallel_join"

/-- How the handles of lanes begin. -/
def mark : LaneEnd → String
  | fork => "out_"
  | join => "in_"

def handleName : LaneEnd → String
  | fork => "sourceHandle"
  | join => "targetHandle"

def direction : LaneEnd → String
  | fork => "outgoing"
  | join => "incoming"

def handle (laneEnd : LaneEnd) (edge : Edge) : Option String :=
  match laneEnd with
  | fork => edge.sourceHandle
  | join => edge.targetHandle

def handleOf (laneEnd : LaneEnd) (lane : String) : String := laneEnd.mark ++ lane

/-- The lane that an edge's handle names, if the handle is one of this end. -/
def laneOf? (laneEnd : LaneEnd) (edge : Edge) : Option String :=
  (laneEnd.handle edge).bind (Text.dropStart? laneEnd.mark)

end LaneEnd

end SceneScript
