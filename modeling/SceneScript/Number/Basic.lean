import SceneScript.Number.Notation

/-!
Numbers of documents: whole numbers of any size and doubles, which stay what they were written as.
-/

namespace SceneScript

inductive Number where
  | int (value : Int)
  | double (value : Double)
  deriving DecidableEq

inductive NumberFault where
  | beyondDoubles
  deriving DecidableEq

def NumberFault.message : NumberFault → String
  | beyondDoubles => "int too large to convert to float"

namespace Number

def isPositive : Number → Bool
  | int value => 0 < value
  | double value => value.isPositive

def isNegative : Number → Bool
  | int value => value < 0
  | double value => value.isNegative

/-- The whole number that a number equals, whichever way it is written. -/
def toInt? : Number → Option Int
  | int value => some value
  | double value => value.toInt?

def write : Number → String
  | int value => toString value
  | double value => value.write

/-- A whole number is rounded to a double first; one beyond their range has no brief form. -/
def writeBrief : Number → Except NumberFault String
  | int value =>
      let rounded := Double.ofInt value
      if rounded.isFinite then .ok rounded.writeBrief else .error .beyondDoubles
  | double value => .ok value.writeBrief

end Number

end SceneScript
