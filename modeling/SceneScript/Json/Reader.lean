import SceneScript.Json.Lexeme

/-!
Reading JSON text. A `Stage` is the unfinished value around the next lexeme, from the outermost
array or object inwards; each stage expects something, and the first lexeme that it cannot take is
the fault. `run` takes lexemes until the text ends. A refused text is refused with its line.
-/

namespace SceneScript

inductive ReadFault where
  | malformed (what : Misstep) (line : Nat)
  | numeralTooLong (digits : Nat)

namespace Json

inductive Frame where
  | array (reversed : List Json)
  | object (fields : Table Json) (key : String)

inductive Stage where
  | value (outer : List Frame)
  | firstItem (outer : List Frame)
  | firstName (outer : List Frame)
  | name (fields : Table Json) (outer : List Frame)
  | colon (fields : Table Json) (key : String) (outer : List Frame)
  | afterItem (reversed : List Json) (outer : List Frame)
  | afterField (fields : Table Json) (outer : List Frame)
  | complete (value : Json)

def deliver (value : Json) : List Frame → Stage
  | [] => .complete value
  | .array reversed :: outer => .afterItem (value :: reversed) outer
  | .object fields key :: outer => .afterField (Table.insert fields key value) outer

namespace Stage

def expects : Stage → Misstep
  | value _ => .expectedValue
  | firstItem _ => .expectedValue
  | firstName _ => .expectedName
  | name _ _ => .expectedName
  | colon _ _ _ => .expectedColon
  | afterItem _ _ => .expectedComma
  | afterField _ _ => .expectedComma
  | complete _ => .extraData

def takeValue (line : Nat) (lexeme : Lexeme) (outer : List Frame) : Except ReadFault Stage :=
  match lexeme with
  | .scalar json => .ok (deliver json outer)
  | .text text => .ok (deliver (.str text) outer)
  | .openArray => .ok (.firstItem outer)
  | .openObject => .ok (.firstName outer)
  | .badText fault => .error (.malformed fault line)
  | .longNumeral digits => .error (.numeralTooLong digits)
  | _ => .error (.malformed .expectedValue line)

def takeName (line : Nat) (lexeme : Lexeme) (fields : Table Json) (outer : List Frame) :
    Except ReadFault Stage :=
  match lexeme with
  | .text key => .ok (.colon fields key outer)
  | .badText fault => .error (.malformed fault line)
  | _ => .error (.malformed .expectedName line)

def take (line : Nat) (lexeme : Lexeme) (stage : Stage) : Except ReadFault Stage :=
  match stage, lexeme with
  | value outer, _ => takeValue line lexeme outer
  | firstItem outer, .closeArray => .ok (deliver (.arr []) outer)
  | firstItem outer, _ => takeValue line lexeme (.array [] :: outer)
  | firstName outer, .closeObject => .ok (deliver (.obj []) outer)
  | firstName outer, _ => takeName line lexeme [] outer
  | name fields outer, _ => takeName line lexeme fields outer
  | colon fields key outer, .colon => .ok (.value (.object fields key :: outer))
  | afterItem reversed outer, .comma => .ok (.value (.array reversed :: outer))
  | afterItem reversed outer, .closeArray => .ok (deliver (.arr reversed.reverse) outer)
  | afterField fields outer, .comma => .ok (.name fields outer)
  | afterField fields outer, .closeObject => .ok (deliver (.obj fields) outer)
  | _, _ => .error (.malformed stage.expects line)

def finish (line : Nat) : Stage → Except ReadFault Json
  | complete json => .ok json
  | stage => .error (.malformed stage.expects line)

end Stage

def isSpace (c : Char) : Bool := c == ' ' || c == '\t' || c == '\n' || c == '\r'

def run (stage : Stage) (line : Nat) (chars : List Char) : Except ReadFault Json :=
  match chars with
  | [] => stage.finish line
  | c :: rest =>
      if isSpace c then run stage (if c = '\n' then line + 1 else line) rest
      else
        match stage.take line (Lexeme.next c rest).1 with
        | .error fault => .error fault
        | .ok stage => run stage line (Lexeme.next c rest).2
termination_by chars.length
decreasing_by
  · simp
  · exact Nat.lt_succ_of_le (Lexeme.next_length c rest)

/-- A byte order mark is no white space, and has a message of its own. -/
def readChars (chars : List Char) : Except ReadFault Json :=
  if chars.head? = some '\ufeff' then .error (.malformed .byteOrderMark 1)
  else run (.value []) 1 chars

def read (text : String) : Except ReadFault Json := readChars text.toList

end Json

end SceneScript
