import SceneScript.Graph.Reading
import SceneScript.Json.Reader
import SceneScript.Text.Utf8

/-!
Saved scenes. Loading is tolerant: an entry that is no node or edge, or repeats an id, is skipped
with a notice, and the rest of the scene is kept. Only a value that is no object, or names another
version of the format, is refused.
-/

namespace SceneScript

structure Document where
  title : String
  graph : Graph

namespace Document

def version : Nat := 1

def defaultTitle : String := "Untitled Cutscene"

end Document

inductive DocumentFault where
  | notUtf8 (offset : Nat)
  | malformed (what : Misstep) (line : Nat)
  | numeralTooLong (digits : Nat)
  | notObject
  | wrongVersion (given : Json)

/-- Faults of the text name the file; faults of the value do not. -/
def DocumentFault.message (file : String) : DocumentFault → String
  | notUtf8 offset => s!"{file}: not valid UTF-8 (byte {offset})"
  | malformed what line => s!"{file}: invalid JSON ({what.message} at line {line})"
  | numeralTooLong digits =>
      s!"Exceeds the limit ({Numeral.maxDigits} digits) for integer string conversion: " ++
        s!"value has {digits} digits; use sys.set_int_max_str_digits() to increase the limit"
  | notObject => "Cutscene document must be a JSON object"
  | wrongVersion given =>
      s!"Unsupported cutscene document schemaVersion {given.quoted} (expected {Document.version})"

/-- Why an entry was left out. -/
inductive Skip where
  | malformedNode (position : Nat)
  | repeatedNode (id : String)
  | malformedEdge (position : Nat)
  | repeatedEdge (id : String)
  | invalidEdge (id : String) (faults : Nat)
  deriving DecidableEq, Repr

def Skip.message : Skip → String
  | malformedNode position => s!"[DOCUMENT] Skipping malformed node entry #{position}"
  | repeatedNode id => s!"[DOCUMENT] Skipping duplicate node id '{id}'"
  | malformedEdge position => s!"[DOCUMENT] Skipping malformed edge entry #{position}"
  | repeatedEdge id => s!"[DOCUMENT] Skipping duplicate edge id '{id}'"
  | invalidEdge id faults => s!"[DOCUMENT] Skipping edge '{id}': {faults} invalid field(s)"

structure Loaded where
  document : Document
  skipped : List Skip

namespace Document

/-- A node entry needs an id and a type; other fields count only in their proper form. -/
def nodeOfEntry? (entry : Json) : Option Node := do
  let fields ← entry.fields?
  let id ← Table.string? fields "id"
  let type ← Table.string? fields "type"
  let params := ((Table.get? fields "params").bind Json.fields?).getD []
  some { id, type, name := Table.string? fields "name", params }

def loadNodes (position : Nat) (seen : List String) : List Json → List Node × List Skip
  | [] => ([], [])
  | entry :: rest =>
      match nodeOfEntry? entry with
      | none =>
          let (nodes, skipped) := loadNodes (position + 1) seen rest
          (nodes, .malformedNode position :: skipped)
      | some node =>
          if node.id ∈ seen then
            let (nodes, skipped) := loadNodes (position + 1) seen rest
            (nodes, .repeatedNode node.id :: skipped)
          else
            let (nodes, skipped) := loadNodes (position + 1) (node.id :: seen) rest
            (node :: nodes, skipped)

/-- The id and the fields of an entry that has an id and both ends. -/
def edgeEntry? (entry : Json) : Option (String × Table Json) := do
  let fields ← entry.fields?
  let id ← Table.string? fields "id"
  let _ ← Table.string? fields "source"
  let _ ← Table.string? fields "target"
  some (id, fields)

/-- Fields left null count as missing, and so do handles that are no texts. -/
def givenFields (fields : Table Json) : Table Json :=
  fields.filter fun (key, value) =>
    !value.isNull && ((key != "sourceHandle" && key != "targetHandle") || value.string?.isSome)

/-- An edge with invalid fields does not reserve its id. -/
def loadEdges (position : Nat) (seen : List String) : List Json → List Edge × List Skip
  | [] => ([], [])
  | entry :: rest =>
      match edgeEntry? entry with
      | none =>
          let (edges, skipped) := loadEdges (position + 1) seen rest
          (edges, .malformedEdge position :: skipped)
      | some (id, fields) =>
          if id ∈ seen then
            let (edges, skipped) := loadEdges (position + 1) seen rest
            (edges, .repeatedEdge id :: skipped)
          else
            match Edge.ofFields (givenFields fields) with
            | .error faults =>
                let (edges, skipped) := loadEdges (position + 1) seen rest
                (edges, .invalidEdge id faults.length :: skipped)
            | .ok edge =>
                let (edges, skipped) := loadEdges (position + 1) (id :: seen) rest
                (edge :: edges, skipped)

/-- Versions are compared as numbers; a true flag counts as one. -/
def isCurrent : Json → Bool
  | .num value => value.toInt? == some (version : Int)
  | .bool value => Field.ofFlag value == version
  | _ => false

def ofFields (fields : Table Json) : Loaded :=
  let (nodes, skippedNodes) := loadNodes 0 [] ((Table.get? fields "nodes").getD .null).items
  let (edges, skippedEdges) := loadEdges 0 [] ((Table.get? fields "edges").getD .null).items
  { document :=
      { title := (Table.string? fields "title").getD defaultTitle, graph := { nodes, edges } }
    skipped := skippedNodes ++ skippedEdges }

def load : Json → Except DocumentFault Loaded
  | .obj fields =>
      let given := (Table.get? fields "schemaVersion").getD .null
      if isCurrent given then .ok (ofFields fields) else .error (.wrongVersion given)
  | _ => .error .notObject

def parse (bytes : List UInt8) : Except DocumentFault Json :=
  match Text.decodeUtf8 bytes with
  | .error offset => .error (.notUtf8 offset)
  | .ok chars =>
      match Json.readChars (Text.unifyNewlines chars) with
      | .ok value => .ok value
      | .error (.malformed what line) => .error (.malformed what line)
      | .error (.numeralTooLong digits) => .error (.numeralTooLong digits)

def ofBytes (bytes : List UInt8) : Except DocumentFault Loaded := do
  let value ← parse bytes
  load value

end Document

end SceneScript
