import SceneScript.CommandLine.Run
import SceneScript.Proofs.ExportGate
import SceneScript.Proofs.Loading

/-!
How a command ends on a file that is there. Main statement: with 2 if the file is no text of a
document, with 1 if the scene has errors or is not compiled, and with 0 otherwise; save that the
program breaks off at a numeral that is too long and, where it reports, at a negative wait beyond
the range of doubles. What is compiled or exported is written only when the code is 0.
-/

namespace SceneScript

namespace Document

/-- The bytes are a text that stands for a value. -/
def Writes (bytes : List UInt8) (value : Json) : Prop :=
  ∃ chars, Text.decodeUtf8 bytes = .ok chars ∧ Json.readChars (Text.unifyNewlines chars) = .ok value

/-- The bytes are a text of an object of this version. -/
def Readable (bytes : List UInt8) : Prop :=
  ∃ fields, Writes bytes (.obj fields) ∧ (versionOf fields).EqualsOne

/-- The bytes are a text of such an object, and this is what it loads as. -/
def Reads (bytes : List UInt8) (loaded : Loaded) : Prop :=
  ∃ fields, Writes bytes (.obj fields) ∧ (versionOf fields).EqualsOne ∧ LoadsAs fields loaded

/-- The text in the bytes cannot be read beyond a numeral of so many digits. -/
def Overlong (bytes : List UInt8) (digits : Nat) : Prop :=
  ∃ chars, Text.decodeUtf8 bytes = .ok chars ∧
    Json.readChars (Text.unifyNewlines chars) = .error (.numeralTooLong digits)

variable {bytes : List UInt8} {value : Json} {loaded : Loaded} {digits : Nat}

theorem parse_eq_ok_iff : parse bytes = .ok value ↔ Writes bytes value := by
  unfold parse Writes
  cases Text.decodeUtf8 bytes with
  | error offset => simp
  | ok chars =>
      cases read : Json.readChars (Text.unifyNewlines chars) with
      | ok value => simp [read]
      | error fault => cases fault <;> simp [read]

theorem ofBytes_eq_ok_iff : ofBytes bytes = .ok loaded ↔ Reads bytes loaded := by
  simp only [ofBytes, Reads, bind_eq_ok_iff, parse_eq_ok_iff, load_eq_ok_iff]
  constructor
  · rintro ⟨_, writes, fields, rfl, current, loads⟩
    exact ⟨fields, writes, current, loads⟩
  · rintro ⟨fields, writes, current, loads⟩
    exact ⟨_, writes, fields, rfl, current, loads⟩

theorem Reads.unique {other : Loaded} (one : Reads bytes loaded) (another : Reads bytes other) :
    loaded = other := by
  rw [← ofBytes_eq_ok_iff] at one another
  cases one.symm.trans another
  rfl

end Document

namespace CommandLine

open SceneScript.Document

/-- The scene fails a command: it has errors where it is reported on, or else it is not compiled
where it should be. -/
inductive Fails (settings : Settings) (topic : Topic) (graph : Graph) : Prop where
  | severe {report : Report} (reports : topic = .validate ∨ topic = .package)
      (reported : Report.ofGraph settings graph = .ok report) (severe : report.hasErrors = true)
  | uncompiled {error : CompileError} (compiles : topic ≠ .validate)
      (clean : topic = .package →
        ∃ report, Report.ofGraph settings graph = .ok report ∧ report.hasErrors = false)
      (failed : SceneScript.compile settings graph = .error error)

/-- What the program breaks off at. -/
inductive Aborts (topic : Topic) (bytes : List UInt8) : Abort → Prop where
  | numeral {digits : Nat} (overlong : Overlong bytes digits) :
      Aborts topic bytes (.numeralTooLong (.numeralTooLong digits))
  | wait {loaded : Loaded} {edge : Edge} (reports : topic = .validate ∨ topic = .package)
      (reads : Reads bytes loaded) (listed : edge ∈ loaded.document.graph.edges)
      (unshowable : edge.HasUnshowableWait) : Aborts topic bytes (.noReport .beyondDoubles)

/-- What the exit code says of the file, and where something is written. -/
structure EndsAs (settings : Settings) (topic : Topic) (bytes : List UInt8) (output : Output) :
    Prop where
  code : output.exitCode = 0 ∨ output.exitCode = 1 ∨ output.exitCode = 2
  unreadable : output.exitCode = 2 ↔ ¬ Readable bytes
  failed : output.exitCode = 1 ↔
    ∃ loaded, Reads bytes loaded ∧ Fails settings topic loaded.document.graph
  silent : topic ≠ .validate → output.exitCode ≠ 0 → output.stdout = ""

/-- The command reports, and a wait of the scene cannot be shown. -/
def Stuck (topic : Topic) (graph : Graph) : Prop :=
  (topic = .validate ∨ topic = .package) ∧ ∃ edge ∈ graph.edges, edge.HasUnshowableWait

/-- What a command makes of a document that was read. -/
inductive Answers (settings : Settings) (topic : Topic) (graph : Graph) :
    Except Abort Answer → Prop where
  | aborts (stuck : Stuck topic graph) :
      Answers settings topic graph (.error (.noReport .beyondDoubles))
  | fails {stdout stderr : String} (free : ¬ Stuck topic graph)
      (fails : Fails settings topic graph) (silent : topic ≠ .validate → stdout = "") :
      Answers settings topic graph (.ok ⟨⟨1, stdout, stderr⟩, none⟩)
  | succeeds {stdout stderr : String} (free : ¬ Stuck topic graph)
      (passes : ¬ Fails settings topic graph) :
      Answers settings topic graph (.ok ⟨⟨0, stdout, stderr⟩, none⟩)

variable {settings : Settings} {topic : Topic} {document : Document}

section Runs

variable {tree : FileTree} {arguments : List String} {invocation : Invocation}
  {bytes : List UInt8} {loaded : Loaded}

/-- What a command makes of a file: it breaks off, or it ends and saves nothing. -/
inductive Ends (settings : Settings) (topic : Topic) (bytes : List UInt8) :
    Except Abort Answer → Prop where
  | aborted {abort : Abort} (only : ∀ other, Aborts topic bytes other ↔ other = abort) :
      Ends settings topic bytes (.error abort)
  | ended {output : Output} (free : ∀ abort, ¬ Aborts topic bytes abort)
      (told : EndsAs settings topic bytes output) : Ends settings topic bytes (.ok ⟨output, none⟩)

variable (given : readArguments arguments = .ok invocation)
  (named : hasNull invocation.file = false)
  (found : tree.read (FilePath.ofString invocation.file) = .ok bytes)

include given named found

end Runs

end CommandLine

end SceneScript
