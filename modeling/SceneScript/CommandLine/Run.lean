import SceneScript.CommandLine.Usage
import SceneScript.Export.Basic
import SceneScript.FileTree

/-!
What the commands answer. The exit code is 0 for success, 1 for a scene with errors or one that
cannot be compiled, and 2 for arguments or input that cannot be read.
-/

namespace SceneScript.CommandLine

structure Output where
  exitCode : Nat
  stdout : String := ""
  stderr : String := ""

/-- What ends the program without an exit code of its own. -/
inductive Abort where
  | numeralTooLong (fault : DocumentFault)
  | noReport (fault : NumberFault)
  | access (fault : AccessFault) (path : String)
  | nullInPath

def Abort.message : Abort → String
  | numeralTooLong fault => fault.message ""
  | noReport fault => fault.message
  | access fault path => fault.message path
  | nullInPath => "embedded null byte"

/-- An answer may ask for a text to be saved before it is given. -/
structure Answer where
  output : Output
  save : Option (FilePath × String) := none

def Answer.failed (code : Nat) (stderr : String) : Answer := ⟨⟨code, "", stderr⟩, none⟩

/-- An id that is empty places nothing. -/
def location (nodeId edgeId : Option String) : String :=
  match nodeId.getD "", edgeId.getD "" with
  | "", "" => ""
  | "", edge => s!" [edge {edge}]"
  | node, _ => s!" [node {node}]"

def findingLine (finding : Finding) : String :=
  s!"{finding.severity.label}:{location finding.nodeId? finding.edgeId?} {finding.message}\n"

def failureLine (error : CompileError) : String :=
  s!"error ({error.kind.label}):{location error.nodeId? error.edgeId?} {error.message}\n"

def countsLine (file : FilePath) (report : Report) : String :=
  let warnings := (report.withSeverity .warning).length
  let tips := (report.withSeverity .tip).length
  s!"{file.text}: {report.errors.length} error(s), {warnings} warning(s), {tips} tip(s)\n"

def validate (settings : Settings) (showTips : Bool) (file : FilePath) (document : Document) :
    Except Abort Answer :=
  match Report.ofGraph settings document.graph with
  | .error fault => .error (.noReport fault)
  | .ok report =>
      let shown := report.findings.filter fun finding => showTips || finding.severity != .tip
      .ok
        { output :=
            { exitCode := if report.hasErrors then 1 else 0
              stdout := String.join (shown.map findingLine)
              stderr := countsLine file report } }

def compileOnly (settings : Settings) (document : Document) : Answer :=
  match SceneScript.compile settings document.graph with
  | .error error => .failed 1 (failureLine error)
  | .ok actions =>
      { output := { exitCode := 0, stdout := (Json.arr (Action.listJson actions)).write ++ "\n" } }

def package (settings : Settings) (output : Option String) (document : Document) :
    Except Abort Answer :=
  match document.exported settings with
  | .error (.noReport fault) => .error (.noReport fault)
  | .error (.blocked report) =>
      let lines := String.join (report.errors.map findingLine)
      .ok (.failed 1 (lines ++ s!"Cannot export: fix {report.errors.length} error(s) first.\n"))
  | .error (.failed error) => .ok (.failed 1 (failureLine error))
  | .ok envelope =>
      match output.map FilePath.ofString with
      | none => .ok { output := { exitCode := 0, stdout := envelope.text ++ "\n" } }
      | some path =>
          let notice := s!"Exported {envelope.sceneId} -> {path.text}\n"
          .ok
            { output := { exitCode := 0, stderr := notice }
              save := some (path, envelope.text ++ "\n") }

/-- A numeral that is too long ends the program; other faults of the document are reported. -/
def withDocument (file : FilePath) (content : Except AccessFault (List UInt8))
    (answer : Document → Except Abort Answer) : Except Abort Answer :=
  match content with
  | .error fault => .ok (.failed 2 s!"error: cannot read {file.text}: {fault.reason}\n")
  | .ok bytes =>
      match Document.ofBytes bytes with
      | .ok loaded => answer loaded.document
      | .error (.numeralTooLong digits) => .error (.numeralTooLong (.numeralTooLong digits))
      | .error fault => .ok (.failed 2 s!"error: {fault.message file.text}\n")

def answer (settings : Settings) (invocation : Invocation)
    (content : Except AccessFault (List UInt8)) : Except Abort Answer :=
  let file := FilePath.ofString invocation.file
  withDocument file content fun document =>
    match invocation.topic with
    | .validate => validate settings invocation.choices.showTips file document
    | .package => package settings invocation.choices.output document
    | _ => .ok (compileOnly settings document)

def stopOutput (settings : Settings) : Stop → Output
  | .help topic => { exitCode := 0, stdout := topic.help settings.logLevel }
  | .version => { exitCode := 0, stdout := s!"cutscene {programVersion}\n" }
  | .fault topic fault =>
      { exitCode := 2, stderr := topic.usage ++ s!"{topic.title}: error: {fault.message}\n" }

def hasNull (text : String) : Bool := text.toList.contains '\x00'

def located {α : Type} : FileTree.Change α → Except Abort α
  | .ok value => .ok value
  | .error (fault, place) => .error (.access fault place)

/-- Saves a text, in a directory that is made if need be. -/
def save (tree : FileTree) (path : FilePath) (text : String) : Except Abort FileTree :=
  if hasNull path.parent.text then .error .nullInPath
  else do
    let tree ← located (tree.makeDirectory path.parent)
    if hasNull path.text then .error .nullInPath else located (tree.save path text)

/-- One run of the program over a tree of files. -/
def run (settings : Settings) (tree : FileTree) (arguments : List String) :
    Except Abort (Output × FileTree) :=
  match readArguments arguments with
  | .error stop => .ok (stopOutput settings stop, tree)
  | .ok invocation =>
      if hasNull invocation.file then .error .nullInPath
      else do
        let content := tree.read (FilePath.ofString invocation.file)
        let answer ← answer settings invocation content
        match answer.save with
        | none => .ok (answer.output, tree)
        | some (path, text) =>
            let tree ← save tree path text
            .ok (answer.output, tree)

end SceneScript.CommandLine
