import SceneScript.Compile.Walk
import SceneScript.Export.Envelope
import SceneScript.Report.Basic
import SceneScript.Document

/-!
Exporting a document: report, refuse on errors, compile, wrap.
-/

namespace SceneScript

inductive ExportError where
  | noReport (fault : NumberFault)
  | blocked (report : Report)
  | failed (error : CompileError)

namespace Report

def summary (report : Report) : String :=
  s!"Cannot export; graph has {report.errors.length} error(s)"

/-- The errors, one a line. -/
def refusal (report : Report) : String :=
  report.summary ++ ":\n" ++
    String.intercalate "\n" (report.errors.map fun finding => "- " ++ finding.message)

end Report

def Document.exported (settings : Settings) (document : Document) :
    Except ExportError Envelope :=
  match Report.ofGraph settings document.graph with
  | .error fault => .error (.noReport fault)
  | .ok report =>
      if report.hasErrors then .error (.blocked report)
      else
        match compile settings document.graph with
        | .error error => .error (.failed error)
        | .ok actions =>
            .ok (.ofActions settings (some document.title) (Action.listJson actions))

end SceneScript
