import SceneScript.Export.Basic

/-!
The request handlers of the service. Each takes a document value and answers with a status and a
body; nothing is kept between requests. Doubles that JSON does not know are null in every body.
-/

namespace SceneScript

structure Response where
  status : Nat
  body : Json

namespace Service

def version : String := "1.0.0"

inductive Request where
  | health
  | info
  | report (document : Json)
  | compile (document : Json)
  | envelope (document : Json)

def Request.ofRoute? (route : String) (document : Json) : Option Request :=
  match route with
  | "/health" => some .health
  | "/info" => some .info
  | "/cutscenes/validate" => some (.report document)
  | "/cutscenes/compile" => some (.compile document)
  | "/cutscenes/export" => some (.envelope document)
  | _ => none

def findingJson (finding : Finding) : Json :=
  .obj
    [("severity", .str finding.severity.label), ("nodeId", .ofOption finding.nodeId?),
      ("edgeId", .ofOption finding.edgeId?), ("message", .str finding.message)]

def reportJson (report : Report) : Json :=
  .obj
    [("entries", .arr (report.findings.map findingJson)), ("hasErrors", .bool report.hasErrors)]

/-- What came of compiling a graph; a failure leaves the list of actions empty. -/
def outcomeJson (graph : Graph) (outcome : Except CompileError (List Action)) : Json :=
  let actions := match outcome with
    | .ok actions => Action.listJson actions
    | .error _ => []
  let error? := match outcome with
    | .ok _ => none
    | .error error => some error
  .obj
    [("success", .bool error?.isNone), ("node_count", .int graph.nodes.length),
      ("edge_count", .int graph.edges.length), ("action_count", .int actions.length),
      ("actions", .arr actions), ("error", .str ((error?.map CompileError.message).getD "")),
      ("error_kind", .str ((error?.map fun error => error.kind.label).getD "")),
      ("error_node_id", .ofOption (error?.bind CompileError.nodeId?)),
      ("error_edge_id", .ofOption (error?.bind CompileError.edgeId?))]

def ok (body : Json) : Response := ⟨200, body.finite⟩

def refuse (status : Nat) (detail : Json) : Response := ⟨status, .obj [("detail", detail)]⟩

def failureJson (error : CompileError) : Json :=
  .obj
    [("message", .str error.message), ("kind", .str error.kind.label),
      ("nodeId", .ofOption error.nodeId?), ("edgeId", .ofOption error.edgeId?)]

def blockedJson (report : Report) : Json :=
  .obj
    [("message", .str report.summary), ("errors", .arr (report.errors.map findingJson))]

def exportResponse (settings : Settings) (document : Document) : Except NumberFault Response :=
  match document.exported settings with
  | .ok envelope => .ok (ok envelope.toJson)
  | .error (.blocked report) => .ok (refuse 409 (blockedJson report))
  | .error (.failed error) => .ok (refuse 422 (failureJson error))
  | .error (.noReport fault) => .error fault

/-- A document that cannot be loaded is a bad request. -/
def withDocument (value : Json) (answer : Document → Except NumberFault Response) :
    Except NumberFault Response :=
  match Document.load value with
  | .ok loaded => answer loaded.document
  | .error fault => .ok (refuse 400 (.str (fault.message "")))

def respond (settings : Settings) : Request → Except NumberFault Response
  | .health => .ok (ok (.obj [("status", .str "ok"), ("schema_version", .int Envelope.version)]))
  | .info =>
      .ok (ok (.obj
        [("name", .str "cutscene-toolkit"), ("version", .str version),
          ("schema_version", .int Envelope.version), ("export_fps", .int settings.exportFps)]))
  | .report value =>
      withDocument value fun document => do
        let report ← Report.ofGraph settings document.graph
        .ok (ok (reportJson report))
  | .compile value =>
      withDocument value fun document =>
        .ok (ok (outcomeJson document.graph (compile settings document.graph)))
  | .envelope value => withDocument value (exportResponse settings)

end Service

end SceneScript
