import SceneScript.Export.Slug
import SceneScript.Json.Writer
import SceneScript.Settings.Basic

/-!
The exported scene: a versioned envelope around an action list. Its text is JSON in which doubles
that JSON does not know are null.
-/

namespace SceneScript

structure Envelope where
  sceneId : String
  fps : Int
  actions : List Json

namespace Envelope

def version : Nat := 1

def ofActions (settings : Settings) (title : Option String) (actions : List Json) : Envelope where
  sceneId := slug title settings.untitledId
  fps := settings.exportFps
  actions

/-- Actions of unknown origin have to be a list of objects. -/
def checkActions (actions : Json) : Checked (List Json) :=
  (Field.list (fun action => Json.obj <$> Field.object action) actions).under (.key "actions")

def toJson (envelope : Envelope) : Json :=
  .obj
    [("schema_version", .int version), ("cutscene_id", .str envelope.sceneId),
      ("settings", .obj [("fps", .int envelope.fps)]), ("actions", .arr envelope.actions)]

def text (envelope : Envelope) : String := envelope.toJson.finite.write

end Envelope

end SceneScript
