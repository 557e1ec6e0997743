import SceneScript.CommandLine.Arguments

/-!
The usage and help texts of the program and its commands, laid out for 80 columns.
-/

namespace SceneScript.CommandLine

def programVersion : String := "1.0.0"

namespace Topic

def title : Topic → String
  | program => "cutscene"
  | topic => "cutscene " ++ topic.commandName

def usage : Topic → String
  | program =>
      "usage: cutscene [-h] [--version]\n" ++
        "                [--log-level \x7bDEBUG,INFO,WARNING,ERROR,CRITICAL\x7d]\n" ++
        "                \x7bvalidate,compile,export\x7d ...\n"
  | validate => "usage: cutscene validate [-h] [--show-tips] file\n"
  | compile => "usage: cutscene compile [-h] file\n"
  | package => "usage: cutscene export [-h] [-o OUTPUT] file\n"

/-- What help says after the usage. The program's names the level that is used by default. -/
def details (logLevel : String) : Topic → String
  | program =>
      "\nValidate, compile and export cutscene graphs for the engine.\n" ++
        "\npositional arguments:\n" ++
        "  \x7bvalidate,compile,export\x7d\n" ++
        "    validate            Report validator diagnostics for a document.\n" ++
        "    compile             Print the compiled action list as JSON.\n" ++
        "    export              Validate, compile and write the export envelope.\n" ++
        "\noptions:\n" ++
        "  -h, --help            show this help message and exit\n" ++
        "  --version             show program's version number and exit\n" ++
        "  --log-level \x7bDEBUG,INFO,WARNING,ERROR,CRITICAL\x7d\n" ++
        s!"                        Logging level (default: {logLevel}, from\n" ++
        "                        CUTSCENE_LOG_LEVEL).\n"
  | validate =>
      "\npositional arguments:\n  file\n\noptions:\n" ++
        "  -h, --help   show this help message and exit\n" ++
        "  --show-tips  Also print advisory tips (hidden by default).\n"
  | compile =>
      "\npositional arguments:\n  file\n\noptions:\n" ++
        "  -h, --help  show this help message and exit\n"
  | package =>
      "\npositional arguments:\n  file\n\noptions:\n" ++
        "  -h, --help            show this help message and exit\n" ++
        "  -o OUTPUT, --output OUTPUT\n" ++
        "                        Write the envelope here instead of stdout.\n"

def help (logLevel : String) (topic : Topic) : String := topic.usage ++ topic.details logLevel

end Topic

end SceneScript.CommandLine
