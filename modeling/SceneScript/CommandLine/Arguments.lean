import SceneScript.CommandLine.Options

/-!
Arguments of the command line: options before the command, and the file and options after it. What
stops the reading is a request for help or for the version, or a fault.
-/

namespace SceneScript.CommandLine

/-- What help and faults are about: the program, or one of its commands. -/
inductive Topic where
  | program
  | validate
  | compile
  | package
  deriving DecidableEq, Repr

namespace Topic

def commandName : Topic → String
  | program => ""
  | validate => "validate"
  | compile => "compile"
  | package => "export"

def commands : List Topic := [validate, compile, package]

def helpOption : OptionSpec := { names := ["-h", "--help"], switch := .help }

def options : Topic → List OptionSpec
  | program =>
      [helpOption, { names := ["--version"], switch := .version },
        { names := ["--log-level"], switch := .logLevel, takesValue := true }]
  | validate => [helpOption, { names := ["--show-tips"], switch := .showTips }]
  | compile => [helpOption]
  | package => [helpOption, { names := ["-o", "--output"], switch := .output, takesValue := true }]

end Topic

inductive Fault where
  | ambiguous (word : String) (names : List String)
  | noValue (option : OptionSpec)
  | unwantedValue (option : OptionSpec) (text : String)
  | unknownLevel (level : String)
  | unknownCommand (name : String)
  | missing (argument : String)
  | unrecognized (words : List String)

def quotedChoices (choices : List String) : String :=
  String.intercalate ", " (choices.map Text.quoted)

def Fault.message : Fault → String
  | ambiguous word names =>
      let list := String.intercalate ", " names
      s!"ambiguous option: {word} could match {list}"
  | noValue option => s!"argument {option.title}: expected one argument"
  | unwantedValue option text =>
      s!"argument {option.title}: ignored explicit argument {Text.quoted text}"
  | unknownLevel level =>
      s!"argument --log-level: invalid choice: {Text.quoted level} " ++
        s!"(choose from {quotedChoices Settings.logLevels})"
  | unknownCommand name =>
      let names := Topic.commands.map Topic.commandName
      s!"argument command: invalid choice: {Text.quoted name} " ++
        s!"(choose from {quotedChoices names})"
  | missing argument => s!"the following arguments are required: {argument}"
  | unrecognized words => "unrecognized arguments: " ++ String.intercalate " " words

inductive Stop where
  | help (topic : Topic)
  | version
  | fault (topic : Topic) (fault : Fault)

/-- What the options of one topic have set so far. -/
structure Choices where
  logLevel : Option String := none
  showTips : Bool := false
  output : Option String := none

/-- Options take effect one by one, so that the first one that stops the reading wins. -/
def Choices.apply (topic : Topic) (choices : Choices) (spec : OptionSpec) (value : String) :
    Except Stop Choices :=
  match spec.switch with
  | .help => .error (.help topic)
  | .version => .error .version
  | .showTips => .ok { choices with showTips := true }
  | .output => .ok { choices with output := some value }
  | .logLevel =>
      let level := Text.upper value
      if level ∈ Settings.logLevels then .ok { choices with logLevel := some level }
      else .error (.fault topic (.unknownLevel level))

structure Gathered where
  choices : Choices := {}
  extras : List String := []

def applyAll (topic : Topic) (choices : Choices) (specs : List OptionSpec) :
    Except Stop Choices :=
  specs.foldlM (fun choices spec => choices.apply topic spec "") choices

/-- Takes an option, and the next word if the option needs it as its value; returns the words that
are left. -/
def takeOption (topic : Topic) (gathered : Gathered) (reading : Reading) (rest : List Word) :
    Except Stop (Gathered × List Word) :=
  let (specs, last) := reading.joined topic.options
  let apply (spec : OptionSpec) (value : String) (rest : List Word) := do
    let choices ← applyAll topic gathered.choices specs
    let choices ← choices.apply topic spec value
    .ok ({ gathered with choices }, rest)
  match last with
  | .unwanted spec text => .error (.fault topic (.unwantedValue spec text))
  | .value spec text => apply spec text rest
  | .bare spec =>
      if spec.takesValue then
        match rest with
        | .plain text :: rest => apply spec text rest
        | _ => .error (.fault topic (.noValue spec))
      else apply spec "" rest

theorem takeOption_length {topic : Topic} {gathered after : Gathered} {reading : Reading}
    {words rest : List Word} (taken : takeOption topic gathered reading words = .ok (after, rest)) :
    rest.length ≤ words.length := by
  have same : ∀ {choices : Except Stop Choices} {build : Choices → Except Stop Choices}
      {left : List Word} {make : Choices → Gathered},
      (choices >>= fun c => build c >>= fun d => Except.ok (make d, left)) = .ok (after, rest) →
        rest = left := by
    intro choices build left make eq
    cases choices with
    | error stop => cases eq
    | ok c =>
      cases built : build c with
      | error stop => simp [bind, Except.bind, built] at eq
      | ok d =>
        simp only [bind, Except.bind, built, Except.ok.injEq, Prod.mk.injEq] at eq
        exact eq.2.symm
  unfold takeOption at taken
  split at taken
  rename_i specs last _
  simp only at taken
  split at taken
  · cases taken
  · exact Nat.le_of_eq (congrArg _ (same taken))
  · split at taken
    · split at taken
      · rename_i text left
        rw [same taken]
        exact Nat.le_succ _
      · cases taken
    · exact Nat.le_of_eq (congrArg _ (same taken))

/-- The words after a command. The first plain word is the file; a separator beside it is dropped,
and all that is left over is collected. -/
def gather (topic : Topic) (file : Option String) (gathered : Gathered) (words : List Word) :
    Except Stop (Option String × Gathered) :=
  match words with
  | [] => .ok (file, gathered)
  | .plain text :: rest =>
      match file, rest with
      | none, .separator :: rest => gather topic (some text) gathered rest
      | none, rest => gather topic (some text) gathered rest
      | some _, rest =>
          gather topic file { gathered with extras := gathered.extras ++ [text] } rest
  | .separator :: rest =>
      match file, rest with
      | none, .plain text :: rest => gather topic (some text) gathered rest
      | _, rest => gather topic file { gathered with extras := gathered.extras ++ ["--"] } rest
  | .option text none :: rest =>
      gather topic file { gathered with extras := gathered.extras ++ [text] } rest
  | .option _ (some reading) :: rest =>
      match _taken : takeOption topic gathered reading rest with
      | .error stop => .error stop
      | .ok (gathered, left) => gather topic file gathered left
termination_by words.length
decreasing_by
  all_goals first
    | exact Nat.lt_succ_of_le (takeOption_length _taken)
    | (simp only [List.length_cons]; omega)

structure Invocation where
  topic : Topic
  file : String
  choices : Choices
  logLevel : Option String

/-- The words of a command, with what the program itself was given before it. -/
def readCommand (before : Gathered) (topic : Topic) (texts : List String) :
    Except Stop Invocation :=
  match readWords topic.options texts with
  | .error (word, names) => .error (.fault topic (.ambiguous word names))
  | .ok words =>
      match gather topic none {} words with
      | .error stop => .error stop
      | .ok (none, _) => .error (.fault topic (.missing "file"))
      | .ok (some file, gathered) =>
          match before.extras ++ gathered.extras with
          | [] =>
              .ok
                { topic, file, choices := gathered.choices, logLevel := before.choices.logLevel }
          | extras => .error (.fault .program (.unrecognized extras))

def selectCommand (before : Gathered) (name : String) (texts : List String) :
    Except Stop Invocation :=
  match Topic.commands.find? (·.commandName == name) with
  | some topic => readCommand before topic texts
  | none => .error (.fault .program (.unknownCommand name))

/-- Options up to the first plain word, which names the command and takes all words after it. -/
def readProgram (gathered : Gathered) (words : List Word) : Except Stop Invocation :=
  match words with
  | .plain name :: rest => selectCommand gathered name (rest.map Word.text)
  | .separator :: _ :: _ => .error (.fault .program (.unknownCommand "--"))
  | .option text none :: rest =>
      readProgram { gathered with extras := gathered.extras ++ [text] } rest
  | .option _ (some reading) :: rest =>
      match _taken : takeOption .program gathered reading rest with
      | .error stop => .error stop
      | .ok (gathered, left) => readProgram gathered left
  | _ => .error (.fault .program (.missing "command"))
termination_by words.length
decreasing_by
  all_goals first
    | exact Nat.lt_succ_of_le (takeOption_length _taken)
    | exact Nat.lt_succ_self _

def readArguments (texts : List String) : Except Stop Invocation :=
  match readWords (Topic.options .program) texts with
  | .error (word, names) => .error (.fault .program (.ambiguous word names))
  | .ok words => readProgram {} words

end SceneScript.CommandLine
