import SceneScript.Settings.Basic
import SceneScript.Text.Digit
import SceneScript.Text.Quoted

/-!
Options of the command line and how a word is read as one. A long option may be shortened as long
as it stays unambiguous, and takes its value after an equals sign or as the next word; short
options may be joined, and take their value without a space too.
-/

namespace SceneScript.CommandLine

inductive Switch where
  | help
  | version
  | logLevel
  | showTips
  | output
  deriving DecidableEq, Repr

structure OptionSpec where
  names : List String
  switch : Switch
  takesValue : Bool := false

def OptionSpec.title (spec : OptionSpec) : String := String.intercalate "/" spec.names

/-- A word with the option that it names. A value in the same word comes after an equals sign, or
directly after a short option. -/
structure Reading where
  spec : OptionSpec
  name : String
  value : Option (List Char) := none

inductive Word where
  | separator
  | plain (text : String)
  | option (text : String) (reading : Option Reading)

def Word.text : Word → String
  | separator => "--"
  | plain text => text
  | option text _ => text

def find? (specs : List OptionSpec) (name : String) : Option OptionSpec :=
  specs.find? fun spec => spec.names.contains name

def namedSpecs (specs : List OptionSpec) : List (String × OptionSpec) :=
  specs.flatMap fun spec => spec.names.map fun name => (name, spec)

/-- The name before the first equals sign, and what follows it. -/
def splitEquals (chars : List Char) : List Char × Option (List Char) :=
  match chars.dropWhile (· != '=') with
  | _ :: value => (chars.takeWhile (· != '='), some value)
  | [] => (chars, none)

def isLong : List Char → Bool
  | '-' :: '-' :: _ => true
  | _ => false

/-- The options that a word may stand for without naming one in full. -/
def candidates (specs : List OptionSpec) (chars : List Char) : List Reading :=
  let (start, value) := splitEquals chars
  (namedSpecs specs).filterMap fun (name, spec) =>
    if isLong chars then
      if start.isPrefixOf name.toList then
        some { spec, name, value }
      else none
    else if name.toList = chars.take 2 then some { spec, name, value := some (chars.drop 2) }
    else if chars.isPrefixOf name.toList then some { spec, name }
    else none

/-- A minus, digits and at most one point before some of them, and perhaps an end of line. -/
def isNegativeNumber : List Char → Bool
  | '-' :: rest =>
      let number := if rest.getLast? = some '\n' then rest.dropLast else rest
      match number.dropWhile Text.isDigit with
      | [] => !number.isEmpty
      | '.' :: fraction => !fraction.isEmpty && fraction.all Text.isDigit
      | _ => false
  | _ => false

/-- The candidates' names, where there is more than one. -/
def readWord (specs : List OptionSpec) (text : String) : Except (List String) Word :=
  let chars := text.toList
  if chars.head? ≠ some '-' ∨ chars.length = 1 then .ok (.plain text)
  else
    match find? specs text with
    | some spec => .ok (.option text (some { spec, name := text }))
    | none =>
        let (start, value) := splitEquals chars
        let name := String.ofList start
        match value, find? specs name with
        | some value, some spec =>
            .ok (.option text (some { spec, name, value := some value }))
        | _, _ =>
            match candidates specs chars with
            | [] =>
                if isNegativeNumber chars || chars.contains ' ' then .ok (.plain text)
                else .ok (.option text none)
            | [reading] => .ok (.option text (some reading))
            | several => .error (several.map Reading.name)

/-- Nothing after a separator is an option. -/
def readWords (specs : List OptionSpec) : List String → Except (String × List String) (List Word)
  | [] => .ok []
  | text :: rest =>
      if text = "--" then .ok (.separator :: rest.map .plain)
      else
        match readWord specs text with
        | .error names => .error (text, names)
        | .ok word => (word :: ·) <$> readWords specs rest

/-- How a word of joined options ends. -/
inductive JoinedEnd where
  | bare (spec : OptionSpec)
  | value (spec : OptionSpec) (text : String)
  | unwanted (spec : OptionSpec) (text : String)

/-- The options without values at the front of a word, and how the word ends. -/
def joined (specs : List OptionSpec) (spec : OptionSpec) (short : Bool) :
    List Char → List OptionSpec × JoinedEnd
  | [] => if spec.takesValue then ([], .value spec "") else ([], .unwanted spec "")
  | c :: rest =>
      let text := String.ofList (c :: rest)
      if spec.takesValue then ([], .value spec text)
      else
        match short, find? specs (String.ofList ['-', c]), rest with
        | true, some next, [] => ([spec], .bare next)
        | true, some next, d :: more =>
            let (specs, last) := joined specs next true (d :: more)
            (spec :: specs, last)
        | _, _, _ => ([], .unwanted spec text)

def Reading.joined (specs : List OptionSpec) (reading : Reading) :
    List OptionSpec × JoinedEnd :=
  match reading.value with
  | none => ([], .bare reading.spec)
  | some value =>
      CommandLine.joined specs reading.spec (!isLong reading.name.toList) value

end SceneScript.CommandLine
