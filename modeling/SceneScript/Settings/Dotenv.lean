import SceneScript.Table
import SceneScript.Text.Blank
import SceneScript.Text.Split
import SceneScript.Text.Utf8

/-!
Dotenv files: names, most of them with a value. A value in quotes may run over several lines, and a
value may refer to names that were given before. A line that cannot be read is left out, and
reading goes on behind it: `entry_length` says that every entry uses up some of the text.
-/

namespace SceneScript.Dotenv

structure Binding where
  name : String
  value : Option String

/-- A blank within a line. -/
def isGap (c : Char) : Bool := Text.isBlank c && c != '\n'

def skipLine (chars : List Char) : List Char := (chars.dropWhile (· != '\n')).drop 1

/-- The next line, if nothing but a comment is left of this one. -/
def lineEnd? (chars : List Char) : Option (List Char) :=
  match chars.dropWhile isGap with
  | [] => some []
  | '\n' :: rest => some rest
  | '#' :: rest => some (skipLine rest)
  | _ => none

/-- The word that a shell wants before a name. -/
def skipExport (chars : List Char) : List Char :=
  match Text.dropCharsStart? "export".toList chars with
  | some (c :: rest) => if isGap c then rest.dropWhile isGap else chars
  | _ => chars

def isNameChar (c : Char) : Bool := c != '=' && c != '#' && !Text.isBlank c

/-- A name that is not empty, in single quotes or up to a blank, an equals sign or a hash. -/
def name? : List Char → Option (List Char × List Char)
  | '\'' :: inner =>
      match inner.takeWhile (· != '\''), inner.dropWhile (· != '\'') with
      | c :: name, _ :: rest => some (c :: name, rest)
      | _, _ => none
  | chars =>
      match chars.takeWhile isNameChar with
      | [] => none
      | c :: name => some (c :: name, chars.dropWhile isNameChar)

/-- The text up to the closing quote. A quote behind a backslash closes only if no other one does. -/
def quoted? (quote : Char) : List Char → Option (List Char × List Char)
  | [] => none
  | '\\' :: c :: rest =>
      if c = quote then
        match quoted? quote rest with
        | some (text, left) => some ('\\' :: c :: text, left)
        | none => some (['\\'], rest)
      else
        match quoted? quote (c :: rest) with
        | some (text, left) => some ('\\' :: text, left)
        | none => none
  | c :: rest =>
      if c = quote then some ([], rest)
      else
        match quoted? quote rest with
        | some (text, left) => some (c :: text, left)
        | none => none

def singleEscape? (c : Char) : Option Char := if c = '\\' ∨ c = '\'' then some c else none

def doubleEscape? (c : Char) : Option Char :=
  match c with
  | 'a' => some '\x07'
  | 'b' => some '\x08'
  | 'f' => some '\x0c'
  | 'n' => some '\n'
  | 'r' => some '\r'
  | 't' => some '\t'
  | 'v' => some '\x0b'
  | c => if c = '\\' ∨ c = '\'' ∨ c = '"' then some c else none

/-- A backslash before any other character stands for itself. -/
def unescape (escape? : Char → Option Char) : List Char → List Char
  | [] => []
  | '\\' :: c :: rest =>
      match escape? c with
      | some meant => meant :: unescape escape? rest
      | none => '\\' :: unescape escape? (c :: rest)
  | c :: rest => c :: unescape escape? rest

/-- A hash after a blank begins a comment. -/
def withoutComment : List Char → List Char
  | [] => []
  | c :: rest =>
      if Text.isBlank c ∧ rest.head? = some '#' then [] else c :: withoutComment rest

/-- The value after an equals sign. -/
def value? (chars : List Char) : Option (String × List Char) :=
  match chars.dropWhile isGap with
  | '\'' :: rest =>
      (quoted? '\'' rest).map fun (text, left) => (String.ofList (unescape singleEscape? text), left)
  | '"' :: rest =>
      (quoted? '"' rest).map fun (text, left) => (String.ofList (unescape doubleEscape? text), left)
  | _ =>
      let line := chars.takeWhile (· != '\n')
      some (Text.trim (String.ofList (withoutComment line)), chars.dropWhile (· != '\n'))

def finish (binding : Binding) (chars : List Char) : Option Binding × List Char :=
  match lineEnd? chars with
  | some rest => (some binding, rest)
  | none => (none, skipLine chars)

/-- One binding, or nothing for a comment or an unreadable line, and the text behind it. -/
def entry (chars : List Char) : Option Binding × List Char :=
  let body := skipExport chars
  match name? body with
  | none => (none, skipLine body)
  | some (chars, rest) =>
      let name := String.ofList chars
      match rest.dropWhile isGap with
      | '=' :: given =>
          match value? given with
          | some (value, left) => finish ⟨name, some value⟩ left
          | none => (none, skipLine given)
      | _ => finish ⟨name, none⟩ rest

theorem dropWhile_length (drops : Char → Bool) (chars : List Char) :
    (chars.dropWhile drops).length ≤ chars.length :=
  (List.dropWhile_sublist drops).length_le

theorem skipLine_length (chars : List Char) : (skipLine chars).length ≤ chars.length - 1 := by
  have shorter := dropWhile_length (· != '\n') chars
  simp only [skipLine, List.length_drop]
  omega

theorem lineEnd?_length {chars rest : List Char} (ended : lineEnd? chars = some rest) :
    rest.length ≤ chars.length := by
  have shorter := dropWhile_length isGap chars
  unfold lineEnd? at ended
  split at ended
  · cases ended
    exact Nat.zero_le _
  · rename_i left eq
    cases ended
    rw [eq] at shorter
    exact Nat.le_of_succ_le shorter
  · rename_i left eq
    cases ended
    rw [eq] at shorter
    have skipped := skipLine_length left
    simp only [List.length_cons] at shorter
    omega
  · cases ended

theorem skipExport_length (chars : List Char) : (skipExport chars).length ≤ chars.length := by
  unfold skipExport
  split
  · rename_i c rest eq
    have whole := (Text.dropCharsStart?_eq_some_iff _ _ _).1 eq
    split
    · have shorter := dropWhile_length isGap rest
      rw [whole]
      simp only [List.length_append, List.length_cons]
      omega
    · exact Nat.le_refl _
  · exact Nat.le_refl _

theorem name?_length {chars name rest : List Char} (named : name? chars = some (name, rest)) :
    rest.length < chars.length := by
  unfold name? at named
  split at named
  · rename_i inner
    split at named
    · rename_i c taken d left _ eq
      cases named
      have shorter := dropWhile_length (· != '\'') inner
      rw [eq] at shorter
      simp only [List.length_cons] at shorter ⊢
      omega
    · cases named
  · split at named
    · cases named
    · rename_i c taken eq
      cases named
      have parts := congrArg List.length (@List.takeWhile_append_dropWhile _ isNameChar chars)
      rw [eq] at parts
      simp only [List.length_append, List.length_cons] at parts
      omega

theorem quoted?_length {quote : Char} {chars text rest : List Char}
    (closed : quoted? quote chars = some (text, rest)) : rest.length ≤ chars.length := by
  fun_induction quoted? quote chars generalizing text rest with
  | case1 => cases closed
  | case2 left inner after found ih =>
    cases closed
    have := ih found
    simp only [List.length_cons]
    omega
  | case3 left unclosed ih =>
    cases closed
    simp only [List.length_cons]
    omega
  | case4 c left other inner after found ih =>
    cases closed
    have := ih found
    simp only [List.length_cons] at this ⊢
    omega
  | case5 => cases closed
  | case6 =>
    cases closed
    simp
  | case7 c left _ other inner after found ih =>
    cases closed
    have := ih found
    simp only [List.length_cons]
    omega
  | case8 => cases closed

theorem value?_length {chars rest : List Char} {value : String}
    (given : value? chars = some (value, rest)) : rest.length ≤ chars.length := by
  have shorter := dropWhile_length isGap chars
  unfold value? at given
  split at given
  · rename_i left eq
    obtain ⟨⟨text, after⟩, closed, same⟩ := Option.map_eq_some_iff.1 given
    cases same
    have := quoted?_length closed
    rw [eq] at shorter
    simp only [List.length_cons] at shorter
    omega
  · rename_i left eq
    obtain ⟨⟨text, after⟩, closed, same⟩ := Option.map_eq_some_iff.1 given
    cases same
    have := quoted?_length closed
    rw [eq] at shorter
    simp only [List.length_cons] at shorter
    omega
  · simp only [Option.some.injEq, Prod.mk.injEq] at given
    rw [← given.2]
    exact dropWhile_length _ _

theorem finish_length (binding : Binding) (chars : List Char) :
    (finish binding chars).2.length ≤ chars.length := by
  unfold finish
  split
  · rename_i ended
    exact lineEnd?_length ended
  · have := skipLine_length chars
    simp only
    omega

theorem entry_length (c : Char) (rest : List Char) : (entry (c :: rest)).2.length ≤ rest.length := by
  have exported := skipExport_length (c :: rest)
  simp only [List.length_cons] at exported
  unfold entry
  simp only
  split
  · have := skipLine_length (skipExport (c :: rest))
    simp only
    omega
  · rename_i name left named
    have shorter := name?_length named
    have gap := dropWhile_length isGap left
    split
    · rename_i given eq
      rw [eq] at gap
      simp only [List.length_cons] at gap
      split
      · rename_i value after found
        have := value?_length found
        have := finish_length ⟨String.ofList name, some value⟩ after
        omega
      · have := skipLine_length given
        simp only
        omega
    · have := finish_length ⟨String.ofList name, none⟩ left
      omega

def bindings (chars : List Char) : List Binding :=
  match _body : chars.dropWhile Text.isBlank with
  | [] => []
  | c :: rest => (entry (c :: rest)).1.toList ++ bindings (entry (c :: rest)).2
termination_by chars.length
decreasing_by
  have shorter := dropWhile_length Text.isBlank chars
  rw [_body] at shorter
  exact Nat.lt_of_le_of_lt (entry_length c rest) shorter

/-- A reference behind its opening brace: a name, what stands for it where it is not given, and the
text after the closing brace. -/
def reference? (chars : List Char) : Option (String × List Char × List Char) :=
  let name := String.ofList (chars.takeWhile fun c => c != '}' && c != ':')
  match chars.dropWhile fun c => c != '}' && c != ':' with
  | '}' :: rest => some (name, [], rest)
  | ':' :: '-' :: more =>
      match more.dropWhile (· != '}') with
      | _ :: rest => some (name, more.takeWhile (· != '}'), rest)
      | [] => none
  | _ => none

theorem reference?_length {chars default rest : List Char} {name : String}
    (found : reference? chars = some (name, default, rest)) : rest.length < chars.length := by
  have shorter := dropWhile_length (fun c => c != '}' && c != ':') chars
  unfold reference? at found
  simp only at found
  split at found
  · rename_i left eq
    cases found
    rw [eq] at shorter
    exact shorter
  · rename_i more eq
    rw [eq] at shorter
    have behind := dropWhile_length (· != '}') more
    split at found
    · rename_i left eq
      cases found
      rw [eq] at behind
      simp only [List.length_cons] at behind shorter
      omega
    · cases found
  · cases found

/-- Puts values for the references in a text. -/
def expand (valueOf : String → List Char → List Char) (chars : List Char) : List Char :=
  match chars with
  | '$' :: '{' :: rest =>
      match _found : reference? rest with
      | some (name, default, after) => valueOf name default ++ expand valueOf after
      | none => '$' :: '{' :: expand valueOf rest
  | c :: rest => c :: expand valueOf rest
  | [] => []
termination_by chars.length
decreasing_by
  all_goals first
    | (have shorter := reference?_length _found; simp only [List.length_cons]; omega)
    | (simp only [List.length_cons]; omega)

/-- Names of the file hide those of the environment; a name without a value stands for nothing. -/
def valueOf (environment : Table String) (known : Table (Option String)) (name : String)
    (default : List Char) : List Char :=
  match Table.get? known name with
  | some value => (value.getD "").toList
  | none => ((Table.get? environment name).map String.toList).getD default

def define (environment : Table String) (known : Table (Option String)) (binding : Binding) :
    Table (Option String) :=
  Table.insert known binding.name
    (binding.value.map fun text =>
      String.ofList (expand (valueOf environment known) text.toList))

/-- A mark of the byte order at the start is no part of the text. -/
def withoutMark : List Char → List Char
  | c :: rest => if c = '\ufeff' then rest else c :: rest
  | [] => []

/-- The names of a file with their values, in the order in which they were first given. -/
def read (environment : Table String) (text : String) : Table (Option String) :=
  (bindings (withoutMark (Text.unifyNewlines text.toList))).foldl (define environment) []

end SceneScript.Dotenv
