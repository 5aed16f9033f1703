import Enclosure.Command.Request
import Enclosure.Text.Digits

/-!
# Reading the arguments

Arguments are read in two stretches, each under rules of its own: what stands
before the name of the command, and what stands after it. A word that starts
with two dashes names a flag or an option; the value of an option follows an
equals sign or is the next word, which then must not start with a dash unless it
is a dash alone. A word that starts with one dash is a cluster of one-letter
flags. Two dashes alone make every later word a plain one.

Words are read from left to right, and the first one that decides the matter
does so: a fault in the arguments, or a demand for help or for the version.
Whether something is lacking is asked only at the end. In one stretch nothing
may be given twice. The verbose flag and the settings path may stand in either
stretch; where both give a settings path, the later one counts.
-/

set_option autoImplicit false

namespace Enclosure.Command

/-- How a word of the arguments is written. -/
inductive Word where
  /-- Two dashes alone. -/
  | divider
  /-- Two dashes and a name, and what follows an equals sign. -/
  | long (name : String) (attached : Option String)
  /-- One dash and letters. -/
  | cluster (letters : List Char)
  /-- Any other word, a dash alone included. -/
  | plain (text : String)

/-- The way in which a text is written as a word. -/
def Word.ofText (text : String) : Word :=
  match text.toList with
  | ['-', '-'] => .divider
  | '-' :: '-' :: rest =>
    let (name, value) := rest.span (· != '=')
    match value with
    | [] => .long (String.ofList name) none
    | _ :: attached => .long (String.ofList name) (some (String.ofList attached))
  | '-' :: letter :: letters => .cluster (letter :: letters)
  | _ => .plain text

/-- What ends the reading before the last word. -/
inductive Halt where
  | misuse
  | help
  | version

/-- The request that a halt amounts to. -/
def Halt.request : Halt → Request
  | misuse => .misuse
  | help => .help
  | version => .version

/-- A flag: its name, and the letter that stands for it in a cluster. -/
structure FlagRule where
  name : String
  letter : Option Char := none

/-- An option: its name, and which texts it accepts as values. -/
structure OptionRule where
  name : String
  accepts : String → Bool := fun _ => true

/-- What may stand in a stretch of the arguments. -/
structure Rules where
  flags : List FlagRule
  options : List OptionRule
  /-- The version can be asked for. -/
  version : Bool := false

/-- What a stretch of the arguments gives. -/
structure Given where
  flags : List String := []
  values : List (String × String) := []
  file : Option String := none

namespace Given

/-- Add a flag, which must not be there yet. -/
def addFlag (given : Given) (name : String) : Except Halt Given :=
  if given.flags.contains name then .error .misuse
  else .ok { given with flags := name :: given.flags }

/-- Add the value of an option, which must be acceptable and not be there yet. -/
def addValue (given : Given) (rule : OptionRule) (value : String) : Except Halt Given :=
  if rule.accepts value && (given.values.lookup rule.name).isNone then
    .ok { given with values := (rule.name, value) :: given.values }
  else .error .misuse

/-- Add the file, of which there is only one; its name has at least one
character. -/
def addFile (given : Given) (name : String) : Except Halt Given :=
  if name = "" || given.file.isSome then .error .misuse
  else .ok { given with file := some name }

/-- The flag is there. -/
def flag (given : Given) (name : String) : Bool := given.flags.contains name

/-- The value of an option. -/
def value? (given : Given) (name : String) : Option String := given.values.lookup name

end Given

namespace Rules

/-- Read a cluster of one-letter flags. -/
def readCluster (rules : Rules) (given : Given) : List Char → Except Halt Given
  | [] => .ok given
  | letter :: letters =>
    if letter = 'h' then .error .help
    else if letter = 'V' && rules.version then .error .version
    else
      match rules.flags.find? (·.letter == some letter) with
      | none => .error .misuse
      | some rule => do rules.readCluster (← given.addFlag rule.name) letters

/-- Read a name that takes no value from a later word, or give its rule back when
it is an option still waiting for one. -/
def readLong (rules : Rules) (given : Given) (name : String) (attached : Option String) :
    Except Halt (Given ⊕ OptionRule) :=
  match rules.options.find? (·.name == name), attached with
  | some rule, some value => do return .inl (← given.addValue rule value)
  | some rule, none => .ok (.inr rule)
  | none, some _ => .error .misuse
  | none, none =>
    if name = "help" then .error .help
    else if name = "version" && rules.version then .error .version
    else if rules.flags.any (·.name == name) then do return .inl (← given.addFlag name)
    else .error .misuse

/-- Read words until a plain one: what they give, and the plain word with all
words after it. Two dashes alone count as a plain word. -/
def readUntilPlain (rules : Rules) :
    Given → List String → Except Halt (Given × List String)
  | given, [] => .ok (given, [])
  | given, word :: rest =>
    match Word.ofText word with
    | .divider | .plain _ => .ok (given, word :: rest)
    | .cluster letters => do rules.readUntilPlain (← rules.readCluster given letters) rest
    | .long name attached => do
      match ← rules.readLong given name attached with
      | .inl more => rules.readUntilPlain more rest
      | .inr rule =>
        match rest with
        | [] => .error .misuse
        | value :: later =>
          match Word.ofText value with
          | .plain text => rules.readUntilPlain (← given.addValue rule text) later
          | _ => .error .misuse

end Rules

/-- Take every word as a file name, of which there is only one. -/
def readFiles : Given → List String → Except Halt Given
  | given, [] => .ok given
  | given, name :: rest => do readFiles (← given.addFile name) rest

/-- Read all words of a stretch, plain ones as file names. Between two plain
words the rules apply anew, so the number of words is enough fuel. -/
def Rules.readAll (rules : Rules) : (fuel : Nat) → Given → List String → Except Halt Given
  | 0, given, words => readFiles given words
  | fuel + 1, given, words => do
    match ← rules.readUntilPlain given words with
    | (more, []) => return more
    | (more, "--" :: rest) => readFiles more rest
    | (more, name :: rest) => rules.readAll fuel (← more.addFile name) rest

/-! ## The rules of the commands -/

/-- A line number: an optional plus sign and decimal digits, below 2⁶⁴. -/
def lineNumber? (text : String) : Option UInt64 :=
  let digits :=
    match text.toList with
    | '+' :: rest => rest
    | all => all
  if digits.isEmpty || !digits.all Char.isDigit then none
  else
    let number := Text.decimalValue digits
    if number < UInt64.size then some (.ofNat number) else none

/-- The flag for log lines. -/
def verboseRule : FlagRule := ⟨"verbose", some 'v'⟩

/-- The option for the settings path. -/
def settingsRule : OptionRule := ⟨"config", (· != "")⟩

/-- The option for the language of the file. -/
def languageRule : OptionRule := ⟨"language", fun _ => true⟩

/-- The option for the format of the results. -/
def formatRule : OptionRule := ⟨"format", fun text => (Format.ofName? text).isSome⟩

/-- What may stand before the name of the command. -/
def generalRules : Rules where
  flags := [verboseRule]
  options := [settingsRule]
  version := true

/-- What may stand after `find`. -/
def findRules : Rules where
  flags := [verboseRule]
  options := [settingsRule, languageRule, formatRule,
    ⟨"start", fun text => (lineNumber? text).isSome⟩,
    ⟨"end", fun text => (lineNumber? text).isSome⟩,
    ⟨"policy", fun text => (Policy.ofName? text).isSome⟩]

/-- What may stand after `check`. -/
def checkRules : Rules where
  flags := [verboseRule, ⟨"all", none⟩]
  options := [settingsRule, languageRule, formatRule]

/-- The invocation of an action, from what both stretches give. -/
def Given.invocation? (general own : Given) (action : Action) : Option Invocation := do
  return {
    verbose := general.flag "verbose" || own.flag "verbose"
    settingsPath := own.value? "config" <|> general.value? "config"
    file := ← own.file
    language := own.value? "language"
    format := ((own.value? "format").bind Format.ofName?).getD .json
    action := action }

/-- The lookup that a stretch after `find` asks for. The last line is the first
one unless it is given. -/
def Given.findAction? (own : Given) : Option Action := do
  let first ← (own.value? "start").bind lineNumber?
  let last := ((own.value? "end").bind lineNumber?).getD first
  return .find first last ((own.value? "policy").bind Policy.ofName?)

/-- The check that a stretch after `check` asks for. -/
def Given.checkAction (own : Given) : Action := .check (own.flag "all")

/-- Read the words after the name of a command. -/
def Rules.command (rules : Rules) (general : Given) (words : List String)
    (action : Given → Option Action) : Except Halt Request := do
  let own ← rules.readAll words.length {} words
  match (action own).bind (general.invocation? own) with
  | some invocation => return .run invocation
  | none => .error .misuse

/-- What help can be asked about by name. -/
def helpTopics : List String := ["find", "check", "help"]

/-- Help is asked for in general or about one topic. -/
def isHelpRequest : List String → Bool
  | [] => true
  | [topic] => helpTopics.contains topic
  | _ => false

/-- Read all words. -/
def readRequest (words : List String) : Except Halt Request := do
  match ← generalRules.readUntilPlain {} words with
  | (general, "find" :: rest) => findRules.command general rest Given.findAction?
  | (general, "check" :: rest) => checkRules.command general rest (some ∘ Given.checkAction)
  | (_, "help" :: topics) => if isHelpRequest topics then return .help else .error .misuse
  | _ => .error .misuse

/-- **What the arguments ask for.** -/
def Request.ofArguments (words : List String) : Request :=
  match readRequest words with
  | .ok request => request
  | .error halt => halt.request

end Enclosure.Command
