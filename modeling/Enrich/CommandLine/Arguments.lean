import Enrich.CommandLine.Command
import Enrich.Config.Load
import Enrich.Text.Cut

/-!
# Arguments

The command that the arguments of a program give. An option has a name behind two dashes, a letter
behind one, or both; its value is the next argument, or stands behind `=`, or right behind the
letter. Behind `--` nothing is an option. A value that is an argument of its own is looked at only
when the next argument has been found to be in order, so a fault there is reported first.
-/

namespace Enrich.CommandLine

/-- An option of a command. -/
inductive Key where
  | config
  | project
  | output
  | rules
  | attr
  | add
  | tags
  | substitute
  | verbose
  | help
  deriving DecidableEq, Repr

namespace Key

/-- The name behind two dashes. -/
def name? : Key → Option String
  | config => some "config"
  | project => some "project"
  | output => some "output"
  | rules => some "rules"
  | attr => some "attr"
  | add => some "add"
  | tags => some "tags"
  | substitute => some "substitute"
  | verbose => none
  | help => some "help"

/-- The letter behind one dash. -/
def letter? : Key → Option Char
  | output => some 'f'
  | verbose => some 'v'
  | help => some 'h'
  | _ => none

/-- Whether a value belongs to the option. -/
def takesValue : Key → Bool
  | substitute | verbose | help => false
  | _ => true

/-- Whether the option may be given more than once. -/
def repeats : Key → Bool
  | attr | verbose => true
  | _ => false

end Key

/-- What is wrong with some arguments. -/
inductive Misuse where
  | noCommand
  | unknownArgument (argument : String)
  | missingArgument
  | missingValue (key : Key)
  | surplusValue (key : Key)
  | repeated (key : Key)
  | unknownFormat (value : String)
  | noEqualsSign (value : String)
  | noAttributeName (value : String)
  deriving DecidableEq, Repr

/-- The wording of a fault in the value of an option, for a terminal: the value is coloured, and
the colour is switched off behind it. -/
def invalidValue (value option reason : String) : String :=
  "invalid value '\x1B[33m" ++ value ++ "\x1B[0m' for '" ++ option ++ "'" ++ reason

/-- The wording of a fault in a value, for a terminal. -/
def Misuse.message? : Misuse → Option String
  | unknownFormat value => some (invalidValue value "--output <FORMAT>" "")
  | noEqualsSign value =>
    some (invalidValue value "--attr <KEY=VALUE>" (": expected KEY=VALUE, got '" ++ value ++ "'"))
  | noAttributeName value =>
    some (invalidValue value "--attr <KEY=VALUE>"
      (": attribute name is empty in '" ++ value ++ "'"))
  | _ => none

/-- Why arguments give no command of their own. -/
inductive Stop where
  | help
  | misuse (cause : Misuse)
  deriving DecidableEq, Repr

/-- The attribute that a value writes. -/
def keyValue (value : String) : Except Misuse (String × String) :=
  match Text.cut? ['='] value.toList with
  | none => .error (.noEqualsSign value)
  | some ([], _) => .error (.noAttributeName value)
  | some (key, value) => .ok (String.ofList key, String.ofList value)

/-- Checks the value of an option. -/
def checkValue (key : Key) (value : String) : Except Misuse Unit :=
  match key with
  | .config => if value.isEmpty then .error (.missingValue key) else .ok ()
  | .output =>
    if value.isEmpty then .error (.missingValue key)
    else if (Format.ofName? value).isNone then .error (.unknownFormat value)
    else .ok ()
  | .attr => (keyValue value).map fun _ => ()
  | _ => .ok ()

/-- What the arguments have given so far. -/
structure Given where
  values : List (Key × String) := []
  flags : List Key := []
  plain : List String := []
  /-- An option whose value has not been looked at, or not even been met. -/
  pending : Option (Key × Option String) := none

namespace Given

/-- The values of an option, in order. -/
def all (g : Given) (key : Key) : List String :=
  g.values.filterMap fun (k, v) => if k = key then some v else none

/-- The value of an option that is given once. -/
def value? (g : Given) (key : Key) : Option String :=
  (g.all key).head?

/-- Adds an option with its value. -/
def addValue (g : Given) (key : Key) (value : String) : Except Stop Given := do
  if !key.repeats && (g.value? key).isSome then .error (.misuse (.repeated key))
  (checkValue key value).mapError .misuse
  pure { g with values := g.values ++ [(key, value)] }

/-- Looks at the value of the last option. -/
def settle (g : Given) : Except Stop Given :=
  match g.pending with
  | none => .ok g
  | some (key, none) => .error (.misuse (.missingValue key))
  | some (key, some value) => { g with pending := none }.addValue key value

/-- Adds an option without value. -/
def addFlag (g : Given) (key : Key) : Except Stop Given := do
  let g ← g.settle
  if key = .help then .error .help
  else if !key.repeats && key ∈ g.flags then .error (.misuse (.repeated key))
  else pure { g with flags := key :: g.flags }

/-- Adds an option, with its value if that stands in the same argument. -/
def addOption (g : Given) (key : Key) (value : Option String) : Except Stop Given := do
  let g ← g.settle
  match value with
  | some value => g.addValue key value
  | none => pure { g with pending := some (key, none) }

/-- Adds an argument that is no option, of which there may be so many. -/
def addPlain (g : Given) (room : Nat) (argument : String) : Except Stop Given := do
  if room ≤ g.plain.length then .error (.misuse (.unknownArgument argument))
  let g ← g.settle
  if argument.isEmpty then .error (.misuse .missingArgument)
  pure { g with plain := g.plain ++ [argument] }

end Given

/-- The commands by name. -/
inductive Verb where
  | apply
  | check
  | validate
  deriving DecidableEq, Repr

namespace Verb

/-- The command of a name. -/
def ofName? : String → Option Verb
  | "apply" => some apply
  | "check" => some check
  | "validate" => some validate
  | _ => none

/-- The options of a command. -/
def keys : Verb → List Key
  | apply => [.config, .project, .output, .verbose, .help]
  | check => [.rules, .attr, .add, .tags, .substitute, .verbose, .help]
  | validate => [.config, .verbose, .help]

/-- How many arguments of a command are no options. -/
def room : Verb → Nat
  | apply => 1
  | check | validate => 0

end Verb

/-- An argument by its form. -/
inductive Argument where
  | separator
  | long (name : String) (value : Option String)
  | letters (letters : List Char)
  | plain (text : String)
  deriving DecidableEq, Repr

/-- The form of an argument. -/
def Argument.ofString (argument : String) : Argument :=
  match argument.toList with
  | ['-', '-'] => .separator
  | '-' :: '-' :: rest =>
    match Text.cut? ['='] rest with
    | none => .long (String.ofList rest) none
    | some (name, value) => .long (String.ofList name) (some (String.ofList value))
  | '-' :: c :: rest => .letters (c :: rest)
  | _ => .plain argument

/-- Adds the options of an argument with letters; the first that takes a value takes the rest. -/
def addLetters (verb : Verb) (g : Given) : List Char → Except Stop Given
  | [] => .ok g
  | c :: rest =>
    match verb.keys.find? fun key => key.letter? = some c with
    | none => .error (.misuse (.unknownArgument ("-" ++ String.singleton c)))
    | some key =>
      if key.takesValue then
        let value := if rest.head? = some '=' then rest.tail else rest
        g.addOption key (if rest.isEmpty then none else some (String.ofList value))
      else do addLetters verb (← g.addFlag key) rest

/-- Adds an argument that stands before `--`. -/
def addArgument (verb : Verb) (g : Given) (argument : String) : Except Stop Given :=
  match Argument.ofString argument, g.pending with
  | .separator, _ => .ok g
  | .long name value, _ =>
    match verb.keys.find? fun key => key.name? = some name with
    | none => .error (.misuse (.unknownArgument argument))
    | some key =>
      if key.takesValue then g.addOption key value
      else if value.isSome then .error (.misuse (.surplusValue key))
      else g.addFlag key
  | .letters letters, _ => addLetters verb g letters
  | .plain value, some (key, none) => .ok { g with pending := some (key, some value) }
  | .plain text, _ => g.addPlain verb.room text

/-- What the arguments behind the name of a command give. -/
def collect (verb : Verb) (g : Given) : List String → Except Stop Given
  | [] => g.settle
  | argument :: arguments =>
    if argument = "--" then do
      (← arguments.foldlM (fun g argument => g.addPlain verb.room argument) g).settle
    else do collect verb (← addArgument verb g argument) arguments

/-- The command with what has been given for it. -/
def Given.command (g : Given) : Verb → Except Misuse Command
  | .apply =>
    match g.plain with
    | [] => .error .missingArgument
    | nodes :: _ =>
      .ok (.apply nodes ((g.value? .config).getD Config.defaultPath)
        ((g.value? .project).getD "default")
        (((g.value? .output).bind Format.ofName?).getD .human))
  | .check =>
    match g.value? .rules with
    | none => .error .missingArgument
    | some rules => do
      let attributes ← (g.all .attr).mapM keyValue
      pure (.check ⟨rules, attributes, g.value? .add, g.value? .tags, .substitute ∈ g.flags⟩)
  | .validate => .ok (.validate ((g.value? .config).getD Config.defaultPath))

/-- Goes through letters before the name of a command. -/
def leadingLetters : List Char → Except Stop Unit
  | [] => .ok ()
  | 'v' :: rest => leadingLetters rest
  | 'h' :: _ => .error .help
  | c :: _ => .error (.misuse (.unknownArgument ("-" ++ String.singleton c)))

/-- Whether arguments name at most one command to be helped with. -/
def isHelpTopic : List String → Bool
  | [] => true
  | [name] => name == "help" || (Verb.ofName? name).isSome
  | _ => false

/-- The command that some arguments give. -/
def parse : List String → Except Stop Command
  | [] => .error (.misuse .noCommand)
  | argument :: arguments =>
    match Argument.ofString argument with
    | .letters letters => do
      leadingLetters letters
      parse arguments
    | .plain name =>
      match Verb.ofName? name with
      | some verb => do ((← collect verb {} arguments).command verb).mapError .misuse
      | none =>
        if name == "help" && isHelpTopic arguments then .error .help
        else .error (.misuse (.unknownArgument name))
    | .long "help" none => .error .help
    | _ => .error (.misuse (.unknownArgument argument))

end Enrich.CommandLine
