/-!
# Arguments of the command line

The command line has two commands, and one option that may stand before or behind the command. Reading
it either yields an invocation, or shows help or the version, or is refused.
-/

namespace MeshControl.CommandLine

/-- How results are printed. -/
inductive Format where
  | human
  | json
  deriving DecidableEq, Repr, Inhabited

/-- What to do. -/
inductive Command where
  /-- Runs a pass over each file in order; a patch file changes the outputs of every pass. -/
  | translate (files : List String) (patchFile : Option String) (liveCluster : Option String)
  /-- Attributes the workloads of a file. -/
  | detect (file : String) (liveCluster : Option String)
  deriving DecidableEq, Repr, Inhabited

/-- A command and the format of its results. -/
structure Invocation where
  format : Format
  command : Command
  deriving DecidableEq, Repr, Inhabited

/-- The parts of the command line that help exists for. -/
inductive Topic where
  | general
  | translate
  | detect
  | help
  deriving DecidableEq, Repr, Inhabited

/-- Why arguments are no invocation. -/
inductive Refusal where
  /-- Help was asked for. -/
  | help (topic : Topic)
  /-- The version was asked for. -/
  | version
  /-- The arguments are wrong. -/
  | usage
  deriving DecidableEq, Repr, Inhabited

/-- The options of both commands. -/
inductive Flag where
  | output
  | file
  | patchFile
  | liveCluster
  | help
  | version
  deriving DecidableEq, Repr, Inhabited

/-- The options that a part of the command line knows. -/
def Topic.options : Topic → List Flag
  | .general => [.output, .help, .version]
  | .translate => [.output, .file, .patchFile, .liveCluster, .help]
  | .detect => [.output, .file, .liveCluster, .help]
  | .help => []

namespace Flag

/-- The long name of an option. -/
def longName : Flag → String
  | .output => "output"
  | .file => "file"
  | .patchFile => "patch-file"
  | .liveCluster => "live-cluster"
  | .help => "help"
  | .version => "version"

/-- The letter of an option. -/
def letter? : Flag → Option Char
  | .output => some 'o'
  | .file => some 'f'
  | .help => some 'h'
  | .version => some 'V'
  | .patchFile | .liveCluster => none

/-- Whether the option takes a value. -/
def takesValue : Flag → Bool
  | .help | .version => false
  | _ => true

end Flag

/-- The values of options so far. -/
structure Values where
  output : Option Format := none
  files : List String := []
  patchFile : Option String := none
  liveCluster : Option String := none
  deriving DecidableEq, Repr, Inhabited

/-- The format with a given name. -/
def formatOf? (name : String) : Option Format :=
  match name with
  | "human" => some .human
  | "json" => some .json
  | _ => none

/-- A path that is not empty. -/
def path? (value : String) : Option String := if value.isEmpty then none else some value

/-- Stores the value of an option. Only the files of a translation may be given several times. -/
def Values.set? (topic : Topic) (values : Values) (option : Flag) (value : String) : Option Values :=
  match option with
  | .output => do
    guard values.output.isNone
    return { values with output := some (← formatOf? value) }
  | .file => do
    guard (topic = .translate || values.files.isEmpty)
    return { values with files := values.files ++ [← path? value] }
  | .patchFile => do
    guard values.patchFile.isNone
    return { values with patchFile := some (← path? value) }
  | .liveCluster => do
    guard values.liveCluster.isNone
    return { values with liveCluster := some value }
  | .help | .version => none

/-- Whether an argument can only be an option. A single dash is a value. -/
def looksLikeOption (argument : String) : Bool :=
  match argument.toList with
  | ['-'] => false
  | '-' :: _ => true
  | _ => false

/-- Whether an argument names an option by its letter. -/
def isShort (argument : String) : Bool :=
  match argument.toList with
  | '-' :: '-' :: _ => false
  | _ => true

/-- The option that an argument names, and the value attached to it. -/
def optionOf? (topic : Topic) (argument : String) : Option (Flag × Option String) :=
  match argument.toList with
  | '-' :: '-' :: rest =>
    let name := rest.takeWhile (· ≠ '=')
    let attached := match rest.drop name.length with
      | '=' :: value => some (String.ofList value)
      | _ => none
    (topic.options.find? fun option => option.longName.toList = name).map fun option => (option, attached)
  | '-' :: letter :: rest =>
    let attached := match rest with
      | [] => none
      | '=' :: value => some (String.ofList value)
      | value => some (String.ofList value)
    (topic.options.find? fun option => option.letter? = some letter).map fun option => (option, attached)
  | _ => none

/-- What the values of the options of a part, and the arguments behind them, are. -/
abbrev Parsed := Except Refusal (Values × List String)

/-- Values in front of the next option, for the files of a translation; one other value otherwise. -/
def takeValues (topic : Topic) (option : Flag) (arguments : List String) : List String :=
  let values := arguments.takeWhile fun argument => !looksLikeOption argument
  if topic = .translate && option = .file then values else values.take 1

/-- Stores values of an option in order. -/
def setAll (topic : Topic) (option : Flag) (values : Values) (given : List String) : Except Refusal Values :=
  match given.foldlM (fun values value => values.set? topic option value) values with
  | some values => .ok values
  | none => .error .usage

/-- Reads options up to the first argument that is none. -/
def readOptions (topic : Topic) (fuel : Nat) (values : Values) (arguments : List String) : Parsed :=
  match fuel, arguments with
  | 0, _ => .error .usage
  | _, [] => .ok (values, [])
  | fuel + 1, argument :: rest =>
    if !looksLikeOption argument || argument = "--" then .ok (values, argument :: rest)
    else
      match optionOf? topic argument with
      | none => .error .usage
      | some (option, attached) =>
        if !option.takesValue then
          if attached.isSome && !isShort argument then .error .usage
          else .error (if option = .help then .help topic else .version)
        else
          match attached with
          | some value => do
            let values ← setAll topic option values [value]
            readOptions topic fuel values rest
          | none => do
            let given := takeValues topic option rest
            if given.isEmpty then throw .usage
            let values ← setAll topic option values given
            readOptions topic fuel values (rest.drop given.length)

/-- Reads the options of a command, behind which nothing may stand but an empty rest. -/
def readCommand (topic : Topic) (arguments : List String) : Except Refusal Values := do
  match ← readOptions topic (arguments.length + 1) {} arguments with
  | (values, []) | (values, ["--"]) => return values
  | _ => throw .usage

/-- Help about a part that is named behind the word. -/
def helpTopic : List String → Refusal
  | [] => .help .general
  | ["translate"] => .help .translate
  | ["detect"] => .help .detect
  | ["help"] => .help .help
  | _ => .usage

/-- The invocation that arguments ask for. A patch file may also be given by the environment. The
format behind the command counts more than the one before it. -/
def parse (patchFileVariable : Option String) (arguments : List String) : Except Refusal Invocation := do
  match ← readOptions .general (arguments.length + 1) {} arguments with
  | (general, "translate" :: rest) =>
    let values ← readCommand .translate rest
    if values.files.isEmpty then throw .usage
    let patchFile ← match values.patchFile, patchFileVariable with
      | some path, _ => pure (some path)
      | none, some path => if path.isEmpty then throw .usage else pure (some path)
      | none, none => pure none
    return ⟨(values.output <|> general.output).getD .human, .translate values.files patchFile values.liveCluster⟩
  | (general, "detect" :: rest) =>
    let values ← readCommand .detect rest
    match values.files with
    | [file] => return ⟨(values.output <|> general.output).getD .human, .detect file values.liveCluster⟩
    | _ => throw .usage
  | (_, "help" :: rest) => throw (helpTopic rest)
  | _ => throw .usage

end MeshControl.CommandLine
