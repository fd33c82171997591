import WirelessControl.Config.Field
import WirelessControl.Text.Decimal

/-!
# Settings from the command line

Each field has a flag and a letter. They take a value, in the next argument or behind an equals
sign, but for the one field that is yes or no. Letters stand behind a single dash; several of them
may stand together, and the value of the last one may follow it at once. One more flag names the
file of the configuration.

A field may be given once, and there are no other arguments. The argument behind a flag that wants
a value is none if it begins like a flag itself; a single dash does not.

Values are checked at once: a number has to fit, the name of a log format may have letters of
either case, and a file has a name.

## Main definitions

* `CommandLine.parse?`: what the arguments say.
-/

namespace WirelessControl

/-- What the arguments say. -/
structure CommandLine where
  /-- The file of the configuration, if one is named. -/
  path : Option String := none
  /-- Fields and their values. -/
  values : List (ConfigField × ConfigValue) := []
deriving DecidableEq, Repr

namespace CommandLine

/-- The flag of the configuration's file. -/
def pathFlag : String := "--config-path"

/-- What a flag names. -/
inductive Target where
  /-- The configuration's file. -/
  | path
  /-- A field. -/
  | field (f : ConfigField)
deriving DecidableEq, Repr

/-- What a flag names, if it is one. -/
def target? (flag : String) : Option Target :=
  if flag = pathFlag then some .path else (ConfigField.ofFlag? flag).map .field

/-- A number without a minus sign. -/
def natural? (cs : List Char) : Option Int :=
  if cs.head? = some '-' then none else Decimal.integer? cs

/-- The value of a field in an argument. -/
def fieldValue? (f : ConfigField) (arg : String) : Option ConfigValue :=
  match f with
  | .logFilter => some (.text arg)
  | .familyName => some (.text arg)
  | .logFormat => (LogFormat.parse? arg).map fun x => .text x.text
  | .debugEngine => none
  | .commandPortSlot => (Decimal.integer? arg.toList).map .integer
  | .eventPortSlot => (Decimal.integer? arg.toList).map .integer
  | .maxMessageSize => (natural? arg.toList).map .integer
  | .receiveBufferSize => (natural? arg.toList).map .integer

/-- Whether a field can have a value. -/
def fits (f : ConfigField) (v : ConfigValue) : Bool := (Config.assign {} f v).isSome

/-- What the arguments say with one flag more, unless the flag was there before or its value is
none. -/
def add? (line : CommandLine) (t : Target) (arg : String) : Option CommandLine :=
  match t with
  | .path => if line.path.isSome ∨ arg = "" then none else some { line with path := some arg }
  | .field f => do
    let v ← fieldValue? f arg
    if !fits f v ∨ line.values.any (·.1 = f) then none
    return { line with values := line.values ++ [(f, v)] }

/-- What the arguments say with the flag that takes no value. -/
def switch? (line : CommandLine) : Option CommandLine :=
  if line.values.any (·.1 = ConfigField.debugEngine) then none
  else some { line with values := line.values ++ [(.debugEngine, .boolean true)] }

/-- Splits an argument at its first equals sign. -/
def splitFlag (arg : String) : String × Option String :=
  let cs := arg.toList
  (String.ofList (cs.takeWhile (· ≠ '=')),
    match cs.dropWhile (· ≠ '=') with
    | [] => none
    | _ :: rest => some (String.ofList rest))

/-- Whether an argument can be the value of the flag in front of it. -/
def isValue (arg : String) : Bool :=
  match arg.toList with
  | '-' :: _ :: _ => false
  | _ => true

/-- Reads a flag. Yields what the arguments say then, and what the flag names if its value is to
follow. -/
def flag? (line : CommandLine) (arg : String) : Option (CommandLine × Option Target) := do
  let (flag, value) := splitFlag arg
  let t ← target? flag
  match value with
  | some v => return (← line.add? t v, none)
  | none => if t = .field .debugEngine then return (← line.switch?, none) else return (line, some t)

/-- Without an equals sign at the front. -/
def afterEquals : List Char → List Char
  | '=' :: cs => cs
  | cs => cs

/-- Reads letters that stand together. Yields what the arguments say then, and what the last letter
names if its value is to follow. -/
def letters? (line : CommandLine) : List Char → Option (CommandLine × Option Target)
  | [] => some (line, none)
  | c :: cs => do
    let f ← ConfigField.ofLetter? c
    if f = .debugEngine then letters? (← line.switch?) cs
    else if cs.isEmpty then return (line, some (.field f))
    else return (← line.add? (.field f) (String.ofList (afterEquals cs)), none)

/-- Reads an argument that is no value. -/
def argument? (line : CommandLine) (arg : String) : Option (CommandLine × Option Target) :=
  match arg.toList with
  | '-' :: '-' :: _ => line.flag? arg
  | '-' :: c :: cs => line.letters? (c :: cs)
  | _ => none

/-- Reads the arguments in order. -/
def read (line : CommandLine) : List String → Option CommandLine
  | [] => some line
  | arg :: args =>
    if arg = "--" then if args.isEmpty then some line else none
    else
      match line.argument? arg with
      | none => none
      | some (line, none) => read line args
      | some (line, some t) =>
        match args with
        | [] => none
        | v :: args => if isValue v then (line.add? t v).bind (read · args) else none

/-- What arguments say; nothing when one of them is wrong. -/
def parse? (args : List String) : Option CommandLine := read {} args

end CommandLine

end WirelessControl
