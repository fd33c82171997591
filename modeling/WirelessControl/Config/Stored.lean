import WirelessControl.Config.Field
import WirelessControl.Text.Json

/-!
# Configurations as JSON

A stored configuration is an object with a member for each setting. Settings that are missing have
their defaults, members of other names are passed over, and no setting may be there twice. An
array is accepted too and gives the settings in order; it may be shorter, but not longer. A log
format can also be written as an object with one member that is null.

Writing gives all settings in order, without blanks.

## Main definitions

* `Config.ofJson?`: reads a stored configuration.
* `Config.toJson`: writes one.
-/

namespace WirelessControl

namespace ConfigValue

/-- What a JSON value says about a setting. -/
def ofJson : JsonValue → ConfigValue
  | .boolean b => .boolean b
  | .whole n => .integer n
  | .text (some s) => .text s
  | .null => .null
  | .object [(some name, .null)] => .table [(name, true)]
  | _ => .other

end ConfigValue

namespace Config

/-- Sets the fields of an object's members in order. The fields in `seen` were set before. -/
def assignMembers (c : Config) (seen : List ConfigField) :
    List (Option String × JsonValue) → Option Config
  | [] => some c
  | (none, _) :: _ => none
  | (some name, v) :: members =>
    match ConfigField.ofName? name with
    | none => assignMembers c seen members
    | some f => do
      if seen.contains f then none
      assignMembers (← c.assign f (.ofJson v)) (f :: seen) members

/-- Sets fields in order to the items of an array. -/
def assignItems (c : Config) : List ConfigField → List JsonValue → Option Config
  | _, [] => some c
  | [], _ :: _ => none
  | f :: fields, v :: items => do assignItems (← c.assign f (.ofJson v)) fields items

/-- The configuration that a JSON value stores. -/
def ofValue? : JsonValue → Option Config
  | .object members => assignMembers {} [] members
  | .array items => assignItems {} ConfigField.all items
  | _ => none

/-- The configuration that a JSON text stores. -/
def ofJson? (text : String) : Option Config := (Json.parse? text).bind ofValue?

/-- A field as JSON. -/
def fieldJson (c : Config) : ConfigField → String
  | .logFilter => Json.quote c.logFilter
  | .logFormat => Json.quote c.logFormat.text
  | .debugEngine => if c.debugEngine then "true" else "false"
  | .familyName => Json.quote c.familyName
  | .commandPortSlot => toString c.commandPortSlot
  | .eventPortSlot => toString c.eventPortSlot
  | .maxMessageSize => toString c.maxMessageSize
  | .receiveBufferSize => toString c.receiveBufferSize

/-- The configuration as a JSON text. -/
def toJson (c : Config) : String :=
  "\x7b" ++ ",".intercalate (ConfigField.all.map fun f =>
    Json.quote f.name ++ ":" ++ c.fieldJson f) ++ "\x7d"

end Config

end WirelessControl
