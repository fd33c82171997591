import WirelessControl.Pattern.Reader
import WirelessControl.Text.Alphanumeric
import WirelessControl.Text.Blank
import WirelessControl.Text.Decimal
import WirelessControl.Text.Slice

/-!
# Log filters

A filter is a list of directives with commas between them; nothing between two commas is no
directive. A directive is a level, or a target with a level behind an equals sign, or either with
a span between brackets, which may name a field between braces. A field may have a value behind an
equals sign: true or false, a number, or a pattern. A filter is accepted when all its directives
are; otherwise the first fault is told. A value is no pattern, or a level is none, or the directive
has not this form.

The form is checked on the directive without the blanks at its ends, and the places found are those
of the parts in the directive as it stands, counted in bytes: a blank in front moves the level and
the field, and one behind stays with the level.

Filters are read by the library that writes the log. The daemon only asks whether one is accepted,
and reports the complaint if it is not; this file and the patterns that it uses stand for as much of
that library. A start takes whatever check it is given, so that nothing which is shown of starts
depends on this one.

## Main definitions

* `LogFilter.fault?`: what is wrong with a filter.
-/

namespace WirelessControl.LogFilter

/-- What is wrong with a directive. -/
inductive Fault where
  /-- The form. -/
  | directive
  /-- The level. -/
  | level
  /-- The pattern of a field. -/
  | field (cause : Pattern.Fault)
deriving DecidableEq, Repr

namespace Fault

/-- The text of a fault. -/
def message : Fault → String
  | .directive => "invalid filter directive"
  | .level =>
    "error parsing level filter: expected one of \"off\", \"error\", \"warn\", \"info\", " ++
      "\"debug\", \"trace\", or a number 0-5"
  | .field cause => s!"invalid field filter: {cause.message}"

end Fault

/-! ### Fields -/

/-- The value of a field: what is between the first equals sign and the next. -/
def fieldValue? (field : List Char) : Option (List Char) := (field.splitOn '=')[1]?

/-- Whether a value is compared as a whole and not as a pattern. -/
def isFixed (value : List Char) : Bool :=
  value = "true".toList || value = "false".toList || Decimal.isReal value

/-- What is wrong with a field. -/
def fieldFault? (field : List Char) : Option Fault := do
  let value ← fieldValue? field
  if isFixed value then none else (Pattern.fault? value).map .field

/-! ### Directives -/

/-- Where in a directive the scan is, with the place where the current part began. -/
inductive Place where
  /-- In front of everything. -/
  | front
  /-- In a level or a target. -/
  | word
  /-- In a span between brackets. -/
  | span
  /-- In a field between braces. -/
  | fieldName (start : Nat)
  /-- Behind the fields. -/
  | fields
  /-- Behind the span. -/
  | target
  /-- In the level. -/
  | level (start : Nat)
deriving DecidableEq, Repr

/-- Whether a directive may begin with a character. -/
def isOpening (c : Char) : Bool :=
  c = '-' || c = ':' || c = '_' || Alphanumeric.isAlphanumeric c

/-- The place behind the character at an offset of a directive. -/
def Place.step (directive : List Char) (p : Place) (offset : Nat) (c : Char) :
    Except Fault Place :=
  match p with
  | .front =>
    if c = '[' then return .span else if isOpening c then return .word else throw .directive
  | .word =>
    if c = '=' then return .level (offset + 1)
    else if c = '[' then return .span
    else return .word
  | .span =>
    if c = ']' then return .target
    else if c = '\x7b' then return .fieldName (offset + 1)
    else return .span
  | .fieldName start =>
    if c ≠ '\x7d' then return .fieldName start
    else
      let field := Slice.between start offset directive
      match if field.isEmpty then some .directive else fieldFault? field with
      | some fault => throw fault
      | none => return .fields
  | .fields => if c = ']' then return .target else throw .directive
  | .target => if c = '=' then return .level (offset + 1) else throw .directive
  | .level start => return .level start

/-- The place behind characters of a directive, the first of them at an offset. -/
def Place.run (directive : List Char) (p : Place) (offset : Nat) :
    List Char → Except Fault Place
  | [] => return p
  | c :: cs =>
    match p.step directive offset c with
    | .error fault => .error fault
    | .ok p => p.run directive (offset + c.utf8Size) cs

/-- The names of levels. -/
def levelNames : List String := ["off", "error", "warn", "info", "debug", "trace"]

/-- Whether characters are a number from zero to five. -/
def isLevelNumber (cs : List Char) : Bool :=
  let ds := match cs with
    | '+' :: ds => ds
    | ds => ds
  Decimal.isDigits ds && Decimal.natural ds ≤ 5

/-- Whether characters are a level: nothing, a number, or a name with letters of either case. -/
def isLevel (cs : List Char) : Bool :=
  cs.isEmpty || isLevelNumber cs ||
    levelNames.any fun name => name.toList = cs.map Char.toLower

/-- What is wrong with a directive. -/
def directiveFault? (cs : List Char) : Option Fault :=
  match Place.front.run cs 0 (Blank.trim cs) with
  | .ok .word => none
  | .ok .target => none
  | .ok (.level start) => if isLevel (Slice.behind start cs) then none else some .level
  | .ok _ => some .directive
  | .error fault => some fault

/-- The parts between commas that are not empty. -/
def directives (filter : String) : List (List Char) :=
  (filter.toList.splitOn ',').filter (!·.isEmpty)

/-- The first fault of a filter. -/
def fault? (filter : String) : Option Fault := (directives filter).findSome? directiveFault?

end WirelessControl.LogFilter
