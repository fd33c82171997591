import WirelessControl.Toml.Scalar

/-!
# Tables that stand for moments

Documents have moments of their own, but where only tables are known a moment is a table with one
name that is set aside for that. A reader of the newer edition therefore takes a table for a moment
when this name is the first one in it, and refuses the document if its value is not the text of a
moment. What else is in such a table is not looked at.

## Main definitions

* `Toml.momentsHold`: whether all tables that stand for moments do.
-/

namespace WirelessControl.Toml

/-- The name that makes a table stand for a moment. -/
def momentMark : String := "$__toml_private_datetime"

/-- The value of the mark, if it is the first name of a table. -/
def marked? (entries : Entries) : Option Toml :=
  if entries.all fun e => momentMark ≤ e.1 then get? entries momentMark else none

/-- Whether a value is the text of a moment. -/
def isMomentText : Toml → Bool
  | .text s => isMoment .newer s.toList
  | _ => false

mutual

/-- Whether all tables of a value that stand for moments do. -/
def momentsHold : Toml → Bool
  | .array items => momentsHoldInItems items
  | .table _ entries =>
    match marked? entries with
    | some v => isMomentText v
    | none => momentsHoldInEntries entries
  | .tables all => momentsHoldInTables all
  | _ => true

/-- Whether all tables of some values that stand for moments do. -/
def momentsHoldInItems : List Toml → Bool
  | [] => true
  | v :: vs => momentsHold v && momentsHoldInItems vs

/-- Whether all tables of named values that stand for moments do. -/
def momentsHoldInEntries : List (String × Toml) → Bool
  | [] => true
  | (_, v) :: es => momentsHold v && momentsHoldInEntries es

/-- Whether several tables, and the tables in them, stand for moments where they should. -/
def momentsHoldInTables : List (List (String × Toml)) → Bool
  | [] => true
  | entries :: all =>
    (match marked? entries with
      | some v => isMomentText v
      | none => momentsHoldInEntries entries) && momentsHoldInTables all

end

end WirelessControl.Toml
