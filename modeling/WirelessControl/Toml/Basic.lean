/-!
# TOML documents

A document is a table: names with values, in order. How a table came to be decides how it may be
extended. A header defines its table once and only implies the tables on the way to it; a dotted
name makes tables that other dotted names may extend; a table between braces is complete. A dotted
name may also lead through a table that is implied, or through the last table of a header in double
brackets, as long as its value does not come to stand in there itself. A name stands for one value.

## Main definitions

* `Toml.insert`: a named value, by a dotted name.
* `Toml.openTable`, `Toml.openItem`: the two kinds of headers.
* `Toml.insertUnder`: a named value behind a header.
-/

namespace WirelessControl

/-- How a table came to be. -/
inductive TableOrigin where
  /-- On the way to the table of a header. -/
  | implied
  /-- On the way of a dotted name. -/
  | dotted
  /-- By its header. -/
  | defined
  /-- Between braces. -/
  | inline
deriving DecidableEq, Repr

/-- A value of a document. -/
inductive Toml where
  /-- A text. -/
  | text (s : String)
  /-- A whole number. -/
  | integer (n : Int)
  /-- A number with a point or an exponent, or one that is not finite: infinite, or no number. -/
  | float (finite : Bool)
  /-- Yes or no. -/
  | boolean (b : Bool)
  /-- A date, a time, or both. -/
  | moment
  /-- A list between brackets. -/
  | array (items : List Toml)
  /-- Named values. -/
  | table (origin : TableOrigin) (entries : List (String × Toml))
  /-- Tables of one header, of which the last one is open. -/
  | tables (all : List (List (String × Toml)))

namespace Toml

/-- The named values of a table. -/
abbrev Entries := List (String × Toml)

/-- The value of a name. -/
def get? (entries : Entries) (name : String) : Option Toml :=
  (entries.find? fun e => e.1 = name).map (·.2)

/-- With another value for a name, which keeps its place, or comes last if it is new. -/
def set (entries : Entries) (name : String) (v : Toml) : Entries :=
  if entries.any fun e => e.1 = name then
    entries.map fun e => if e.1 = name then (name, v) else e
  else entries ++ [(name, v)]

/-- Inserts a value by a dotted name, unless the name is taken or goes through a table that must
not be extended. -/
def insert (entries : Entries) (path : List String) (v : Toml) : Option Entries :=
  match path with
  | [] => none
  | [name] =>
    match get? entries name with
    | none => some (set entries name v)
    | some _ => none
  | name :: path =>
    let isLast := path.length = 1
    match get? entries name with
    | none => (insert [] path v).map fun es => set entries name (.table .dotted es)
    | some (.table .dotted es) =>
      (insert es path v).map fun es => set entries name (.table .dotted es)
    | some (.table .implied es) =>
      if isLast then none
      else (insert es path v).map fun es => set entries name (.table .implied es)
    | some (.tables all) =>
      match all.getLast? with
      | none => none
      | some es =>
        if isLast then none
        else (insert es path v).map fun es => set entries name (.tables (all.dropLast ++ [es]))
    | some _ => none

/-- Goes down one step of a header. -/
def descend (entries : Entries) (name : String) (go : Entries → Option Entries) :
    Option Entries :=
  match get? entries name with
  | none => (go []).map fun es => set entries name (.table .implied es)
  | some (.table .inline _) => none
  | some (.table origin es) => (go es).map fun es => set entries name (.table origin es)
  | some (.tables all) =>
    match all.getLast? with
    | none => none
    | some es => (go es).map fun es => set entries name (.tables (all.dropLast ++ [es]))
  | some _ => none

/-- Opens the table of a header, which must not have been defined before. -/
def openTable (entries : Entries) (path : List String) : Option Entries :=
  match path with
  | [] => none
  | [name] =>
    match get? entries name with
    | none => some (set entries name (.table .defined []))
    | some (.table .implied es) => some (set entries name (.table .defined es))
    | some _ => none
  | name :: path => descend entries name fun es => openTable es path

/-- Opens one more table of a header in double brackets. -/
def openItem (entries : Entries) (path : List String) : Option Entries :=
  match path with
  | [] => none
  | [name] =>
    match get? entries name with
    | none => some (set entries name (.tables [[]]))
    | some (.tables all) => some (set entries name (.tables (all ++ [[]])))
    | some _ => none
  | name :: path => descend entries name fun es => openItem es path

/-- Inserts a value into the table that a header has opened. -/
def insertUnder (entries : Entries) (header path : List String) (v : Toml) : Option Entries :=
  match header with
  | [] => insert entries path v
  | name :: header => descend entries name fun es => insertUnder es header path v

end Toml

end WirelessControl
