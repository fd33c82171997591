/-!
# Log output

How log records are written. Clients may spell the name of a format with letters of either case;
stored configurations have it in lower case.
-/

namespace WirelessControl

/-- How log records are written. -/
inductive LogFormat where
  /-- One JSON object for each record. -/
  | json
  /-- One line of text for each record. -/
  | compact
deriving DecidableEq, Repr

namespace LogFormat

/-- The name of the format. -/
def text : LogFormat → String
  | .json => "json"
  | .compact => "compact"

/-- The format of a name in lower case. -/
def ofName? (name : String) : Option LogFormat :=
  if name = "json" then some .json
  else if name = "compact" then some .compact
  else none

/-- The format of a name, whatever the case of its letters. Only letters of ASCII have two
cases. -/
def parse? (name : String) : Option LogFormat :=
  ofName? (String.ofList (name.toList.map Char.toLower))

/-- The text of the failure to find a format. -/
def unknownMessage : String := "Matching variant not found"

/-- Whether records are for programs to read. -/
def isStructured : LogFormat → Bool
  | .json => true
  | .compact => false

/-- Whether records are coloured, given whether they go to a terminal. -/
def usesColour (f : LogFormat) (terminal : Bool) : Bool := terminal && !f.isStructured

/-- Each format has a name. -/
theorem parse?_text (f : LogFormat) : parse? f.text = some f := by
  cases f <;> decide +kernel

end LogFormat

end WirelessControl
