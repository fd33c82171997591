/-!
# Editions of the format

Documents are written in one of two editions. The newer one has more forms: times without seconds,
two more escapes, and tables between braces that go on over several lines and may end in a comma.
Readers of either edition bound how deep a document nests.
-/

namespace WirelessControl.Toml

/-- An edition of the format. -/
inductive Edition where
  /-- The first stable one. -/
  | older
  /-- The one behind it. -/
  | newer
deriving DecidableEq, Repr

namespace Edition

/-- Whether the forms of the newer edition may be used. -/
def isNewer : Edition → Bool
  | .older => false
  | .newer => true

/-- How many arrays and tables between braces may stand in each other, and how many parts a name
may have. -/
def limit : Edition → Nat
  | .older => 79
  | .newer => 80

end Edition

end WirelessControl.Toml
