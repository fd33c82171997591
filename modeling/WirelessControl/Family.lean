import WirelessControl.Command.Recipe

/-!
# Families and their groups

The control family knows the number of each family and the multicast groups that it notifies. Its
reply holds the number, the name, and a nest of entries of which each holds the name and the number
of a group; an entry that lacks one of them is passed over.
-/

namespace WirelessControl

/-- What the control family says about a family. -/
structure FamilyInfo where
  /-- The number of the family. -/
  id : UInt16
  /-- The name, as reported. -/
  name : String
  /-- The multicast groups in order, with their numbers. -/
  groups : List (String × UInt32)
deriving DecidableEq, Repr

namespace FamilyInfo

/-- The command that asks for a family. -/
def queryCommand : UInt8 := 3

/-- The attribute with the number of a family. -/
def idKind : UInt16 := 1

/-- The attribute with the name of a family. -/
def nameKind : UInt16 := 2

/-- The attribute with the groups of a family. -/
def groupsKind : UInt16 := 7

/-- The attribute of an entry with the name of a group. -/
def groupNameKind : UInt16 := 1

/-- The attribute of an entry with the number of a group. -/
def groupIdKind : UInt16 := 2

/-- The command that asks for a family, in its first state. -/
def core : CommandCore := { id := 0, label := "get_family" }

/-- The request for a family. -/
def recipe (name : String) : Recipe where
  head := .control queryCommand
  puts := [.text nameKind name]

/-- The number of the first group of a name. -/
def group? (info : FamilyInfo) (name : String) : Option UInt32 :=
  (info.groups.find? (·.1 = name)).map (·.2)

/-- The group of an entry, if it has a name and a number. -/
def groupOfEntry? (entry : Attribute) : Option (String × UInt32) := do
  let name ← (← Attribute.lookup groupNameKind entry.inner).text?
  let id ← (← Attribute.lookup groupIdKind entry.inner).u32?
  return (name, id)

/-- What a reply says about a family, if it has the number. -/
def ofReply? (m : Message) : Option FamilyInfo := do
  let id ← (← m.attribute? idKind).u16?
  let name := ((m.attribute? nameKind).bind Attribute.text?).getD ""
  let groups := (m.attribute? groupsKind).elim [] fun a => a.inner.filterMap groupOfEntry?
  return ⟨id, name, groups⟩

end FamilyInfo

end WirelessControl
