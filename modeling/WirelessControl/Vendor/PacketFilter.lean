import WirelessControl.Vendor.Number

/-!
# The packet filter

A driver can run a small program over received packets. The program is installed as its length
and its bytes; what the filter can do and the memory of the program can be asked for. A program
whose length is no word of 32 bits is refused. A reply that is no vendor message, or has no vendor
data, leaves the answer empty.
-/

namespace WirelessControl

namespace PacketFilter

/-- What the filter can do; all zero when there is none. -/
structure Capabilities where
  /-- Version of the interpreter. -/
  version : UInt32 := 0
  /-- Longest program, in bytes. -/
  maxLength : UInt32 := 0
deriving DecidableEq, Repr

/-- The attribute with the version. -/
def versionKind : UInt16 := 0

/-- The attribute with the longest length of a program. -/
def maxLengthKind : UInt16 := 1

/-- The attribute with a program. -/
def programKind : UInt16 := 2

/-- The attribute with the length of a program. -/
def programLengthKind : UInt16 := 3

/-- The command that asks what the filter can do, in its first state. -/
def capabilitiesCore : CommandCore := { id := 0, label := "apf_capabilities" }

/-- The command that asks for the memory of the filter, in its first state. -/
def readCore : CommandCore := { id := 0, label := "apf_read_filter" }

/-- The command that installs a program, in its first state. -/
def installCore : CommandCore := { id := 0, label := "apf_set_filter" }

/-- The request that asks what the filter can do. -/
def capabilitiesRecipe (interface : UInt32) : Recipe :=
  Vendor.queryRecipe Vendor.getFilterCapabilities interface

/-- The request that asks for the memory of the filter. -/
def readRecipe (interface : UInt32) : Recipe :=
  Vendor.queryRecipe Vendor.readFilter interface

/-- Why a program cannot be installed, if its length is no word. -/
def refusal? (program : Bytes) : Option EncodingError :=
  if program.length < UInt32.size then none
  else some (.invalidValue programLengthKind "program length exceeds u32")

/-- The request that installs a program. -/
def installRecipe (interface : UInt32) (program : Bytes) : Recipe :=
  (refusal? program).elim
    (Vendor.recipe Vendor.installFilter interface
      [.u32 programLengthKind (UInt32.ofNat program.length), .bytes programKind program])
    (Vendor.refusedRecipe Vendor.installFilter interface)

/-- What one attribute says about the filter; the last word counts. -/
def Capabilities.absorb (c : Capabilities) (a : Attribute) : Capabilities :=
  if a.kind = versionKind then { c with version := a.u32?.getD 0 }
  else if a.kind = maxLengthKind then { c with maxLength := a.u32?.getD 0 }
  else c

/-- What the filter can do, as its reply says. -/
def Capabilities.ofReply (m : Message) : Capabilities :=
  if Vendor.isVendorReply m then m.vendorAttributes.foldl Capabilities.absorb {} else {}

/-- The part of the filter's memory that was asked for. -/
def window (offset length : Nat) (data : Bytes) : Bytes :=
  (data.drop offset).take length

/-- The part of the filter's memory that was asked for, as the reply has it. -/
def memoryOfReply (offset length : Nat) (m : Message) : Bytes :=
  if Vendor.isVendorReply m then m.vendorData?.elim [] (window offset length) else []

end PacketFilter

end WirelessControl
