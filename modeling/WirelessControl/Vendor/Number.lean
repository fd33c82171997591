import WirelessControl.Command.Recipe

/-!
# The vendor's numbers

The driver's vendor commands, the notifications that it sends, and the attributes inside the block
of vendor data. All of them belong to one vendor.

`Vendor.recipe` is the form of every vendor request that carries something: the interface, the
vendor's number of the command and a block of vendor data. `Vendor.queryRecipe` is the form of those
that only ask, and `Vendor.refusedRecipe` of those that come to nothing.
-/

namespace WirelessControl

namespace Vendor

/-- The vendor that all commands and notifications here belong to. -/
def oui : UInt32 := 0x001A11

/-- Programs the prefix of the addresses that scans are made under. -/
def setScanningOui : UInt32 := 0x1005

/-- Forbids or allows the channels shared with radar. -/
def setNoDfs : UInt32 := 0x1006

/-- Starts or stops watching the signal strength. -/
def setRssiMonitor : UInt32 := 0x100D

/-- Asks for the driver's features. -/
def getFeatureSet : UInt32 := 0x1011

/-- Sets the regulatory country. -/
def setCountryCode : UInt32 := 0x1012

/-- Switches the offload of neighbour discovery. -/
def configureNdOffload : UInt32 := 0x1013

/-- Switches between normal and low latency. -/
def setLatencyMode : UInt32 := 0x1016

/-- Installs a packet filter program. -/
def installFilter : UInt32 := 0x1017

/-- Asks what the packet filter can do. -/
def getFilterCapabilities : UInt32 := 0x1018

/-- Reads the memory of the packet filter. -/
def readFilter : UInt32 := 0x1019

/-- Asks for the channels that can be used. -/
def getUsableChannels : UInt32 := 0x101A

/-- Notification that the signal strength left the watched range. -/
def rssiReport : UInt32 := 14

/-- Notification that the firmware is restarted. -/
def subsystemRestart : UInt32 := 31

/-- The binding of a command of the vendor. -/
def binding (subcommand : UInt32) : VendorBinding := ⟨oui, subcommand⟩

/-- The request for a vendor command that only asks. -/
def queryRecipe (subcommand interface : UInt32) : Recipe where
  head := .vendor (binding subcommand) (some interface)
  puts := []

/-- The request for a vendor command with a block of vendor data. -/
def recipe (subcommand interface : UInt32) (data : List Put) : Recipe where
  head := .vendor (binding subcommand) (some interface)
  puts := [.nest Message.vendorDataKind data]

/-- The request for a vendor command whose parameters cannot be written. -/
def refusedRecipe (subcommand interface : UInt32) (cause : EncodingError) : Recipe where
  head := .refused (binding subcommand) (some interface) cause
  puts := []

/-- Whether a reply is a vendor message at all. -/
def isVendorReply (m : Message) : Bool := m.command? == some Message.vendorCommand

end Vendor

end WirelessControl
