import WirelessControl.Vendor.Number

/-!
# Firmware restarts

A driver tells when its firmware is restarted, and why. The reason is a text up to its first NUL,
read leniently.
-/

namespace WirelessControl.Restart

/-- The key of restart notifications. -/
def key : EventKey := .ofVendor Vendor.oui Vendor.subsystemRestart

/-- The id under which the one handler of restarts is registered. -/
def handlerId : RequestId := 0

/-- The reason in a block of vendor data. -/
def reason (data : Bytes) : String := Utf8.decodeLossy (upToNul data)

/-- The handler in its first state. -/
def core : CommandCore :=
  { id := handlerId, label := "subsystem_restart",
    binding := some (Vendor.binding Vendor.subsystemRestart) }

/-- The request of the handler, which is never sent: the handler only listens. -/
def recipe : Recipe where
  head := .vendor (Vendor.binding Vendor.subsystemRestart) none
  puts := []

end WirelessControl.Restart
