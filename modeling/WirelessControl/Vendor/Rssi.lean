import WirelessControl.Vendor.Number

/-!
# Signal strength

A monitor asks the driver to watch the signal strength of an interface between two thresholds. A
report of the driver begins with the measured strength, a signed byte, and the address of the
access point; a shorter one is no report.

## Main statements

* `RssiBreach.decode?_isSome_iff`: seven bytes make a report.
-/

namespace WirelessControl

/-- A report that the signal strength left the watched range. -/
structure RssiBreach where
  /-- The id under which the monitor was started. -/
  id : RequestId
  /-- Address of the access point. -/
  address : Bytes
  /-- Measured strength in dBm. -/
  strength : Int
deriving DecidableEq, Repr

namespace RssiBreach

/-- The key of reports. -/
def key : EventKey := .ofVendor Vendor.oui Vendor.rssiReport

/-- Bytes of a report. -/
def length : Nat := 7

/-- The report in a block of vendor data. -/
def decode? (id : RequestId) : Bytes → Option RssiBreach
  | [] => none
  | strength :: rest =>
    if rest.length + 1 < length then none
    else some ⟨id, rest.take (length - 1), Word.signed8 strength⟩

/-- Seven bytes make a report. -/
theorem decode?_isSome_iff (id : RequestId) (data : Bytes) :
    (decode? id data).isSome ↔ 7 ≤ data.length := by
  cases data with
  | nil => simp [decode?]
  | cons b bs =>
    by_cases h : bs.length + 1 < 7
    · simp [decode?, length, h]
      omega
    · simp [decode?, length, h]
      omega

end RssiBreach

/-- The range that a monitor watches on an interface. -/
structure RssiWatch where
  /-- The interface. -/
  interface : UInt32
  /-- Upper threshold, a signed byte. -/
  max : UInt8
  /-- Lower threshold, a signed byte. -/
  min : UInt8
deriving DecidableEq, Repr

namespace RssiWatch

/-- The request that starts or stops watching. -/
def recipe (w : RssiWatch) (start : Bool) : Recipe :=
  Vendor.recipe Vendor.setRssiMonitor w.interface
    [.u8 1 w.max, .u8 2 w.min, .u8 3 (if start then 1 else 0)]

/-- The request that stops watching an interface, whatever the range. -/
def stopRecipe (w : RssiWatch) : Recipe :=
  recipe { w with max := 0, min := 0 } false

/-- The monitor in its first state. -/
def core (id : RequestId) : CommandCore :=
  { id := id, label := "rssi_monitor", binding := some (Vendor.binding Vendor.setRssiMonitor) }

/-- The command that stops the monitor, in its first state. -/
def stopCore (id : RequestId) : CommandCore :=
  { id := id, label := "rssi_monitor_stop" }

/-- The id that stops watching without a monitor. -/
def untrackedId : RequestId := -1

end RssiWatch

end WirelessControl
