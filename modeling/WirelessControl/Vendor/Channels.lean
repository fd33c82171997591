import WirelessControl.Vendor.Number

/-!
# Usable channels

A driver lists the channels that an interface mode may use. Its reply holds the number of channels
and packed records of three words each; the list is cut to that number, and to what the caller
accepts. Only soft access points can be asked about.
-/

namespace WirelessControl

/-- A question for usable channels. -/
structure ChannelQuery where
  /-- Mask of bands. -/
  band : UInt32
  /-- Mask of interface modes. -/
  mode : UInt32
  /-- Mask of filters. -/
  filter : UInt32
  /-- Most channels that the caller accepts. -/
  maxCount : UInt32
deriving DecidableEq, Repr

/-- A channel that can be used. -/
structure UsableChannel where
  /-- Centre frequency in MHz. -/
  frequency : UInt32
  /-- Code of the width. -/
  width : UInt32
  /-- Interface modes that may use it. -/
  modes : UInt32
deriving DecidableEq, Repr

namespace ChannelQuery

/-- The bit of soft access points. -/
def softApMode : UInt32 := 2

/-- The mode of a caller that does not know its own. -/
def unknownMode : UInt32 := 0xFFFFFFFF

/-- Whether the driver can be asked. -/
def isSupported (q : ChannelQuery) : Bool :=
  q.mode ≠ unknownMode && q.mode &&& softApMode ≠ 0

/-- Why the driver cannot be asked. -/
def unsupportedReason : String := "usable channels are only reported for soft AP"

/-- The command that asks, in its first state. -/
def core : CommandCore := { id := 0, label := "get_usable_channels" }

/-- The request. -/
def recipe (q : ChannelQuery) (interface : UInt32) : Recipe :=
  Vendor.recipe Vendor.getUsableChannels interface
    [.u32 1 q.band, .u32 2 q.mode, .u32 3 q.filter, .u32 4 q.maxCount]

end ChannelQuery

namespace UsableChannel

/-- The attribute with the number of channels. -/
def countKind : UInt16 := 5

/-- The attribute with the records. -/
def listKind : UInt16 := 6

/-- Bytes of a record. -/
def recordLength : Nat := 12

/-- The channel of a record. -/
def decode? (record : Bytes) : Option UsableChannel := do
  return ⟨← Word.u32? record, ← Word.u32? (record.drop 4), ← Word.u32? (record.drop 8)⟩

/-- The channels of at most `n` whole records; an incomplete record at the end is no record. -/
def decodeList : (n : Nat) → Bytes → List UsableChannel
  | 0, _ => []
  | n + 1, bs =>
    if !hasBytes recordLength bs then []
    else (decode? (bs.take recordLength)).toList ++ decodeList n (bs.drop recordLength)

/-- How many channels a count attribute announces, for a caller that accepts `maxCount`. -/
def announced (maxCount : UInt32) (a : Attribute) : Nat :=
  min (a.u32?.getD 0).toNat maxCount.toNat

/-- Goes through the attributes: a count holds for the lists behind it, a list behind a count that
is not zero replaces the list before it, and everything else is passed over. -/
def collect (maxCount : UInt32) : (count : Nat) → (found : List UsableChannel) → List Attribute →
    List UsableChannel
  | _, found, [] => found
  | count, found, a :: attrs =>
    if a.kind = countKind then collect maxCount (announced maxCount a) found attrs
    else if a.kind = listKind ∧ 0 < count then
      collect maxCount count (decodeList count a.payload) attrs
    else collect maxCount count found attrs

/-- The channels of a reply. A reply that is no vendor message lists none. -/
def ofReply (maxCount : UInt32) (m : Message) : List UsableChannel :=
  if Vendor.isVendorReply m then collect maxCount 0 [] m.vendorAttributes else []

end UsableChannel

end WirelessControl
