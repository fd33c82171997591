import WirelessControl.Vendor.Number

/-!
# Features of a driver

A driver reports what it can do as a mask of 64 bits, of which it may send fewer bytes.
-/

namespace WirelessControl

/-- What a driver can do, one bit each. -/
structure FeatureSet where
  /-- The mask. -/
  bits : UInt64 := 0
deriving DecidableEq, Repr

namespace FeatureSet

/-- Whether every one of `flags` is there. -/
def contains (s : FeatureSet) (flags : UInt64) : Bool :=
  s.bits &&& flags == flags

/-- Reads up to eight bytes; those that are missing count as zero. -/
def ofVendorData (data : Bytes) : FeatureSet :=
  ⟨UInt64.ofNat (Word.decode (data.take 8))⟩

/-- The command that asks for the features, in its first state. -/
def core : CommandCore := { id := 0, label := "get_feature_set" }

/-- The request that asks for the features. -/
def recipe (interface : UInt32) : Recipe :=
  Vendor.queryRecipe Vendor.getFeatureSet interface

/-- The features of a reply. A reply that is no vendor message, or has no vendor data, has none. -/
def ofReply (m : Message) : FeatureSet :=
  if Vendor.isVendorReply m then m.vendorData?.elim {} ofVendorData else {}

end FeatureSet

end WirelessControl
