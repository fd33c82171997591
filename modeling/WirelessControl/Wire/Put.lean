import WirelessControl.Wire.Request

/-!
# Attributes to write, as data

`Put` describes one thing to write into a request: a value under a kind, a nest around further
things, or a nest that is opened and never closed. `Put.write` and `Put.writeAll` carry the
description out, in order, up to the first failure.
-/

namespace WirelessControl

/-- One thing to write into a request. -/
inductive Put where
  /-- A byte. -/
  | u8 (kind : UInt16) (value : UInt8)
  /-- A 16-bit word. -/
  | u16 (kind : UInt16) (value : UInt16)
  /-- A 32-bit word. -/
  | u32 (kind : UInt16) (value : UInt32)
  /-- A 64-bit word. -/
  | u64 (kind : UInt16) (value : UInt64)
  /-- A text, with a NUL behind it. -/
  | text (kind : UInt16) (value : String)
  /-- Bytes as they are. -/
  | bytes (kind : UInt16) (value : Bytes)
  /-- A nest that nobody closes. -/
  | openNest (kind : UInt16)
  /-- A nest around further things. -/
  | nest (kind : UInt16) (inner : List Put)
deriving Inhabited

namespace Put

mutual

/-- Writes one thing. -/
def write : Put → Request.Build Unit
  | .u8 kind value => Request.putU8 kind value
  | .u16 kind value => Request.putU16 kind value
  | .u32 kind value => Request.putU32 kind value
  | .u64 kind value => Request.putU64 kind value
  | .text kind value => Request.putText kind value
  | .bytes kind value => Request.putBytes kind value
  | .openNest kind => discard (Request.nestStart kind)
  | .nest kind inner => Request.nested kind (writeAll inner)

/-- Writes things in order. -/
def writeAll : List Put → Request.Build Unit
  | [] => pure ()
  | p :: ps => do
    p.write
    writeAll ps

end

end Put

end WirelessControl
