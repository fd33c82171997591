import WirelessControl.Command.Core
import WirelessControl.Wire.Put

/-!
# Requests as data

A `Recipe` says how a command builds its request: a vendor's command, one of the family's own or a
question to the control family, and what to write into it. It is built for whatever context the
engine has at that time.
-/

namespace WirelessControl

/-- How a request begins. -/
inductive RecipeHead where
  /-- A command of the family. -/
  | plain (command : UInt8) (flags : UInt16)
  /-- A question to the control family, which needs no other family to be known. -/
  | control (command : UInt8)
  /-- A vendor's command, about an interface or not. -/
  | vendor (binding : VendorBinding) (interface : Option UInt32)
  /-- A vendor's command whose parameters cannot be written, and why. -/
  | refused (binding : VendorBinding) (interface : Option UInt32) (cause : EncodingError)
deriving DecidableEq, Repr

/-- How a command builds its request. -/
structure Recipe where
  /-- How the request begins. -/
  head : RecipeHead
  /-- What is written into it. -/
  puts : List Put

namespace RecipeHead

/-- The request without anything written into it. Parameters that cannot be written are only looked
at when the rest of the request is there. -/
def request (head : RecipeHead) (ctx : EncodeContext) : Except EncodingError Request :=
  match head with
  | .plain command flags => ctx.request command flags
  | .control command => .ok (.new Message.controlFamily command 0 ctx.limit)
  | .vendor binding interface => ctx.vendorRequest binding interface
  | .refused binding interface cause => do
    let _ ← ctx.vendorRequest binding interface
    throw cause

end RecipeHead

namespace Recipe

/-- Builds the request. -/
def encode (recipe : Recipe) (ctx : EncodeContext) : Except EncodingError Request := do
  (← recipe.head.request ctx).build (Put.writeAll recipe.puts)

end Recipe

end WirelessControl
