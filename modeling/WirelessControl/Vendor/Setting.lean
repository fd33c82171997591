import WirelessControl.Vendor.Number

/-!
# Settings

Vendor commands that change something and expect nothing but an acknowledgement: the country code,
the latency mode, the channels shared with radar, the offload of neighbour discovery, and the
prefix of scanning addresses. A `Setting` is such a command with its arguments; a country code is
checked before anything is sent.
-/

namespace WirelessControl

/-- How the driver trades power for latency. -/
inductive LatencyMode where
  /-- Saving power. -/
  | normal
  /-- Low latency. -/
  | low
deriving DecidableEq, Repr

namespace LatencyMode

/-- The mode as logs show it. -/
def text : LatencyMode → String
  | .normal => "normal"
  | .low => "low"

/-- The mode on the wire. -/
def value : LatencyMode → UInt8
  | .normal => 0
  | .low => 1

end LatencyMode

/-- A vendor command that changes something. -/
inductive Setting where
  /-- The regulatory country. -/
  | countryCode (code : String)
  /-- The latency mode. -/
  | latencyMode (mode : LatencyMode)
  /-- Whether the channels shared with radar are forbidden. -/
  | noDfs (forbidden : Bool)
  /-- Whether neighbour discovery is offloaded. -/
  | ndOffload (enabled : Bool)
  /-- The first three bytes of scanning addresses. -/
  | scanningOui (first second third : UInt8)
deriving DecidableEq, Repr

namespace Setting

/-- The attribute with the country code. -/
def countryCodeKind : UInt16 := 4

/-- Whether a text is two letters or digits of ASCII. -/
def isCountryCode (code : String) : Bool :=
  code.utf8ByteSize = 2 && code.toList.all Char.isAlphanum

/-- What is wrong with the arguments, if anything. -/
def refusal? : Setting → Option EncodingError
  | .countryCode code =>
    if isCountryCode code then none
    else some (.invalidValue countryCodeKind "country code must be two ASCII letters or digits")
  | _ => none

/-- The label of the command. -/
def label : Setting → String
  | .countryCode _ => "set_country_code"
  | .latencyMode _ => "set_latency_mode"
  | .noDfs _ => "set_nodfs_flag"
  | .ndOffload _ => "configure_nd_offload"
  | .scanningOui _ _ _ => "set_scanning_mac_oui"

/-- The vendor's number of the command. -/
def subcommand : Setting → UInt32
  | .countryCode _ => Vendor.setCountryCode
  | .latencyMode _ => Vendor.setLatencyMode
  | .noDfs _ => Vendor.setNoDfs
  | .ndOffload _ => Vendor.configureNdOffload
  | .scanningOui _ _ _ => Vendor.setScanningOui

/-- What the block of vendor data holds. -/
def data : Setting → List Put
  | .countryCode code => [.text countryCodeKind code]
  | .latencyMode mode => [.u8 5 mode.value]
  | .noDfs forbidden => [.u32 3 (if forbidden then 1 else 0)]
  | .ndOffload enabled => [.u8 1 (if enabled then 1 else 0)]
  | .scanningOui a b c => [.bytes 2 [a, b, c]]

/-- The request for an interface. -/
def recipe (s : Setting) (interface : UInt32) : Recipe :=
  Vendor.recipe s.subcommand interface s.data

/-- The command in its first state. -/
def core (s : Setting) : CommandCore :=
  { id := 0, label := s.label, binding := some (Vendor.binding s.subcommand) }

/-- How the outcome is understood: a driver that was built without the offload of neighbour
discovery does not permit to switch it, and that is no failure. -/
def understood (s : Setting) (r : Except EngineError Unit) : Except EngineError Unit :=
  match s, r with
  | .ndOffload _, .error (.driver _ e) => if e = .notPermitted then .ok () else r
  | _, r => r

end Setting

end WirelessControl
