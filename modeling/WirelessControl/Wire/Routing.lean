import WirelessControl.Text.Hexadecimal
import WirelessControl.Wire.Message

/-!
# Routing keys

A message is routed by its `EventKey`: its command, and for the vendor command also the vendor and
the number that the vendor gave to the message. A vendor message that lacks one of the two has no
key. The vendor's own bytes are one attribute, and a block without bytes counts as absent.

## Main statements

* `Message.key?_eq_some_iff`: which messages have which key.
* `EventKey.plain_vendorCommand_ne`: the key of the bare vendor command is the key of no message.
-/

namespace WirelessControl

/-- A vendor, and the number that the vendor gave to a command or a notification. -/
structure VendorBinding where
  /-- The vendor's number. -/
  vendor : UInt32
  /-- The number of the command or notification among the vendor's. -/
  subcommand : UInt32
deriving DecidableEq, Repr

/-- What a message is routed by. -/
structure EventKey where
  /-- The command of the message. -/
  code : UInt8
  /-- For a vendor message, what the vendor means by it. -/
  vendor : Option VendorBinding
deriving DecidableEq, Repr

namespace Message

/-- The command under which all vendor messages travel. -/
def vendorCommand : UInt8 := 103

end Message

namespace EventKey

/-- The key of messages with a command of their own. -/
def plain (code : UInt8) : EventKey := ⟨code, none⟩

/-- The key of vendor messages. -/
def ofVendor (vendor subcommand : UInt32) : EventKey :=
  ⟨Message.vendorCommand, some ⟨vendor, subcommand⟩⟩

/-- The key as messages show it; a vendor has at least six digits. -/
def text (key : EventKey) : String :=
  match key.vendor with
  | none => s!"cmd {key.code}"
  | some b =>
    s!"cmd {key.code}/vendor 0x{Hexadecimal.padded 6 b.vendor.toNat}/subcmd 0x{Hexadecimal.plain b.subcommand.toNat}"

end EventKey

namespace Message

/-- The attribute with the interface that a request is about. -/
def interfaceKind : UInt16 := 3

/-- The attribute with the vendor. -/
def vendorKind : UInt16 := 195

/-- The attribute with the vendor's number of the message. -/
def subcommandKind : UInt16 := 196

/-- The attribute with the vendor's own bytes. -/
def vendorDataKind : UInt16 := 197

/-- The first attribute of a kind. -/
def attribute? (m : Message) (kind : UInt16) : Option Attribute :=
  Attribute.lookup kind m.attributes

/-- The 32-bit word of the first attribute of a kind. -/
def word? (m : Message) (kind : UInt16) : Option UInt32 :=
  (m.attribute? kind).bind Attribute.u32?

/-- The vendor of a vendor message. -/
def vendor? (m : Message) : Option UInt32 := m.word? vendorKind

/-- The vendor's number of a vendor message. -/
def subcommand? (m : Message) : Option UInt32 := m.word? subcommandKind

/-- The vendor and its number, when both are there. -/
def binding? (m : Message) : Option VendorBinding := do
  return ⟨← m.vendor?, ← m.subcommand?⟩

/-- What the message is routed by. -/
def key? (m : Message) : Option EventKey :=
  m.command?.bind fun code =>
    if code = vendorCommand then m.binding?.map fun b => ⟨vendorCommand, some b⟩
    else some (.plain code)

/-- The vendor's own bytes; a block without bytes counts as absent. -/
def vendorData? (m : Message) : Option Bytes :=
  ((m.attribute? vendorDataKind).map (·.payload)).filter (!·.isEmpty)

/-- The vendor's own bytes as a run of attributes. -/
def vendorAttributes (m : Message) : List Attribute :=
  m.vendorData?.elim [] Attribute.parse

/-- Which messages have which key. -/
theorem key?_eq_some_iff {m : Message} {key : EventKey} :
    m.key? = some key ↔ ∃ code, m.command? = some code ∧
      (code ≠ vendorCommand ∧ key = .plain code ∨
        code = vendorCommand ∧ ∃ b, m.binding? = some b ∧ key = ⟨vendorCommand, some b⟩) := by
  unfold key?
  cases m.command? with
  | none => simp
  | some code =>
    by_cases hc : code = vendorCommand
    · cases m.binding? <;> simp [hc, eq_comm]
    · simp [hc, eq_comm]

end Message

/-- The key of the bare vendor command is the key of no message. -/
theorem EventKey.plain_vendorCommand_ne (m : Message) :
    m.key? ≠ some (.plain Message.vendorCommand) := by
  intro h
  obtain ⟨code, _, hk⟩ := Message.key?_eq_some_iff.1 h
  rcases hk with ⟨hne, he⟩ | ⟨_, b, _, he⟩
  · exact hne (congrArg EventKey.code he).symm
  · simpa [EventKey.plain] using congrArg EventKey.vendor he

end WirelessControl
