import WirelessControl.Wire.Routing

/-!
# Requests under construction

A request is built attribute by attribute in one buffer that begins with room for the header. The
operations live in the monad `Build`, which keeps the request also when one of them fails, so that
what a failed operation leaves behind can be seen. Nothing is written unless it fits the limit.

A nest is opened by `nestStart`, which yields the place of its header, and closed by `nestEnd`,
which writes its length there. The request counts its open nests and does not remember which ones
they are: `nestEnd` accepts any place that was opened once. `Request.finish` fills the header in,
and refuses while a nest is open.

## Main statements

* `Request.putBytes_run`: what one attribute adds to the buffer, and when it is refused.
* `Request.nestStart_run`, `Request.nestEnd_run`: the same for nests.
* `Request.finish_eq_ok_iff`: a request is finished exactly when no nest is open and its length
  has 32 bits.
-/

namespace WirelessControl

/-- Why a request cannot be built. -/
inductive EncodingError where
  /-- The request would be longer than its limit. -/
  | overflow (limit : Nat)
  /-- The value of an attribute cannot be written. -/
  | invalidValue (kind : UInt16) (reason : String)
  /-- A nest was left open, or one was closed that is not open. -/
  | unbalancedNest
  /-- The family is not known yet. -/
  | unresolvedFamily
deriving DecidableEq, Repr

namespace EncodingError

/-- The text of an encoding error. -/
def message : EncodingError → String
  | .overflow limit => s!"request exceeds the {limit} byte message limit"
  | .invalidValue kind reason => s!"invalid value for attribute {kind}: {reason}"
  | .unbalancedNest => "unbalanced nested attribute"
  | .unresolvedFamily => "generic netlink family is not resolved"

end EncodingError

/-- A request under construction. -/
structure Request where
  /-- The message so far, with sixteen bytes kept for the header. -/
  buffer : Bytes
  /-- Most bytes that the message may have. -/
  limit : Nat
  /-- Family that the message goes to. -/
  family : UInt16
  /-- Request flags. -/
  flags : UInt16
  /-- Command of the message. -/
  command : UInt8
  /-- How many nests are open. -/
  openNests : Nat
deriving DecidableEq, Repr

/-- The place of an open nest: where its header begins. -/
structure Nest where
  /-- Bytes in front of the nest's header. -/
  offset : Nat
deriving DecidableEq, Repr

namespace Request

/-- Operations on a request under construction. A failure keeps what was built so far. -/
abbrev Build := EStateM EncodingError Request

/-- The flag that marks a request. -/
def requestFlag : UInt16 := 1

/-- The flag that asks for an acknowledgement. -/
def ackFlag : UInt16 := 4

/-- Most bytes that one attribute can have, its header included. -/
def maxAttributeLength : Nat := 65535

/-- An empty request: room for the header, and the command. Its own length is not held against
the limit. -/
def new (family : UInt16) (command : UInt8) (flags : UInt16) (limit : Nat) : Request where
  buffer := List.replicate Header.size 0 ++ [command, 0, 0, 0]
  limit := limit
  family := family
  flags := flags ||| requestFlag ||| ackFlag
  command := command
  openNests := 0

/-- Bytes of the message so far. -/
def length (r : Request) : Nat := r.buffer.length

/-- Whether no attribute has been written. -/
def isEmpty (r : Request) : Bool := r.length ≤ Header.size + Message.commandHeaderSize

/-- Refuses to add bytes beyond the limit. -/
def reserve (additional : Nat) : Build Unit := do
  let r ← get
  if r.limit < r.length + additional then throw (.overflow r.limit)

/-- Writes bytes behind those that are there. -/
def append (bs : Bytes) : Build Unit :=
  modify fun r => { r with buffer := r.buffer ++ bs }

/-- One attribute as bytes, with the padding behind it. -/
def encodeAttribute (kind : UInt16) (payload : Bytes) : Bytes :=
  let length := Attribute.headerLength + payload.length
  Word.encode 2 length ++ Word.ofU16 kind ++ payload ++ List.replicate (align length - length) 0

/-- Writes an attribute. -/
def putBytes (kind : UInt16) (payload : Bytes) : Build Unit := do
  let length := Attribute.headerLength + payload.length
  if maxAttributeLength < length then
    throw (.invalidValue kind "payload longer than an attribute can carry")
  reserve (align length)
  append (encodeAttribute kind payload)

/-- Writes a one-byte attribute. -/
def putU8 (kind : UInt16) (value : UInt8) : Build Unit :=
  putBytes kind [value]

/-- Writes a 16-bit attribute. -/
def putU16 (kind : UInt16) (value : UInt16) : Build Unit :=
  putBytes kind (Word.ofU16 value)

/-- Writes a 32-bit attribute. -/
def putU32 (kind : UInt16) (value : UInt32) : Build Unit :=
  putBytes kind (Word.ofU32 value)

/-- Writes a 64-bit attribute. -/
def putU64 (kind : UInt16) (value : UInt64) : Build Unit :=
  putBytes kind (Word.ofU64 value)

/-- Writes a text with a NUL behind it. The text itself has none. -/
def putText (kind : UInt16) (value : String) : Build Unit := do
  let bs := Utf8.encode value
  if 0 ∈ bs then throw (.invalidValue kind "string contains a NUL byte")
  putBytes kind (bs ++ [0])

/-- Opens a nest and yields its place. -/
def nestStart (kind : UInt16) : Build Nest := do
  reserve Attribute.headerLength
  let r ← get
  set { r with
    buffer := r.buffer ++ Word.ofU16 0 ++ Word.ofU16 (kind ||| Attribute.nestedFlag)
    openNests := r.openNests + 1 }
  return ⟨r.length⟩

/-- Overwrites the two bytes at `offset`. -/
def patch (offset : Nat) (word : Bytes) (bs : Bytes) : Bytes :=
  bs.take offset ++ word ++ bs.drop (offset + 2)

/-- Closes a nest: the distance from its header to the end of the buffer becomes its length. -/
def nestEnd (nest : Nest) : Build Unit := do
  let r ← get
  if r.openNests = 0 ∨ r.length < nest.offset then throw .unbalancedNest
  let length := r.length - nest.offset
  if maxAttributeLength < length then throw (.overflow maxAttributeLength)
  if r.length < nest.offset + 2 then throw .unbalancedNest
  set { r with
    buffer := patch nest.offset (Word.encode 2 length) r.buffer
    openNests := r.openNests - 1 }

/-- Puts what `write` writes into a nest. A failure inside leaves the nest open. -/
def nested (kind : UInt16) (write : Build Unit) : Build Unit := do
  let nest ← nestStart kind
  write
  nestEnd nest

/-- Carries out building operations; the result is the request that they leave, unless one
failed. -/
def build (r : Request) (b : Build Unit) : Except EncodingError Request :=
  match b.run r with
  | .ok _ r' => .ok r'
  | .error e _ => .error e

/-- A vendor request: the interface, if it is about one, the vendor and the vendor's number. -/
def ofVendor (family : UInt16) (binding : VendorBinding) (interface : Option UInt32)
    (limit : Nat) : Except EncodingError Request :=
  (new family Message.vendorCommand 0 limit).build do
    if let some index := interface then putU32 Message.interfaceKind index
    putU32 Message.vendorKind binding.vendor
    putU32 Message.subcommandKind binding.subcommand

/-- The header that a finished request begins with. -/
def header (r : Request) (seq port : UInt32) : Header :=
  ⟨UInt32.ofNat r.length, r.family, r.flags, seq, port⟩

/-- Fills the header in. -/
def finish (r : Request) (seq port : UInt32) : Except EncodingError Bytes :=
  if r.openNests ≠ 0 then .error .unbalancedNest
  else if UInt32.size ≤ r.length then .error (.overflow r.limit)
  else .ok ((r.header seq port).encode ++ r.buffer.drop Header.size)

/-- One attribute adds its bytes, unless it is too long for its own length field or for the
request; a refusal changes nothing. -/
theorem putBytes_run (kind : UInt16) (payload : Bytes) (r : Request) :
    (putBytes kind payload).run r =
      if 65535 < 4 + payload.length then
        .error (.invalidValue kind "payload longer than an attribute can carry") r
      else if r.limit < r.length + align (4 + payload.length) then .error (.overflow r.limit) r
      else .ok () { r with buffer := r.buffer ++ encodeAttribute kind payload } := by
  unfold putBytes reserve append
  simp only [maxAttributeLength, Attribute.headerLength]
  by_cases h1 : 65535 < 4 + payload.length
  · simp [h1]
  · by_cases h2 : r.limit < r.length + align (4 + payload.length) <;> simp [h1, h2]

/-- A nest adds its header, unless that is too long for the request. -/
theorem nestStart_run (kind : UInt16) (r : Request) :
    (nestStart kind).run r =
      if r.limit < r.length + 4 then .error (.overflow r.limit) r
      else .ok ⟨r.length⟩ { r with
        buffer := r.buffer ++ Word.ofU16 0 ++ Word.ofU16 (kind ||| Attribute.nestedFlag)
        openNests := r.openNests + 1 } := by
  unfold nestStart reserve
  simp only [Attribute.headerLength]
  by_cases h : r.limit < r.length + 4
  · simp [h]
  · simp only [h, if_false, EStateM.run_bind, EStateM.run_get, EStateM.run_set, EStateM.run_pure]

/-- A closed nest changes the two bytes of its length and the number of open nests. -/
theorem nestEnd_run (nest : Nest) (r : Request) :
    (nestEnd nest).run r =
      if r.openNests = 0 ∨ r.length < nest.offset then .error .unbalancedNest r
      else if 65535 < r.length - nest.offset then .error (.overflow 65535) r
      else if r.length < nest.offset + 2 then .error .unbalancedNest r
      else .ok () { r with
        buffer := patch nest.offset (Word.encode 2 (r.length - nest.offset)) r.buffer
        openNests := r.openNests - 1 } := by
  unfold nestEnd
  simp only [maxAttributeLength]
  by_cases h1 : r.openNests = 0 ∨ r.length < nest.offset
  · simp [h1]
  · by_cases h2 : 65535 < r.length - nest.offset
    · simp [h1, h2]
    · by_cases h3 : r.length < nest.offset + 2 <;> simp [h1, h2, h3]

/-- A request is finished exactly when no nest is open and its length has 32 bits. -/
theorem finish_eq_ok_iff {r : Request} {seq port : UInt32} {bs : Bytes} :
    r.finish seq port = .ok bs ↔ r.openNests = 0 ∧ r.length < UInt32.size ∧
      bs = (r.header seq port).encode ++ r.buffer.drop 16 := by
  unfold finish
  split
  · simp_all
  · split
    · next h =>
      constructor
      · intro hbs
        cases hbs
      · rintro ⟨_, hlt, _⟩
        exact absurd hlt (Nat.not_lt.2 h)
    · simp_all [Header.size, eq_comm]

end Request

end WirelessControl
