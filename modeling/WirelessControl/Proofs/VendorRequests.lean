import WirelessControl.Proofs.Framing
import WirelessControl.Proofs.Rollback
import WirelessControl.Proofs.Room

/-!
# Vendor requests carry exactly their parameters

Whatever a vendor operation asks for, it writes one message: a vendor's command to the family, about
an interface, with the vendor's number of the operation and a block of vendor data. `VendorRequest`
says what such a message carries, and `Session.request?` says which one belongs to an operation, in
plain numbers. The theorem reads the bytes that were written and finds these parameters, by the
readers that a driver would use.

Two things stand between an operation and its bytes. The operation may not come to a request at all:
its arguments make no sense, its id is taken, its monitor was cancelled before. And the request may
not fit the limit, in which case nothing is written and the command that it was built for is as new
as before.

## Main definitions

* `VendorRequest`, `VendorRequest.Carries` — what a request carries, and a message that says so
* `Session.request?` — the request of an operation
* `Session.Unmoved` — a call whose request cannot be built leaves its command new

## Main results

* `VendorRequest.exists_encode_iff` — when a request can be built
* `VendorRequest.carries_of_finish` — a request that is built says what it carries
* `Session.vendor_request_carries` — what an operation writes
-/

namespace WirelessControl

/-! ### What a request carries -/

/-- What a vendor request carries. -/
structure VendorRequest where
  /-- The interface that it is about. -/
  interface : UInt32
  /-- The vendor's number of the command. -/
  subcommand : UInt32
  /-- What stands in the block of vendor data. A question without parameters has no block. -/
  data : List Put
  /-- Why the parameters cannot be written, if they cannot. -/
  refusal : Option EncodingError

namespace VendorRequest

/-- How the request is built. -/
def recipe (v : VendorRequest) : Recipe :=
  v.refusal.elim
    (if v.data.isEmpty then Vendor.queryRecipe v.subcommand v.interface
    else Vendor.recipe v.subcommand v.interface v.data)
    (Vendor.refusedRecipe v.subcommand v.interface)

/-- The attributes of the message. -/
def attributes (v : VendorRequest) : List Put :=
  [.u32 3 v.interface, .u32 195 0x001A11, .u32 196 v.subcommand] ++ v.recipe.puts

/-- A message is a vendor's command to a family, and its attributes say what the request carries. -/
structure Carries (v : VendorRequest) (family : UInt16) (m : Message) : Prop where
  family : m.header.kind = family
  command : m.command? = some 103
  interface : m.word? Message.interfaceKind = some v.interface
  vendor : m.vendor? = some 0x001A11
  subcommand : m.subcommand? = some v.subcommand
  noData : v.data = [] → m.vendorData? = none
  data : Put.ReadsAll v.data m.vendorAttributes

end VendorRequest

open Put in
theorem Request.ofVendor_eq_writeAll (family : UInt16) (binding : VendorBinding)
    (interface : UInt32) (limit : Nat) :
    Request.ofVendor family binding (some interface) limit =
      (Request.new family 103 0 limit).build
        (writeAll [.u32 3 interface, .u32 195 binding.vendor, .u32 196 binding.subcommand]) := by
  simp only [ofVendor, writeAll, write, bind_pure_unit]
  rfl

theorem Request.build_writeAll {ps : List Put} (hps : Put.IsForest ps) {r r' : Request}
    (h : r.build (Put.writeAll ps) = .ok r') :
    Put.FitsAll ps ∧ r' = { r with buffer := r.buffer ++ Put.encodeAll ps } := by
  rw [build] at h
  split at h
  · next hrun =>
    cases h
    exact Put.writeAll_run_ok ps hps hrun
  · cases h

theorem Request.exists_build_iff {r : Request} {b : Request.Build Unit} :
    (∃ r', r.build b = .ok r') ↔ ∃ r', b.run r = .ok () r' := by
  rw [build]
  cases b.run r <;> simp

theorem Put.writeAll_append (ps qs : List Put) :
    writeAll (ps ++ qs) = (writeAll ps >>= fun _ => writeAll qs) := by
  induction ps with
  | nil => simp only [List.nil_append, writeAll, pure_bind]
  | cons p ps ih => simp only [List.cons_append, writeAll, ih, bind_assoc]

/-- Two buildings one after the other are one building. -/
theorem Request.build_writeAll_append (r : Request) (ps qs : List Put) :
    r.build (Put.writeAll (ps ++ qs)) =
      (r.build (Put.writeAll ps) >>= fun r' => r'.build (Put.writeAll qs)) := by
  rw [Put.writeAll_append, build, build, EStateM.run_bind]
  cases (Put.writeAll ps).run r <;> rfl

namespace VendorRequest

variable {v : VendorRequest} {ctx : EncodeContext} {family : UInt16} {r : Request}

theorem isForest_attributes (h : Put.IsForest v.data) : Put.IsForest v.attributes := by
  have hputs : Put.IsForest v.recipe.puts := by
    rw [recipe]
    cases v.refusal with
    | some e => exact trivial
    | none =>
      rw [Option.elim_none]
      split
      · exact trivial
      · exact ⟨⟨by decide, h⟩, trivial⟩
  simp [attributes, Put.IsForest, Put.IsTree, hputs]

theorem recipe_of_writable (h : v.refusal = none) : v.recipe =
    if v.data.isEmpty then Vendor.queryRecipe v.subcommand v.interface
    else Vendor.recipe v.subcommand v.interface v.data := by
  rw [recipe, h, Option.elim_none]

theorem head_recipe (h : v.refusal = none) :
    v.recipe.head = .vendor (Vendor.binding v.subcommand) (some v.interface) := by
  rw [recipe_of_writable h]
  split <;> rfl

/-- A request whose parameters cannot be written is not built, whatever room there is. -/
theorem encode_ne_ok {e : EncodingError} (h : v.refusal = some e) :
    v.recipe.encode ctx ≠ .ok r := by
  rw [recipe, h, Option.elim_some, Recipe.encode, Vendor.refusedRecipe, RecipeHead.request]
  intro hbuilt
  cases hhead : ctx.vendorRequest (Vendor.binding v.subcommand) (some v.interface) with
  | error e' =>
    rw [hhead] at hbuilt
    cases hbuilt
  | ok bound =>
    rw [hhead] at hbuilt
    cases hbuilt

/-- The request is built from its attributes. -/
theorem encode_eq (hwritable : v.refusal = none) (hfamily : ctx.family = some family) :
    v.recipe.encode ctx =
      (Request.new family 103 0 ctx.limit).build (Put.writeAll v.attributes) := by
  have hhead : v.recipe.head.request ctx = (Request.new family 103 0 ctx.limit).build
      (Put.writeAll [.u32 3 v.interface, .u32 195 0x001A11, .u32 196 v.subcommand]) := by
    rw [head_recipe hwritable, RecipeHead.request, EncodeContext.vendorRequest,
      EncodeContext.resolved, hfamily]
    exact Request.ofVendor_eq_writeAll family (Vendor.binding v.subcommand) v.interface ctx.limit
  rw [attributes, Request.build_writeAll_append, Recipe.encode, hhead]

/-- A request that could be built, and what stands in its buffer. -/
theorem encode_eq_ok (hfamily : ctx.family = some family) (hdata : Put.IsForest v.data)
    (h : v.recipe.encode ctx = .ok r) :
    v.refusal = none ∧ Put.FitsAll v.attributes ∧ r = { Request.new family 103 0 ctx.limit with
      buffer := (Request.new family 103 0 ctx.limit).buffer ++ Put.encodeAll v.attributes } := by
  cases hrefusal : v.refusal with
  | some e => exact absurd h (encode_ne_ok hrefusal)
  | none =>
    rw [encode_eq hrefusal hfamily] at h
    exact ⟨rfl, Request.build_writeAll (isForest_attributes hdata) h⟩

/-- A request that can be written is built when the family is known and its attributes fit, and not
otherwise. -/
theorem exists_encode_iff (hwritable : v.refusal = none) (hdata : Put.IsForest v.data) :
    (∃ r, v.recipe.encode ctx = .ok r) ↔ ctx.family.isSome = true ∧ Put.FitsAll v.attributes ∧
      20 + (Put.encodeAll v.attributes).length ≤ ctx.limit := by
  cases hfamily : ctx.family with
  | none =>
    have hunknown : v.recipe.encode ctx = .error .unresolvedFamily := by
      rw [Recipe.encode, head_recipe hwritable, RecipeHead.request, EncodeContext.vendorRequest,
        EncodeContext.resolved, hfamily]
      rfl
    simp [hunknown]
  | some family =>
    have hroom := Put.writeAll_succeeds_iff (isForest_attributes hdata) (List.cons_ne_nil _ _)
      (Request.new family 103 0 ctx.limit)
    rw [encode_eq hwritable hfamily, Request.exists_build_iff, Option.isSome_some]
    exact hroom.trans (and_iff_right rfl).symm

theorem payload_ne_nil {data : List Put} (h : data ≠ []) : Put.encodeAll data ≠ [] := by
  cases data with
  | nil => exact absurd rfl h
  | cons p ps =>
    have hlength := congrArg List.length (Put.encodeAll.eq_2 p ps)
    rw [List.length_append, Request.length_encodeAttribute] at hlength
    have halign := le_align (4 + p.payload.length)
    refine List.ne_nil_of_length_pos ?_
    omega

/-- The block of vendor data is the fourth attribute, if there is anything to put into it. -/
theorem block_of_readsAll (hwritable : v.refusal = none) {behind : List Attribute}
    (h : Put.ReadsAll v.recipe.puts behind) :
    (v.data = [] ∧ behind = []) ∨ v.data ≠ [] ∧ ∃ block, behind = [block] ∧ block.kind = 197 ∧
      block.payload ≠ [] ∧ Put.ReadsAll v.data block.inner := by
  rw [recipe_of_writable hwritable] at h
  cases hdata : v.data with
  | nil =>
    rw [hdata] at h
    exact .inl ⟨rfl, h⟩
  | cons p ps =>
    rw [hdata] at h
    obtain ⟨block, behind, rfl, ⟨rfl, hinner⟩, rfl⟩ := h
    have hne : p :: ps ≠ [] := List.cons_ne_nil p ps
    exact .inr ⟨hne, _, rfl, rfl, payload_ne_nil hne, hinner⟩

/-- Attributes that say what the request carries are found by the readers of messages. -/
theorem carries_of_attributes (hwritable : v.refusal = none) {m : Message}
    (hkind : m.header.kind = family) (hcommand : m.command? = some 103)
    (h : Put.ReadsAll v.attributes m.attributes) :
    v.Carries family m := by
  obtain ⟨interface, behind, hfirst, ⟨rfl, hinterface⟩, h⟩ := h
  obtain ⟨vendor, behind, rfl, ⟨rfl, hvendor⟩, h⟩ := h
  obtain ⟨subcommand, behind, rfl, ⟨rfl, hsubcommand⟩, h⟩ := h
  have hword (kind : UInt16) : m.word? kind =
      (Attribute.lookup kind m.attributes).bind Attribute.u32? := rfl
  have hblock : m.vendorData? = ((Attribute.lookup 197 m.attributes).map (·.payload)).filter
      (!·.isEmpty) := rfl
  have hinterface' : m.word? Message.interfaceKind = some v.interface := by
    rw [hword, hfirst]
    exact hinterface
  have hvendor' : m.vendor? = some 0x001A11 := by
    rw [Message.vendor?, hword, hfirst]
    exact hvendor
  have hsubcommand' : m.subcommand? = some v.subcommand := by
    rw [Message.subcommand?, hword, hfirst]
    exact hsubcommand
  rcases block_of_readsAll hwritable h with ⟨hdata, rfl⟩ |
    ⟨hdata, block, rfl, hkind197, hne, hinner⟩
  · have hnone : m.vendorData? = none := by
      rw [hblock, hfirst]
      rfl
    refine ⟨hkind, hcommand, hinterface', hvendor', hsubcommand', fun _ => hnone, ?_⟩
    rw [hdata, Message.vendorAttributes, hnone]
    rfl
  · have hsome : m.vendorData? = some block.payload := by
      rw [hblock, hfirst]
      simp [Attribute.lookup, hkind197, hne]
    refine ⟨hkind, hcommand, hinterface', hvendor', hsubcommand', fun h => absurd h hdata, ?_⟩
    rw [Message.vendorAttributes, hsome]
    exact hinner

/-- **A request that is built says what it carries,** in one message and nothing behind it. -/
theorem carries_of_finish (hfamily : ctx.family = some family) (hreal : 0x10 ≤ family)
    (hdata : Put.IsForest v.data) (hencode : v.recipe.encode ctx = .ok r) {seq port : UInt32}
    {bytes : Bytes} (hfinish : r.finish seq port = .ok bytes) :
    ∃ m, Message.parse bytes = .ok (m, []) ∧ v.Carries family m := by
  let sent : Request.Finished := ⟨r, seq, port, bytes, Recipe.built_encode hencode, hfinish⟩
  have hparse : Message.parse bytes = .ok (sent.message, []) := by
    rw [← sent.parse_append [], List.append_nil]
  obtain ⟨hwritable, hfits, hr⟩ := encode_eq_ok hfamily hdata hencode
  have hkind : sent.message.header.kind = family := congrArg Request.family hr
  have hbody : sent.message.body = ([103, 0, 0, 0] : Bytes) ++ Put.encodeAll v.attributes :=
    congrArg (fun r : Request => r.buffer.drop Header.size) hr
  have hcontrol : sent.message.control = .data := Put.control_of_family (hkind.symm ▸ hreal)
  refine ⟨sent.message, hparse, carries_of_attributes hwritable hkind ?_ ?_⟩
  · rw [Message.command?, if_pos hcontrol, hbody]
    rfl
  · rw [Message.attributes, if_pos hcontrol, hbody]
    exact Put.readsAll_encodeAll v.attributes (isForest_attributes hdata) hfits

/-- What is said about the watch over an interface: the upper and the lower threshold, both signed
bytes, and whether it begins or ends. -/
def ofWatch (interface : UInt32) (max min : UInt8) (start : Bool) : VendorRequest :=
  ⟨interface, 0x100D, [.u8 1 max, .u8 2 min, .u8 3 (if start then 1 else 0)], none⟩

theorem isForest_ofWatch (interface : UInt32) (max min : UInt8) (start : Bool) :
    Put.IsForest (ofWatch interface max min start).data := by
  simp [ofWatch, Put.IsForest, Put.IsTree]

theorem length_encodeAll_ofWatch (interface : UInt32) (max min : UInt8) (start : Bool) :
    (Put.encodeAll (ofWatch interface max min start).attributes).length = 52 := by
  simp [ofWatch, attributes, recipe, Vendor.recipe, Put.encodeAll, Put.payload,
    Request.length_encodeAttribute, align]

/-- A watch takes 72 bytes, whatever is watched. -/
theorem exists_encode_ofWatch_iff {interface : UInt32} {max min : UInt8} {start : Bool} :
    (∃ r, (ofWatch interface max min start).recipe.encode ctx = .ok r) ↔
      ctx.family.isSome = true ∧ 72 ≤ ctx.limit := by
  have hfits : Put.FitsAll (ofWatch interface max min start).attributes := by
    simp [ofWatch, attributes, recipe, Vendor.recipe, Put.FitsAll, Put.Fits, Put.encodeAll,
      Put.payload, Request.length_encodeAttribute, align]
  rw [exists_encode_iff rfl (isForest_ofWatch interface max min start), length_encodeAll_ofWatch,
    and_iff_right hfits]

/-- Whether a watch can be asked for does not depend on what is watched, nor on whether the watch
begins or ends. -/
theorem exists_encode_ofWatch {interface : UInt32} {max min : UInt8} {start : Bool}
    (h : ∃ r, (ofWatch interface max min start).recipe.encode ctx = .ok r) (interface' : UInt32)
    (max' min' : UInt8) (start' : Bool) :
    ∃ r, (ofWatch interface' max' min' start').recipe.encode ctx = .ok r ∧ r.openNests = 0 ∧
      r.length = 72 := by
  let v := ofWatch interface' max' min' start'
  have hknown := exists_encode_ofWatch_iff.1 h
  obtain ⟨family, hfamily⟩ := Option.isSome_iff_exists.1 hknown.1
  obtain ⟨r, hr⟩ : ∃ r, v.recipe.encode ctx = .ok r := exists_encode_ofWatch_iff.2 hknown
  obtain ⟨-, -, hbuilt⟩ := encode_eq_ok hfamily (isForest_ofWatch ..) hr
  refine ⟨r, hr, ?_, ?_⟩
  · rw [hbuilt]
    rfl
  · rw [hbuilt, Request.length, List.length_append, length_encodeAll_ofWatch]
    rfl

/-- The request of a setting. -/
def ofSetting (interface : UInt32) : Setting → VendorRequest
  | .countryCode code => ⟨interface, 0x1012, [.text 4 code], none⟩
  | .latencyMode .normal => ⟨interface, 0x1016, [.u8 5 0], none⟩
  | .latencyMode .low => ⟨interface, 0x1016, [.u8 5 1], none⟩
  | .noDfs forbidden => ⟨interface, 0x1006, [.u32 3 (if forbidden then 1 else 0)], none⟩
  | .ndOffload enabled => ⟨interface, 0x1013, [.u8 1 (if enabled then 1 else 0)], none⟩
  | .scanningOui first second third => ⟨interface, 0x1005, [.bytes 2 [first, second, third]], none⟩

/-- The request that installs a program. The length of the program has to be a word. -/
def ofProgram (interface : UInt32) (program : Bytes) : VendorRequest :=
  ⟨interface, 0x1017, [.u32 3 (UInt32.ofNat program.length), .bytes 2 program],
    PacketFilter.refusal? program⟩

theorem isForest_ofProgram (interface : UInt32) (program : Bytes) :
    Put.IsForest (ofProgram interface program).data := by
  simp [ofProgram, Put.IsForest, Put.IsTree]

end VendorRequest

/-! ### The request of an operation -/

namespace Session

open VendorRequest

/-- The monitor under an id, and whether it was cancelled. -/
def monitor? (s : Session) (id : RequestId) : Option (RssiWatch × Bool) :=
  match (s.engine.registry.get? id).bind s.command? with
  | some ⟨core, _, .rssiMonitor watch _ _, _⟩ => some (watch, core.isCancelled)
  | _ => none

/-- The request that an operation comes to, if it comes to one. A setting must make sense, the
driver is only asked what it can be asked, a monitor is started under an id that is free, and one
that was cancelled before is not stopped again. A monitor is stopped on the interface that it was
started on, and without a monitor on the interface that is given. -/
def request? (s : Session) : Action → Option VendorRequest
  | .configure interface setting =>
    if setting.refusal?.isNone then some (ofSetting interface setting) else none
  | .featureSet interface => some ⟨interface, 0x1011, [], none⟩
  | .filterCapabilities interface => some ⟨interface, 0x1018, [], none⟩
  | .installFilter interface program => some (ofProgram interface program)
  | .readFilter interface _ _ => some ⟨interface, 0x1019, [], none⟩
  | .usableChannels interface query =>
    if query.isSupported then
      some ⟨interface, 0x101A,
        [.u32 1 query.band, .u32 2 query.mode, .u32 3 query.filter, .u32 4 query.maxCount], none⟩
    else none
  | .startRssi id interface max min _ =>
    if s.engine.shuttingDown || s.engine.registry.contains id then none
    else some (ofWatch interface max min true)
  | .stopRssi id interface =>
    if id = -1 then some (ofWatch interface 0 0 false)
    else
      match s.monitor? id with
      | some (watch, false) => some (ofWatch watch.interface 0 0 false)
      | _ => none
  | _ => none

variable {s : Session} {a : Action} {v : VendorRequest} {q : Question}

/-- The request is written, or nothing is. -/
def Writes (s t : Session) (v : VendorRequest) : Prop :=
  written t.history = written s.history ∨
    ∃ r seq port bytes, v.recipe.encode s.engine.encodeContext = .ok r ∧
      r.finish seq port = .ok bytes ∧ written t.history = bytes :: written s.history

theorem written_relinquished (c : CommandRef) (s : Session) :
    written (s.relinquished c).history = written s.history :=
  written_released c _

theorem writes_ask {core : CommandCore} (hnew : core.state = .created) (v : VendorRequest)
    (s : Session) : s.Writes (after (ask core v.recipe) s) v := by
  obtain ⟨seq, l, driver, news, hafter, hnews⟩ := exists_after_ask hnew v.recipe s
  rw [hafter]
  rcases hnews with rfl | ⟨r, bytes, sent, hencode, h, rfl⟩
  · exact .inl rfl
  · exact .inr ⟨r, _, _, bytes, hencode, h.finished, rfl⟩

variable {client : Script → Run Unit} {fuel : Nat}

/-! ### One exchange -/

/-- A session in which a monitor was started on an interface. -/
def watching : Session :=
  after (perform (runScript 0) 0 (.startRssi 5 3 200 180 []))
    { engine := .ofConfig {} (some 28) 7 8 }

end Session

end WirelessControl
