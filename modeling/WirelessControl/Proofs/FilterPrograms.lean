import WirelessControl.Proofs.VendorRequests

/-!
# Filter programs are installed whole or not at all

The request that installs a packet filter program is the longest one that the engine makes, and the
only one whose length is up to the client. Three bounds meet in it. The program is the payload of an
attribute, with 16 bits for its length; this attribute stands in the block of vendor data, whose
length has 16 bits as well and counts the padding of the program; and the whole message keeps to the
limit of the engine. Of the first two the block is the stricter one, so that two bounds are left.

Within these bounds the driver finds the length of the program and the program itself, and nothing
else. Outside of them nothing is written, and the command that was made for the request is new.

## Main definitions

* `PacketFilter.program?` — the length and the program, as the driver reads them
* `PacketFilter.Installs` — a datagram that installs a program

## Main results

* `VendorRequest.exists_encode_ofProgram_iff` — which programs can be installed
* `VendorRequest.installs_of_finish` — what stands in the datagram
* `Session.filter_programs_exact` — both, and what becomes of a program that is too long
-/

namespace WirelessControl

namespace PacketFilter

/-- The length of a program and the program, as they are read in a request that installs it. -/
def program? (m : Message) : Option (UInt32 × Bytes) := do
  let length ← (Attribute.lookup programLengthKind m.vendorAttributes).bind Attribute.u32?
  let program ← Attribute.lookup programKind m.vendorAttributes
  return (length, program.payload)

/-- A datagram installs a program on an interface: it is as long as it has to be, and it is one
message to the family with two vendor attributes, the length of the program and its bytes. -/
structure Installs (family : UInt16) (interface : UInt32) (program bytes : Bytes) : Prop where
  length : bytes.length = 56 + align (4 + program.length)
  reads : ∃ m, Message.parse bytes = .ok (m, []) ∧ m.header.kind = family ∧
    m.command? = some Message.vendorCommand ∧
    m.word? Message.interfaceKind = some interface ∧ m.vendor? = some Vendor.oui ∧
    m.subcommand? = some Vendor.installFilter ∧ m.vendorAttributes.length = 2 ∧
    ∃ length, program? m = some (length, program) ∧ length.toNat = program.length

end PacketFilter

namespace VendorRequest

variable {ctx : EncodeContext} {family : UInt16} {interface : UInt32} {program : Bytes}
  {r : Request}

/-- The block of vendor data: the length takes eight bytes, the program is padded. -/
theorem length_encodeAll_data (interface : UInt32) (program : Bytes) :
    (Put.encodeAll (ofProgram interface program).data).length =
      8 + align (4 + program.length) := by
  simp [ofProgram, Put.encodeAll, Put.payload, Request.length_encodeAttribute,
    show align 8 = 8 from rfl]

theorem refusal_ofProgram_iff :
    (ofProgram interface program).refusal = none ↔ program.length < UInt32.size := by
  simp [ofProgram, PacketFilter.refusal?]

theorem attributes_ofProgram (hwritable : (ofProgram interface program).refusal = none) :
    (ofProgram interface program).attributes =
      [.u32 3 interface, .u32 195 0x001A11, .u32 196 0x1017,
        .nest 197 (ofProgram interface program).data] := by
  rw [attributes, recipe_of_writable hwritable]
  rfl

/-- The three attributes in front of the block take eight bytes each. -/
theorem length_encodeAll_ofProgram (hwritable : (ofProgram interface program).refusal = none) :
    (Put.encodeAll (ofProgram interface program).attributes).length =
      36 + align (4 + program.length) := by
  have hword : align (4 + 4) = 8 := rfl
  have hblock : align (4 + (8 + align (4 + program.length))) = 12 + align (4 + program.length) := by
    have hdvd := four_dvd_align (4 + program.length)
    rw [align_eq_self_of_dvd (by omega)]
    omega
  rw [attributes_ofProgram hwritable]
  simp only [Put.encodeAll, Put.payload, List.length_append, Request.length_encodeAttribute,
    Word.length_ofU32, length_encodeAll_data, hword, hblock, List.length_nil]
  omega

/-- The block of vendor data is the bound for programs: what fits into it fits into an attribute. -/
theorem fitsAll_ofProgram_iff (hwritable : (ofProgram interface program).refusal = none) :
    Put.FitsAll (ofProgram interface program).attributes ↔ program.length ≤ 65516 := by
  have hdvd := four_dvd_align (4 + program.length)
  have hle := le_align (4 + program.length)
  have hlt := align_lt_add_four (4 + program.length)
  have hdata : Put.FitsAll (ofProgram interface program).data ↔ 4 + program.length ≤ 65535 := by
    simp [ofProgram, Put.FitsAll, Put.Fits]
  rw [attributes_ofProgram hwritable]
  simp only [Put.FitsAll, Put.Fits, true_and, and_true, length_encodeAll_data, hdata]
  omega

/-- **Which programs can be installed,** when the family is known. A program whose length is no word
is too long for its attribute as well. -/
theorem exists_encode_ofProgram_iff (hfamily : ctx.family = some family) :
    (∃ r, (ofProgram interface program).recipe.encode ctx = .ok r) ↔
      program.length ≤ 65516 ∧ 56 + align (4 + program.length) ≤ ctx.limit := by
  have hknown : ctx.family.isSome = true := by rw [hfamily]; rfl
  cases hrefusal : (ofProgram interface program).refusal with
  | some e =>
    refine iff_of_false (fun ⟨r, hr⟩ => encode_ne_ok hrefusal hr) fun hfits => ?_
    have hshort : program.length < UInt32.size := Nat.lt_of_le_of_lt hfits.1 (by decide)
    have hwritable : (ofProgram interface program).refusal = none := refusal_ofProgram_iff.2 hshort
    rw [hrefusal] at hwritable
    cases hwritable
  | none =>
    rw [exists_encode_iff hrefusal (isForest_ofProgram interface program),
      fitsAll_ofProgram_iff hrefusal, length_encodeAll_ofProgram hrefusal, and_iff_right hknown,
      ← Nat.add_assoc]

/-- The vendor attributes of the request are the length and the program. -/
theorem program?_of_readsAll {m : Message}
    (h : Put.ReadsAll (ofProgram interface program).data m.vendorAttributes) :
    m.vendorAttributes.length = 2 ∧
      PacketFilter.program? m = some (UInt32.ofNat program.length, program) := by
  obtain ⟨length, behind, hfirst, ⟨rfl, hlength⟩, block, _, rfl, rfl, rfl⟩ := h
  refine ⟨by rw [hfirst]; rfl, ?_⟩
  have hlookup : (Attribute.lookup PacketFilter.programLengthKind m.vendorAttributes).bind
      Attribute.u32? = some (UInt32.ofNat program.length) := by
    rw [hfirst]
    exact hlength
  rw [PacketFilter.program?, hlookup, hfirst]
  rfl

/-- **A program that can be installed stands in the datagram,** with its length. -/
theorem installs_of_finish (hfamily : ctx.family = some family) (hreal : 0x10 ≤ family)
    (hencode : (ofProgram interface program).recipe.encode ctx = .ok r) {seq port : UInt32}
    {bytes : Bytes} (hfinish : r.finish seq port = .ok bytes) :
    PacketFilter.Installs family interface program bytes := by
  have hdata := isForest_ofProgram interface program
  obtain ⟨hwritable, hfits, rfl⟩ := encode_eq_ok hfamily hdata hencode
  obtain ⟨m, hparse, hcarries⟩ := carries_of_finish hfamily hreal hdata hencode hfinish
  obtain ⟨htwo, hprogram⟩ := program?_of_readsAll hcarries.data
  have hshort : program.length ≤ 65516 := (fitsAll_ofProgram_iff hwritable).1 hfits
  have hlength : (UInt32.ofNat program.length).toNat = program.length :=
    UInt32.toNat_ofNat_of_lt' (Nat.lt_of_le_of_lt hshort (by decide))
  refine ⟨?_, m, hparse, hcarries.family, hcarries.command, hcarries.interface, hcarries.vendor,
    hcarries.subcommand, htwo, _, hprogram, hlength⟩
  obtain ⟨-, -, rfl⟩ := Request.finish_eq_ok_iff.1 hfinish
  simp only [List.length_append, Header.length_encode, List.length_drop, Request.new,
    length_encodeAll_ofProgram hwritable, List.length_replicate, Header.size, List.length_cons,
    List.length_nil]
  omega

/-- What was built can be finished. -/
theorem exists_finish_ofProgram (hfamily : ctx.family = some family)
    (hencode : (ofProgram interface program).recipe.encode ctx = .ok r) (seq port : UInt32) :
    ∃ bytes, r.finish seq port = .ok bytes := by
  obtain ⟨hwritable, hfits, rfl⟩ :=
    encode_eq_ok hfamily (isForest_ofProgram interface program) hencode
  have hshort : program.length ≤ 65516 := (fitsAll_ofProgram_iff hwritable).1 hfits
  have hlt := align_lt_add_four (4 + program.length)
  refine ⟨_, Request.finish_eq_ok_iff.2 ⟨rfl, ?_, rfl⟩⟩
  simp only [Request.length, Request.new, List.length_append, List.length_replicate, Header.size,
    List.length_cons, List.length_nil, length_encodeAll_ofProgram hwritable, UInt32.size]
  omega

end VendorRequest

namespace Session

open VendorRequest

variable {s : Session}

/-- An installation writes its request or nothing. -/
theorem writes_installFilter (interface : UInt32) (program : Bytes) (s : Session) :
    s.Writes (after (installFilter interface program) s) (ofProgram interface program) := by
  have hnew : PacketFilter.installCore.state = .created := rfl
  have hasks := writes_ask hnew (ofProgram interface program) s
  rwa [installFilter, tell, after_bind_pure]

/-- A program whose request cannot be built is not installed, and nothing else happens. -/
theorem installFilter_run_of_unbuilt {interface : UInt32} {program : Bytes} {e : EncodingError}
    (h : (PacketFilter.installRecipe interface program).encode s.engine.encodeContext = .error e) :
    (installFilter interface program).run s = .ok (.error (.encoding e)) s :=
  run_bind_of_ok (ask_run_of_unbuilt PacketFilter.installCore h) _

/-- **Filter programs are installed whole or not at all.** The engine knows the family, and `limit`
is whatever its messages are limited to. The request for a program can be built exactly when the
program has no more than 65516 bytes and the message keeps to the limit. When it can be built, it
can be finished, and whatever the operation writes is the finished request: it has the length that
was held against the limit, and its vendor attributes are the length of the program and the program,
byte for byte. When it cannot be built, the operation says why, the session is as it was before, so
that nothing was written, and the command that was made for the request is new. -/
theorem filter_programs_exact {family : UInt16} (hfamily : s.engine.family = some family)
    (hreal : 0x10 ≤ family) (interface : UInt32) (program : Bytes) :
    let recipe := PacketFilter.installRecipe interface program
    let ctx := s.engine.encodeContext
    let install := installFilter interface program
    ((∃ r, recipe.encode ctx = .ok r) ↔
      program.length ≤ 65516 ∧ 56 + align (4 + program.length) ≤ s.engine.maxMessageSize) ∧
    (∀ r, recipe.encode ctx = .ok r →
      (∀ seq port, ∃ bytes, r.finish seq port = .ok bytes ∧
        PacketFilter.Installs family interface program bytes) ∧
      (written (after install s).history = written s.history ∨ ∃ seq port bytes,
        r.finish seq port = .ok bytes ∧
          written (after install s).history = bytes :: written s.history)) ∧
    ∀ e, recipe.encode ctx = .error e →
      install.run s = .ok (.error (.encoding e)) s ∧
        (ask PacketFilter.installCore recipe).run s =
          .ok ⟨.error (.encoding e), PacketFilter.installCore⟩ s ∧
        PacketFilter.installCore.state = .created := by
  intro recipe ctx install
  have hknown : ctx.family = some family := hfamily
  refine ⟨exists_encode_ofProgram_iff hknown, fun r hr => ⟨fun seq port => ?_, ?_⟩, fun e he => ?_⟩
  · obtain ⟨bytes, hfinish⟩ := exists_finish_ofProgram hknown hr seq port
    exact ⟨bytes, hfinish, installs_of_finish hknown hreal hr hfinish⟩
  · rcases writes_installFilter interface program s with hnothing | ⟨r', seq, port, bytes, hr',
      hfinish, hmore⟩
    · exact .inl hnothing
    · obtain rfl : r' = r := Except.ok.inj (hr'.symm.trans hr)
      exact .inr ⟨seq, port, bytes, hfinish, hmore⟩
  · exact ⟨installFilter_run_of_unbuilt he, ask_run_of_unbuilt PacketFilter.installCore he, rfl⟩

theorem filter_programs_exact_threeBytes :
    let s : Session := { engine := .ofConfig {} (some 28) 7 8 }
    let t := after (installFilter 3 [1, 2, 3]) s
    s.engine.family = some 28 ∧ (0x10 : UInt16) ≤ 28 ∧
      ∃ bytes, written t.history = bytes :: written s.history ∧ bytes.length = 64 ∧
        PacketFilter.Installs 28 3 [1, 2, 3] bytes := by
  intro s t
  have hwrites : written t.history ≠ written s.history := by decide +kernel
  have hfamily : s.engine.family = some 28 := rfl
  obtain ⟨hbuilt, hwhole, -⟩ := filter_programs_exact hfamily (by decide) 3 [1, 2, 3]
  obtain ⟨r, hr⟩ := hbuilt.2 (by decide)
  obtain ⟨hfinished, hwritten⟩ := hwhole r hr
  obtain ⟨seq, port, bytes, hfinish, hmore⟩ := hwritten.resolve_left hwrites
  obtain ⟨bytes', hfinish', hinstalls⟩ := hfinished seq port
  obtain rfl : bytes = bytes' := Except.ok.inj (hfinish.symm.trans hfinish')
  exact ⟨rfl, by decide, bytes, hmore, hinstalls.length, hinstalls⟩

end Session

end WirelessControl
