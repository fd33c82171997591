import WirelessControl.Wire.Put

/-!
# Requests are read back as they were written

A request is built by writing things one behind the other, with a length written over each nest when
it is closed. `Put.encodeAll` says what bytes come of it without looking at the buffer: every thing
is one record, and a nest is a record whose payload is what was written into it. Reading works on
these bytes alone, so that writing and reading are compared with them and not with each other.

## Main definitions

* `Put.IsTree`, `Put.IsForest` — things that close what they open, with kinds of fourteen bits
* `Put.payload`, `Put.encodeAll` — their bytes
* `Put.Reads`, `Put.ReadsAll` — records that say what was written

## Main results

* `Put.writeAll_run_ok` — what a successful building adds to the buffer
* `Put.readsAll_encodeAll` — the records of these bytes
* `Put.parse_finish_writeAll` — a finished request is parsed back
-/

namespace WirelessControl

/-! ### One record -/

namespace Request

theorem length_encodeAttribute (kind : UInt16) (payload : Bytes) :
    (encodeAttribute kind payload).length = align (4 + payload.length) := by
  have := le_align (4 + payload.length)
  simp only [encodeAttribute, Attribute.headerLength, List.length_append, Word.length_encode,
    Word.length_ofU16, List.length_replicate]
  omega

/-- A payload of whole records needs no padding. -/
theorem encodeAttribute_of_dvd (kind : UInt16) {payload : Bytes} (h : 4 ∣ payload.length) :
    encodeAttribute kind payload =
      Word.encode 2 (4 + payload.length) ++ Word.ofU16 kind ++ payload := by
  have hlen : align (4 + payload.length) = 4 + payload.length :=
    align_eq_self_of_dvd (Nat.dvd_add (Nat.dvd_refl 4) h)
  simp [encodeAttribute, Attribute.headerLength, hlen]

end Request

namespace Attribute

variable {kind : UInt16}

theorem and_kindMask (h : kind < 0x4000) : kind &&& kindMask = kind := by
  have hlt : kind.toNat < 2 ^ 14 := h
  apply UInt16.toNat_inj.1
  rw [UInt16.toNat_and]
  exact (Nat.and_two_pow_sub_one_eq_mod _ 14).trans (Nat.mod_eq_of_lt hlt)

theorem and_nestedFlag (h : kind < 0x4000) : kind &&& nestedFlag = 0 := by
  have hlt : kind.toNat < 2 ^ 15 := Nat.lt_trans h (by decide)
  apply UInt16.toNat_inj.1
  rw [UInt16.toNat_and]
  apply Nat.eq_of_testBit_eq
  intro i
  rw [Nat.testBit_and, show nestedFlag.toNat = 2 ^ 15 from rfl, Nat.testBit_two_pow]
  by_cases hi : 15 = i
  · subst hi
    simp [Nat.testBit_lt_two_pow hlt]
  · simp [hi]

theorem or_nestedFlag_and_kindMask (h : kind < 0x4000) :
    (kind ||| nestedFlag) &&& kindMask = kind := by
  have hflag : nestedFlag &&& kindMask = 0 := rfl
  apply UInt16.toNat_inj.1
  rw [UInt16.toNat_and, UInt16.toNat_or, Nat.and_or_distrib_right, ← UInt16.toNat_and,
    ← UInt16.toNat_and, hflag, and_kindMask h]
  exact Nat.or_zero _

theorem or_nestedFlag_and_nestedFlag (kind : UInt16) :
    (kind ||| nestedFlag) &&& nestedFlag ≠ 0 := by
  intro h
  have hflag : Nat.testBit 0x8000 15 = true := by decide
  have hbit := congrArg (Nat.testBit · 15) (congrArg UInt16.toNat h)
  simp [UInt16.toNat_and, UInt16.toNat_or, nestedFlag, hflag] at hbit

/-- A record is split off the run that it begins. -/
theorem next?_encodeAttribute_append {payload : Bytes} (h : 4 + payload.length ≤ 65535)
    (kind : UInt16) (rest : Bytes) :
    next? (Request.encodeAttribute kind payload ++ rest) =
      some (⟨kind &&& kindMask, kind &&& nestedFlag ≠ 0, payload⟩, rest) := by
  let length := 4 + payload.length
  let padding : Bytes := List.replicate (align length - length) 0
  have hbytes : Request.encodeAttribute kind payload ++ rest =
      Word.encode 2 length ++ (Word.ofU16 kind ++ (payload ++ (padding ++ rest))) := by
    simp [Request.encodeAttribute, headerLength, length, padding]
  have hmod : length % Word.count 2 = length := Nat.mod_eq_of_lt (Nat.lt_succ_of_le h)
  have hlength : Word.u16? (Request.encodeAttribute kind payload ++ rest) =
      some (UInt16.ofNat length) := by
    rw [hbytes, Word.u16?, Word.read?_encode_append, hmod, Option.map_some]
  have hkind : Word.u16? ((Request.encodeAttribute kind payload ++ rest).drop 2) = some kind := by
    rw [hbytes, List.drop_left' (Word.length_encode 2 length), Word.u16?_ofU16_append]
  have htoNat : (UInt16.ofNat length).toNat = length := by
    rw [UInt16.toNat_ofNat']
    exact hmod
  have htake : ((Request.encodeAttribute kind payload ++ rest).take length).drop 4 = payload := by
    rw [hbytes, List.drop_take, ← List.append_assoc, List.drop_left' (by simp)]
    exact List.take_left' (by omega)
  have hdrop : (Request.encodeAttribute kind payload ++ rest).drop (align length) = rest :=
    List.drop_left' (Request.length_encodeAttribute kind payload)
  have hbound : length ≤ (Request.encodeAttribute kind payload ++ rest).length := by
    rw [List.length_append, Request.length_encodeAttribute]
    exact Nat.le_trans (le_align length) (Nat.le_add_right _ _)
  rw [next?, hlength, hkind]
  simp only [htoNat, hasBytes_iff, headerLength]
  rw [if_pos ⟨Nat.le_add_right 4 _, hbound⟩, htake, hdrop]

end Attribute

/-! ### What is written -/

namespace Put

/-- The kind that a thing is written under. -/
def kind : Put → UInt16
  | .u8 k _ => k
  | .u16 k _ => k
  | .u32 k _ => k
  | .u64 k _ => k
  | .text k _ => k
  | .bytes k _ => k
  | .openNest k => k
  | .nest k _ => k

/-- Whether a thing is a nest. -/
def isNest : Put → Bool
  | .openNest _ => true
  | .nest _ _ => true
  | _ => false

/-- The kind as the record shows it. -/
def wireKind (p : Put) : UInt16 :=
  if p.isNest then p.kind ||| Attribute.nestedFlag else p.kind

mutual

/-- The bytes inside the record of a thing. -/
def payload : Put → Bytes
  | .u8 _ value => [value]
  | .u16 _ value => Word.ofU16 value
  | .u32 _ value => Word.ofU32 value
  | .u64 _ value => Word.ofU64 value
  | .text _ value => Utf8.encode value ++ [0]
  | .bytes _ value => value
  | .openNest _ => []
  | .nest _ inner => encodeAll inner

/-- The records of things, one behind the other. -/
def encodeAll : List Put → Bytes
  | [] => []
  | p :: ps => Request.encodeAttribute p.wireKind p.payload ++ encodeAll ps

end

mutual

/-- A thing that closes the nests that it opens. Its kinds have fourteen bits. -/
def IsTree : Put → Prop
  | .openNest _ => False
  | .nest k inner => k < 0x4000 ∧ IsForest inner
  | .u8 k _ => k < 0x4000
  | .u16 k _ => k < 0x4000
  | .u32 k _ => k < 0x4000
  | .u64 k _ => k < 0x4000
  | .text k _ => k < 0x4000
  | .bytes k _ => k < 0x4000

/-- Things that close the nests that they open. -/
def IsForest : List Put → Prop
  | [] => True
  | p :: ps => p.IsTree ∧ IsForest ps

end

mutual

/-- No record is longer than a record can be, and no text has a NUL. -/
def Fits : Put → Prop
  | .u8 _ _ => True
  | .u16 _ _ => True
  | .u32 _ _ => True
  | .u64 _ _ => True
  | .text _ value => 0 ∉ Utf8.encode value ∧ 4 + (Utf8.encode value ++ [0]).length ≤ 65535
  | .bytes _ value => 4 + value.length ≤ 65535
  | .openNest _ => True
  | .nest _ inner => 4 + (encodeAll inner).length ≤ 65535 ∧ FitsAll inner

/-- The same for each of several things. -/
def FitsAll : List Put → Prop
  | [] => True
  | p :: ps => p.Fits ∧ FitsAll ps

end

mutual

/-- A record says what was written: the kind, whether it is a nest, and the payload. A value is read
back by the reader of its own width, and a nest holds what was written into it. -/
def Reads : Put → Attribute → Prop
  | .u8 k value, a => a = ⟨k, false, [value]⟩ ∧ a.u8? = some value
  | .u16 k value, a => a = ⟨k, false, Word.ofU16 value⟩ ∧ a.u16? = some value
  | .u32 k value, a => a = ⟨k, false, Word.ofU32 value⟩ ∧ a.u32? = some value
  | .u64 k value, a => a = ⟨k, false, Word.ofU64 value⟩ ∧ a.u64? = some value
  | .text k value, a => a = ⟨k, false, Utf8.encode value ++ [0]⟩ ∧ a.text? = some value
  | .bytes k value, a => a = ⟨k, false, value⟩
  | .openNest _, _ => False
  | .nest k inner, a => a = ⟨k, true, encodeAll inner⟩ ∧ ReadsAll inner a.inner

/-- Records say what was written, one by one and in order. -/
def ReadsAll : List Put → List Attribute → Prop
  | [], as => as = []
  | p :: ps, as => ∃ a rest, as = a :: rest ∧ p.Reads a ∧ ReadsAll ps rest

end

/-! ### Building -/

theorem length_encodeAll_dvd (ps : List Put) : 4 ∣ (encodeAll ps).length := by
  induction ps with
  | nil => exact Nat.dvd_zero 4
  | cons p ps ih =>
    rw [encodeAll, List.length_append, Request.length_encodeAttribute]
    exact Nat.dvd_add (four_dvd_align _) ih

/-- A computation comes back when its parts do. -/
theorem run_bind_eq_ok {ε σ α β : Type} {m : EStateM ε σ α} {f : α → EStateM ε σ β} {s s' : σ}
    {b : β} (h : (m >>= f).run s = .ok b s') :
    ∃ a s₁, m.run s = .ok a s₁ ∧ (f a).run s₁ = .ok b s' := by
  rw [EStateM.run_bind] at h
  split at h
  · next a s₁ hm => exact ⟨a, s₁, hm, h⟩
  · simp at h

theorem putBytes_run_ok {k : UInt16} {payload : Bytes} {r r' : Request}
    (h : (Request.putBytes k payload).run r = .ok () r') :
    4 + payload.length ≤ 65535 ∧
      r' = { r with buffer := r.buffer ++ Request.encodeAttribute k payload } := by
  rw [Request.putBytes_run] at h
  split at h
  · simp at h
  · next hlong =>
    split at h
    · simp at h
    · simp only [EStateM.Result.ok.injEq, true_and] at h
      exact ⟨Nat.le_of_not_lt hlong, h.symm⟩

theorem putText_run_ok {k : UInt16} {value : String} {r r' : Request}
    (h : (Request.putText k value).run r = .ok () r') :
    0 ∉ Utf8.encode value ∧ (Request.putBytes k (Utf8.encode value ++ [0])).run r = .ok () r' := by
  by_cases hnul : 0 ∈ Utf8.encode value
  · simp [Request.putText, hnul] at h
  · simp [Request.putText, hnul] at h
    exact ⟨hnul, h⟩

theorem nestStart_run_ok {k : UInt16} {r r' : Request} {nest : Nest}
    (h : (Request.nestStart k).run r = .ok nest r') :
    nest = ⟨r.length⟩ ∧ r' = { r with
      buffer := r.buffer ++ (Word.ofU16 0 ++ Word.ofU16 (k ||| Attribute.nestedFlag))
      openNests := r.openNests + 1 } := by
  rw [Request.nestStart_run] at h
  split at h
  · simp at h
  · simp only [EStateM.Result.ok.injEq] at h
    rw [← List.append_assoc]
    exact ⟨h.1.symm, h.2.symm⟩

theorem nestEnd_run_ok {r r' : Request} {nest : Nest}
    (h : (Request.nestEnd nest).run r = .ok () r') :
    r.length - nest.offset ≤ 65535 ∧ r' = { r with
      buffer := Request.patch nest.offset (Word.encode 2 (r.length - nest.offset)) r.buffer
      openNests := r.openNests - 1 } := by
  rw [Request.nestEnd_run] at h
  split at h
  · simp at h
  · split at h
    · simp at h
    · next hlong =>
      split at h
      · simp at h
      · simp only [EStateM.Result.ok.injEq, true_and] at h
        exact ⟨Nat.le_of_not_lt hlong, h.symm⟩

/-- The length of a nest is written over the two bytes that were kept for it. -/
theorem patch_append (front inner : Bytes) (length kind : UInt16) (word : Bytes) :
    Request.patch front.length word (front ++ (Word.ofU16 length ++ Word.ofU16 kind) ++ inner) =
      front ++ (word ++ Word.ofU16 kind ++ inner) := by
  have htake : (front ++ (Word.ofU16 length ++ Word.ofU16 kind) ++ inner).take front.length =
      front := by
    rw [List.append_assoc]
    exact List.take_left' rfl
  have hdrop : (front ++ (Word.ofU16 length ++ Word.ofU16 kind) ++ inner).drop
      (front.length + 2) = Word.ofU16 kind ++ inner := by
    have h : front ++ (Word.ofU16 length ++ Word.ofU16 kind) ++ inner =
        (front ++ Word.ofU16 length) ++ (Word.ofU16 kind ++ inner) := by simp
    rw [h]
    exact List.drop_left' (by simp)
  rw [Request.patch, htake, hdrop, List.append_assoc, List.append_assoc]

/-- A nest that was filled adds one record. -/
theorem nested_run_ok {k : UInt16} {write : Request.Build Unit} {inner : Bytes} {P : Prop}
    (hinner : ∀ r r', write.run r = .ok () r' → P ∧ r' = { r with buffer := r.buffer ++ inner })
    (hdvd : 4 ∣ inner.length) {r r' : Request} (h : (Request.nested k write).run r = .ok () r') :
    (4 + inner.length ≤ 65535 ∧ P) ∧ r' = { r with
      buffer := r.buffer ++ Request.encodeAttribute (k ||| Attribute.nestedFlag) inner } := by
  obtain ⟨nest, r₁, hstart, h⟩ := run_bind_eq_ok h
  obtain ⟨⟨⟩, r₂, hwrite, hend⟩ := run_bind_eq_ok h
  obtain ⟨rfl, rfl⟩ := nestStart_run_ok hstart
  obtain ⟨hP, rfl⟩ := hinner _ _ hwrite
  obtain ⟨hlong, rfl⟩ := nestEnd_run_ok hend
  have hlength : (r.buffer ++ (Word.ofU16 0 ++ Word.ofU16 (k ||| Attribute.nestedFlag)) ++
      inner).length - r.buffer.length = 4 + inner.length := by
    simp only [List.length_append, Word.length_ofU16]
    omega
  simp only [Request.length, hlength] at hlong ⊢
  refine ⟨⟨hlong, hP⟩, ?_⟩
  rw [patch_append, Request.encodeAttribute_of_dvd _ hdvd]
  rfl

mutual

/-- What was written has found its place behind the rest. -/
theorem write_run_ok (p : Put) (hp : p.IsTree) {r r' : Request} (h : p.write.run r = .ok () r') :
    p.Fits ∧ r' = { r with
      buffer := r.buffer ++ Request.encodeAttribute p.wireKind p.payload } := by
  cases p with
  | u8 k value =>
    rw [write] at h
    exact ⟨trivial, (putBytes_run_ok h).2⟩
  | u16 k value =>
    rw [write] at h
    exact ⟨trivial, (putBytes_run_ok h).2⟩
  | u32 k value =>
    rw [write] at h
    exact ⟨trivial, (putBytes_run_ok h).2⟩
  | u64 k value =>
    rw [write] at h
    exact ⟨trivial, (putBytes_run_ok h).2⟩
  | text k value =>
    rw [write] at h
    obtain ⟨hnul, h⟩ := putText_run_ok h
    exact ⟨⟨hnul, (putBytes_run_ok h).1⟩, (putBytes_run_ok h).2⟩
  | bytes k value =>
    rw [write] at h
    exact putBytes_run_ok h
  | openNest k => exact hp.elim
  | nest k inner =>
    rw [write] at h
    exact nested_run_ok (fun r r' => writeAll_run_ok inner hp.2) (length_encodeAll_dvd inner) h

/-- What was written in order stands behind the rest in order. -/
theorem writeAll_run_ok (ps : List Put) (hps : IsForest ps) {r r' : Request}
    (h : (writeAll ps).run r = .ok () r') :
    FitsAll ps ∧ r' = { r with buffer := r.buffer ++ encodeAll ps } := by
  cases ps with
  | nil =>
    obtain rfl : r = r' := by simpa [writeAll] using h
    exact ⟨trivial, by simp [encodeAll]⟩
  | cons p ps =>
    rw [writeAll] at h
    obtain ⟨⟨⟩, r₁, hp, h⟩ := run_bind_eq_ok h
    obtain ⟨hfits, rfl⟩ := write_run_ok p hps.1 hp
    obtain ⟨hfitsAll, rfl⟩ := writeAll_run_ok ps hps.2 h
    exact ⟨⟨hfits, hfitsAll⟩, by simp [encodeAll]⟩

end

/-! ### Reading -/

/-- The record of a thing. -/
def record (p : Put) : Attribute := ⟨p.kind, p.isNest, p.payload⟩

theorem IsTree.kind_lt {p : Put} (hp : p.IsTree) : p.kind < 0x4000 := by
  cases p with
  | openNest k => exact hp.elim
  | nest k inner => exact hp.1
  | _ => exact hp

theorem Fits.length_payload_le {p : Put} (hp : p.IsTree) (h : p.Fits) :
    4 + p.payload.length ≤ 65535 := by
  cases p with
  | text k value => exact h.2
  | bytes k value => exact h
  | openNest k => exact hp.elim
  | nest k inner => exact h.1
  | _ => simp [payload]

/-- The record of a thing is split off the run that it begins. -/
theorem next?_encodeAll_cons {p : Put} (hp : p.IsTree) (h : p.Fits) (ps : List Put) :
    Attribute.next? (encodeAll (p :: ps)) = some (p.record, encodeAll ps) := by
  rw [encodeAll, Attribute.next?_encodeAttribute_append (h.length_payload_le hp)]
  have hkind := hp.kind_lt
  cases hnest : p.isNest with
  | false => simp [wireKind, record, hnest, Attribute.and_kindMask hkind,
      Attribute.and_nestedFlag hkind]
  | true => simp [wireKind, record, hnest, Attribute.or_nestedFlag_and_kindMask hkind,
      Attribute.or_nestedFlag_and_nestedFlag]

mutual

/-- The record of a thing says what was written. -/
theorem reads_record (p : Put) (hp : p.IsTree) (h : p.Fits) : p.Reads p.record := by
  cases p with
  | u8 k value => exact ⟨rfl, rfl⟩
  | u16 k value =>
    have hread := Word.u16?_ofU16_append value []
    rw [List.append_nil] at hread
    exact ⟨rfl, hread⟩
  | u32 k value =>
    have hread := Word.u32?_ofU32_append value []
    rw [List.append_nil] at hread
    exact ⟨rfl, hread⟩
  | u64 k value =>
    have hread := Word.u64?_ofU64_append value []
    rw [List.append_nil] at hread
    exact ⟨rfl, hread⟩
  | text k value =>
    have hread : Utf8.decode? (upToNul (Utf8.encode value ++ [0])) = some value := by
      rw [upToNul_append_nul h.1, Utf8.decode?_encode]
    exact ⟨rfl, hread⟩
  | bytes k value => exact rfl
  | openNest k => exact hp.elim
  | nest k inner => exact ⟨rfl, readsAll_encodeAll inner hp.2 h.2⟩

/-- The records of things say what was written, in order. -/
theorem readsAll_encodeAll (ps : List Put) (hps : IsForest ps) (h : FitsAll ps) :
    ReadsAll ps (Attribute.parse (encodeAll ps)) := by
  cases ps with
  | nil => exact Attribute.parse_eq_nil rfl
  | cons p ps =>
    rw [Attribute.parse_eq_cons (next?_encodeAll_cons hps.1 h.1 ps)]
    exact ⟨_, _, rfl, reads_record p hps.1 h.1, readsAll_encodeAll ps hps.2 h.2⟩

end

/-! ### Whole messages -/

theorem control_of_family {m : Message} (h : 0x10 ≤ m.header.kind) : m.control = .data := by
  have hne (k : UInt16) (hk : k < 0x10) : m.header.kind ≠ k := fun he =>
    absurd (he ▸ h) (UInt16.not_le.2 hk)
  rw [Message.control, if_neg (hne _ (by decide)), if_neg (hne _ (by decide)),
    if_neg (hne _ (by decide))]

/-- One message and what stands behind its padding. -/
theorem parse_encode_append_append {header : Header} {body : Bytes}
    (h : header.length.toNat = 16 + body.length) (rest : Bytes) :
    Message.parse (header.encode ++ body ++ rest) =
      .ok (⟨header, body⟩, (header.encode ++ body ++ rest).drop (align (16 + body.length))) := by
  have hlength : (header.encode ++ body).length = 16 + body.length := by simp
  have hbody : ((header.encode ++ body ++ rest).take (16 + body.length)).drop Header.size =
      body := by
    rw [List.take_left' hlength]
    exact List.drop_left' (Header.length_encode header)
  have hbytes : hasBytes (16 + body.length) (header.encode ++ body ++ rest) = true := by
    rw [hasBytes_iff, List.length_append, hlength]
    exact Nat.le_add_right _ _
  have hheader : Header.parse? (header.encode ++ body ++ rest) = some header := by
    rw [List.append_assoc, Header.parse?_encode_append]
  have hsize : ¬ 16 + body.length < Header.size := Nat.not_lt.2 (Nat.le_add_right 16 _)
  simp only [Message.parse, hheader, h, hbytes, hsize, hbody, Bool.not_true, Bool.false_eq_true,
    or_self, if_false]

/-- One message and nothing behind it. -/
theorem parse_encode_append {header : Header} {body : Bytes}
    (h : header.length.toNat = 16 + body.length) :
    Message.parse (header.encode ++ body) = .ok (⟨header, body⟩, []) := by
  have hlength : (header.encode ++ body).length = 16 + body.length := by simp
  have hdrop : (header.encode ++ body).drop (align (16 + body.length)) = [] :=
    List.drop_eq_nil_of_le (hlength ▸ le_align _)
  have hparse := parse_encode_append_append h []
  rwa [List.append_nil, hdrop] at hparse

/-- **A finished request is parsed back.** Whatever forest of attributes was written, one message
stands in the bytes and nothing behind it: its header has the length of these bytes, the family and
the flags of the request with those that every request has, its command is the request's, and its
attributes, read to any depth, are the forest. -/
theorem parse_finish_writeAll {ps : List Put} (hps : IsForest ps) {family flags : UInt16}
    {cmd : UInt8} {limit : Nat} {r : Request} (hfamily : 0x10 ≤ family)
    (hwrite : (writeAll ps).run (.new family cmd flags limit) = .ok () r)
    (hlength : r.length < UInt32.size) (seq port : UInt32) :
    ∃ bytes m, r.finish seq port = .ok bytes ∧ Message.parse bytes = .ok (m, []) ∧
      m.header = ⟨UInt32.ofNat bytes.length, family,
        flags ||| Request.requestFlag ||| Request.ackFlag, seq, port⟩ ∧
      m.header.length.toNat = bytes.length ∧ m.command? = some cmd ∧
      ReadsAll ps m.attributes := by
  obtain ⟨hfits, rfl⟩ := writeAll_run_ok ps hps hwrite
  let new : Request := .new family cmd flags limit
  let written : Request := { new with buffer := new.buffer ++ encodeAll ps }
  let header := written.header seq port
  let body : Bytes := [cmd, 0, 0, 0] ++ encodeAll ps
  have hlen : written.length = 16 + body.length := by
    simp [written, new, Request.length, Request.new, Header.size, body]
    omega
  have hdrop : written.buffer.drop 16 = body := rfl
  have hfinish : written.finish seq port = .ok (header.encode ++ body) :=
    Request.finish_eq_ok_iff.2 ⟨rfl, hlength, by rw [hdrop]⟩
  have hheader : header.length.toNat = 16 + body.length := by
    rw [← hlen]
    exact UInt32.toNat_ofNat_of_lt' hlength
  have hbytes : (header.encode ++ body).length = 16 + body.length := by simp
  have hdata : (⟨header, body⟩ : Message).control = .data := control_of_family hfamily
  refine ⟨header.encode ++ body, ⟨header, body⟩, hfinish, parse_encode_append hheader, ?_, ?_, ?_,
    ?_⟩
  · rw [hbytes, ← hlen]
    rfl
  · rw [hbytes, hheader]
  · rw [Message.command?, if_pos hdata]
    rfl
  · rw [Message.attributes, if_pos hdata]
    exact readsAll_encodeAll ps hps hfits

theorem parse_finish_writeAll_vendorData :
    let forest := [u32 3 7, nest 0xC5 [u16 1 300, nest 2 [bytes 3 [1, 2, 3]], u8 4 9]]
    let written : Request :=
      { Request.new 28 103 0 4096 with
        buffer := (Request.new 28 103 0 4096).buffer ++ encodeAll forest }
    ∃ bytes m, written.finish 5 7 = .ok bytes ∧ Message.parse bytes = .ok (m, []) ∧
      m.header = ⟨UInt32.ofNat bytes.length, 28, 5, 5, 7⟩ ∧
      m.header.length.toNat = bytes.length ∧ m.command? = some 103 ∧
      ReadsAll forest m.attributes := by
  intro forest written
  have hforest : IsForest forest := by simp [forest, IsForest, IsTree]
  exact parse_finish_writeAll hforest (by decide) (show (writeAll forest).run
    (Request.new 28 103 0 4096) = .ok () written from rfl) (by decide) 5 7

end Put

end WirelessControl
