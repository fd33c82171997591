import WirelessControl.Proofs.AttributeForest
import WirelessControl.Proofs.Run

/-!
# The messages of a datagram stand one behind the other

A datagram comes from elsewhere and may hold anything. Reading it cuts it into spans: each message
takes as many bytes as its header says, rounded up to a multiple of four, and the last span may be
cut short by the end of the datagram. Where no message begins although bytes are left, there is one
violation, and reading is over.

Requests go the other way. Whatever was written into a request, its length is a multiple of four,
since records are padded and closing a nest writes over bytes that are there. So a finished request
needs no padding of its own, and requests can be put one behind the other in one datagram.

## Main definitions

* `Message.offsetAfter`, `Message.StandsAt` — where the messages of a datagram stand
* `Message.Broken` — what is wrong with bytes that do not begin with a message
* `Message.Framed` — a datagram as messages and what is wrong behind them
* `Request.Built` — the requests that building operations leave
* `Request.Finished` — a request with the bytes that it was finished as

## Main results

* `Message.exists_framed` — reading from any place cuts the rest into spans
* `Request.Built.four_dvd_length` — no request needs padding
* `Recipe.built_encode` — the requests of commands are built so
* `Message.stream_framed` — any datagram, and the datagrams that are made of requests
-/

namespace WirelessControl

namespace Message

/-! ### Spans -/

/-- The offset behind messages that stand one behind the other, the first one at `start`: each takes
its length, rounded up to a multiple of four, as far as the datagram goes. -/
def offsetAfter (d : Bytes) : (start : Nat) → List Message → Nat
  | start, [] => start
  | start, m :: ms => offsetAfter d (min (start + align m.header.length.toNat) d.length) ms

/-- A message stands at an offset: its header is read there, its length counts this header and goes
no further than the datagram, and its body is what this length leaves behind the header. -/
structure StandsAt (d : Bytes) (start : Nat) (m : Message) : Prop where
  header : Header.parse? (d.drop start) = some m.header
  size_le : 16 ≤ m.header.length.toNat
  length_le : m.header.length.toNat ≤ (d.drop start).length
  body : m.body = ((d.drop start).take m.header.length.toNat).drop 16

/-- What is wrong with bytes that do not begin with a message: there are some, but too few for a
header, or the length in their header is below the header's own or beyond their end. -/
def Broken (rest : Bytes) (v : Violation) : Prop :=
  rest ≠ [] ∧ rest.length < 16 ∧ v = .truncated rest.length ∨
    ∃ h, Header.parse? rest = some h ∧
      (h.length.toNat < 16 ∨ rest.length < h.length.toNat) ∧ v = .badLength h.length.toNat

/-- Reading from `start` on finds messages that stand one behind the other, and a violation exactly
when something is left behind them. Each message uses up the sixteen bytes of its header. -/
structure Framed (d : Bytes) (start : Nat) (ms : List Message) (v? : Option Violation) : Prop where
  stands : ∀ before m behind, ms = before ++ m :: behind → StandsAt d (offsetAfter d start before) m
  broken : ∀ v, v? = some v ↔ Broken (d.drop (offsetAfter d start ms)) v
  covered : v? = none ↔ offsetAfter d start ms = d.length
  bounded : start + 16 * ms.length ≤ d.length

theorem broken_iff_parse {rest : Bytes} {v : Violation} :
    Broken rest v ↔ rest ≠ [] ∧ parse rest = .error v := by
  unfold Broken parse
  cases hh : Header.parse? rest with
  | none =>
    have hlt : rest.length < 16 := Header.parse?_eq_none_iff.1 hh
    simp [hlt, eq_comm]
  | some h =>
    have hge : 16 ≤ rest.length := by
      refine Nat.le_of_not_lt fun hlt => ?_
      rw [Header.parse?_eq_none_iff.2 hlt] at hh
      cases hh
    have hne : rest ≠ [] := List.ne_nil_of_length_pos (by omega)
    have hbytes : hasBytes h.length.toNat rest = false ↔ rest.length < h.length.toNat := by
      rw [← Bool.not_eq_true, hasBytes_iff, Nat.not_le]
    simp only [Nat.not_lt.2 hge, false_and, and_false, false_or, Option.some.injEq, exists_eq_left',
      Header.size, Bool.not_eq_true', hbytes, ne_eq, hne, not_false_eq_true, true_and]
    by_cases hbad : h.length.toNat < 16 ∨ rest.length < h.length.toNat
    · simp [hbad, eq_comm]
    · simp [hbad]

theorem not_broken_nil (v : Violation) : ¬ Broken [] v := fun h => (broken_iff_parse.1 h).1 rfl

variable {d : Bytes} {start : Nat}

theorem framed_nil (h : start = d.length) : Framed d start [] none where
  stands before m behind he := by simp at he
  broken v := by
    have hrest : d.drop (offsetAfter d start []) = [] :=
      List.drop_eq_nil_of_le (Nat.le_of_eq h.symm)
    rw [hrest]
    exact ⟨nofun, fun hb => (not_broken_nil v hb).elim⟩
  covered := ⟨fun _ => h, fun _ => rfl⟩
  bounded := Nat.le_of_eq h

theorem framed_of_violation {v : Violation} (h : Broken (d.drop start) v) :
    Framed d start [] (some v) := by
  obtain ⟨hne, hparse⟩ := broken_iff_parse.1 h
  have hlt : start < d.length := by
    refine Nat.lt_of_not_le fun hle => hne (List.drop_eq_nil_of_le hle)
  refine ⟨fun before m behind he => by simp at he, fun w => ?_, ?_, Nat.le_of_lt hlt⟩
  · have hw : Broken (d.drop start) w ↔ v = w := by
      rw [broken_iff_parse, hparse]
      simp [hne]
    exact Option.some_inj.trans hw.symm
  · exact ⟨nofun, fun hend => absurd hend (Nat.ne_of_lt hlt)⟩

theorem framed_cons {m : Message} {ms : List Message} {v? : Option Violation}
    (hm : StandsAt d start m)
    (h : Framed d (min (start + align m.header.length.toNat) d.length) ms v?) :
    Framed d start (m :: ms) v? where
  stands before m' behind he := by
    cases before with
    | nil =>
      obtain ⟨rfl, -⟩ := List.cons.inj he
      exact hm
    | cons b before =>
      obtain ⟨rfl, hrest⟩ := List.cons.inj he
      exact h.stands before m' behind hrest
  broken := h.broken
  covered := h.covered
  bounded := by
    have hbound := h.bounded
    have hlen := hm.length_le
    have hsize := hm.size_le
    have halign := le_align m.header.length.toNat
    rw [List.length_drop] at hlen
    rw [List.length_cons]
    omega

/-- **Reading from any place cuts the rest of a datagram into spans.** -/
theorem exists_framed (d : Bytes) (start : Nat) (h : start ≤ d.length) :
    ∃ ms v?, stream (d.drop start) = ms.map .ok ++ v?.toList.map .error ∧
      Framed d start ms v? := by
  -- Every message leaves fewer bytes behind it.
  induction hn : d.length - start using Nat.strongRecOn generalizing start with
  | ind n ih =>
    subst hn
    by_cases hend : start = d.length
    · have hrest : d.drop start = [] := List.drop_eq_nil_of_le (Nat.le_of_eq hend.symm)
      refine ⟨[], none, ?_, framed_nil hend⟩
      rw [hrest, stream_nil]
      rfl
    have hne : d.drop start ≠ [] := by
      rw [ne_eq, List.drop_eq_nil_iff]
      omega
    cases hparse : parse (d.drop start) with
    | error v =>
      exact ⟨[], some v, stream_of_violation hne hparse,
        framed_of_violation (broken_iff_parse.2 ⟨hne, hparse⟩)⟩
    | ok found =>
      obtain ⟨m, rest⟩ := found
      obtain ⟨hheader, hsize, hlen, hbody, hrest⟩ := parse_eq_ok hparse
      have hm : StandsAt d start m := ⟨hheader, hsize, hlen, hbody⟩
      have halign := le_align m.header.length.toNat
      let next := min (start + align m.header.length.toNat) d.length
      have hnext : rest = d.drop next := by
        rw [hrest, List.drop_drop, List.drop_eq_drop_iff]
        omega
      obtain ⟨ms, v?, hstream, hframed⟩ :=
        ih (d.length - next) (by omega) next (Nat.min_le_right _ _) rfl
      refine ⟨m :: ms, v?, ?_, framed_cons hm hframed⟩
      rw [stream_eq_cons hparse, hnext, hstream]
      rfl

end Message

/-! ### Requests have whole records -/

namespace Request

/-- The requests that building operations leave behind, in any order, with any arguments, and
whether they succeed or not. A nest may be closed at a place that belongs to another request. -/
inductive Built : Request → Prop
  | new (family : UInt16) (command : UInt8) (flags : UInt16) (limit : Nat) :
    Built (.new family command flags limit)
  | putBytes {r : Request} (kind : UInt16) (payload : Bytes) (h : Built r) :
    Built (after (putBytes kind payload) r)
  | putText {r : Request} (kind : UInt16) (value : String) (h : Built r) :
    Built (after (putText kind value) r)
  | nestStart {r : Request} (kind : UInt16) (h : Built r) : Built (after (nestStart kind) r)
  | nestEnd {r : Request} (nest : Nest) (h : Built r) : Built (after (nestEnd nest) r)

/-- Room for a header and a command, and whole records behind them. -/
structure Whole (r : Request) : Prop where
  four_dvd : 4 ∣ r.length
  size_le : 16 ≤ r.length

theorem whole_new (family : UInt16) (command : UInt8) (flags : UInt16) (limit : Nat) :
    (Request.new family command flags limit).Whole :=
  ⟨by simp [length, Request.new, Header.size], by simp [length, Request.new, Header.size]⟩

/-- What writing an attribute leaves behind. -/
theorem after_putBytes (kind : UInt16) (payload : Bytes) (r : Request) :
    after (putBytes kind payload) r = r ∨
      after (putBytes kind payload) r =
        { r with buffer := r.buffer ++ encodeAttribute kind payload } := by
  rw [after, putBytes_run]
  by_cases hlong : 65535 < 4 + payload.length
  · rw [if_pos hlong]
    exact .inl rfl
  rw [if_neg hlong]
  by_cases hfull : r.limit < r.length + align (4 + payload.length)
  · rw [if_pos hfull]
    exact .inl rfl
  · rw [if_neg hfull]
    exact .inr rfl

/-- What writing a text leaves behind: a text with a NUL is refused before anything is written. -/
theorem after_putText (kind : UInt16) (value : String) (r : Request) :
    after (putText kind value) r = r ∨
      after (putText kind value) r = after (putBytes kind (Utf8.encode value ++ [0])) r := by
  by_cases hnul : 0 ∈ Utf8.encode value
  · refine .inl (after_of_error (e := .invalidValue kind "string contains a NUL byte") ?_)
    simp [putText, hnul]
  · refine .inr (congrArg (after · r) ?_)
    simp [putText, hnul]

/-- What opening a nest leaves behind. -/
theorem after_nestStart (kind : UInt16) (r : Request) :
    after (nestStart kind) r = r ∨
      after (nestStart kind) r = { r with
        buffer := r.buffer ++ Word.ofU16 0 ++ Word.ofU16 (kind ||| Attribute.nestedFlag)
        openNests := r.openNests + 1 } := by
  rw [after, nestStart_run]
  by_cases hfull : r.limit < r.length + 4
  · rw [if_pos hfull]
    exact .inl rfl
  · rw [if_neg hfull]
    exact .inr rfl

/-- What closing a nest leaves behind. The bytes that are written over are there. -/
theorem after_nestEnd (nest : Nest) (r : Request) :
    after (nestEnd nest) r = r ∨
      nest.offset + 2 ≤ r.length ∧ after (nestEnd nest) r = { r with
        buffer := patch nest.offset (Word.encode 2 (r.length - nest.offset)) r.buffer
        openNests := r.openNests - 1 } := by
  rw [after, nestEnd_run]
  by_cases hopen : r.openNests = 0 ∨ r.length < nest.offset
  · rw [if_pos hopen]
    exact .inl rfl
  rw [if_neg hopen]
  by_cases hlong : 65535 < r.length - nest.offset
  · rw [if_pos hlong]
    exact .inl rfl
  rw [if_neg hlong]
  by_cases hshort : r.length < nest.offset + 2
  · rw [if_pos hshort]
    exact .inl rfl
  · rw [if_neg hshort]
    exact .inr ⟨Nat.le_of_not_lt hshort, rfl⟩

theorem length_patch {offset : Nat} {word bs : Bytes} (hword : word.length = 2)
    (h : offset + 2 ≤ bs.length) : (patch offset word bs).length = bs.length := by
  simp only [patch, List.length_append, List.length_take, List.length_drop, hword]
  omega

namespace Whole

variable {r : Request}

/-- Whole records may be added. -/
theorem of_length_add {r' : Request} {n : Nat} (h : r.Whole) (hn : 4 ∣ n)
    (hlen : r'.length = r.length + n) : r'.Whole := by
  refine ⟨hlen ▸ Nat.dvd_add h.four_dvd hn, ?_⟩
  have hsize := h.size_le
  omega

theorem putBytes (h : r.Whole) (kind : UInt16) (payload : Bytes) :
    (after (Request.putBytes kind payload) r).Whole := by
  rcases after_putBytes kind payload r with hr | hr
  · rw [hr]
    exact h
  · rw [hr]
    refine h.of_length_add (four_dvd_align (4 + payload.length)) ?_
    simp [length, length_encodeAttribute]

theorem putText (h : r.Whole) (kind : UInt16) (value : String) :
    (after (Request.putText kind value) r).Whole := by
  rcases after_putText kind value r with hr | hr
  · rw [hr]
    exact h
  · rw [hr]
    exact h.putBytes kind _

theorem nestStart (h : r.Whole) (kind : UInt16) : (after (Request.nestStart kind) r).Whole := by
  rcases after_nestStart kind r with hr | hr
  · rw [hr]
    exact h
  · rw [hr]
    refine h.of_length_add (Nat.dvd_refl 4) ?_
    simp [length]

theorem nestEnd (h : r.Whole) (nest : Nest) : (after (Request.nestEnd nest) r).Whole := by
  rcases after_nestEnd nest r with hr | ⟨hroom, hr⟩
  · rw [hr]
    exact h
  · rw [hr]
    exact h.of_length_add (Nat.dvd_zero 4) (length_patch (Word.length_encode 2 _) hroom)

end Whole

/-- **No request needs padding.** -/
theorem Built.whole {r : Request} (h : Built r) : r.Whole := by
  induction h with
  | new family command flags limit => exact whole_new family command flags limit
  | putBytes kind payload _ ih => exact ih.putBytes kind payload
  | putText kind value _ ih => exact ih.putText kind value
  | nestStart kind _ ih => exact ih.nestStart kind
  | nestEnd nest _ ih => exact ih.nestEnd nest

end Request

/-! ### The requests of commands -/

namespace Request

/-- A computation leaves requests that are built by operations, whatever comes of it. -/
def Builds (b : Build Unit) : Prop := ∀ r, Built r → Built (after b r)

theorem after_bind {α β : Type} (m : Build α) (f : α → Build β) (r : Request) :
    after (m >>= f) r = after m r ∨ ∃ a, after (m >>= f) r = after (f a) (after m r) := by
  cases hrun : m.run r with
  | ok a r' =>
    refine .inr ⟨a, ?_⟩
    rw [after_of_ok hrun, after, after, run_bind_of_ok hrun]
  | error e r' =>
    rw [after_of_error hrun, after_of_error (run_bind_of_error hrun f)]
    exact .inl rfl

theorem Builds.bind {b : Build Unit} {f : Unit → Build Unit} (hb : Builds b)
    (hf : ∀ u, Builds (f u)) : Builds (b >>= f) := by
  intro r hr
  rcases after_bind b f r with h | ⟨u, h⟩
  · rw [h]
    exact hb r hr
  · rw [h]
    exact hf u _ (hb r hr)

theorem Builds.nested {write : Build Unit} (h : Builds write) (kind : UInt16) :
    Builds (nested kind write) := by
  intro r hr
  rcases after_bind (nestStart kind) (fun nest => write >>= fun _ => nestEnd nest) r with
    hrun | ⟨nest, hrun⟩
  · exact hrun ▸ hr.nestStart kind
  · have hclose : Builds (write >>= fun _ => nestEnd nest) :=
      h.bind fun _ r hr => hr.nestEnd nest
    exact hrun ▸ hclose _ (hr.nestStart kind)

end Request

namespace Request

theorem builds_putBytes (kind : UInt16) (payload : Bytes) : Builds (putBytes kind payload) :=
  fun _ hr => hr.putBytes kind payload

theorem after_discard {α : Type} (m : Build α) (r : Request) : after (discard m) r = after m r := by
  change after (m >>= fun _ => pure ()) r = after m r
  rcases after_bind m (fun _ => pure ()) r with h | ⟨a, h⟩
  · exact h
  · exact h

theorem built_of_build {r r' : Request} {b : Build Unit} (hr : Built r) (hb : Builds b)
    (h : r.build b = .ok r') : Built r' := by
  rw [build] at h
  split at h
  · next hrun =>
    obtain rfl := Except.ok.inj h
    exact after_of_ok hrun ▸ hb r hr
  · cases h

end Request

namespace Put

open Request

mutual

theorem builds_write (p : Put) : Builds p.write := by
  cases p with
  | u8 kind value =>
    rw [write]
    exact builds_putBytes kind [value]
  | u16 kind value =>
    rw [write]
    exact builds_putBytes kind (Word.ofU16 value)
  | u32 kind value =>
    rw [write]
    exact builds_putBytes kind (Word.ofU32 value)
  | u64 kind value =>
    rw [write]
    exact builds_putBytes kind (Word.ofU64 value)
  | text kind value =>
    rw [write]
    exact fun r hr => hr.putText kind value
  | bytes kind value =>
    rw [write]
    exact builds_putBytes kind value
  | openNest kind =>
    rw [write]
    exact fun r hr => after_discard (nestStart kind) r ▸ hr.nestStart kind
  | nest kind inner =>
    rw [write]
    exact (builds_writeAll inner).nested kind

theorem builds_writeAll (ps : List Put) : Builds (writeAll ps) := by
  cases ps with
  | nil =>
    rw [writeAll]
    exact fun r hr => hr
  | cons p ps =>
    rw [writeAll]
    exact (builds_write p).bind fun _ => builds_writeAll ps

end

end Put

theorem EncodeContext.built_vendorRequest {ctx : EncodeContext} {binding : VendorBinding}
    {interface : Option UInt32} {r : Request} (h : ctx.vendorRequest binding interface = .ok r) :
    r.Built := by
  rw [vendorRequest] at h
  cases hf : ctx.resolved with
  | error e =>
    rw [hf] at h
    cases h
  | ok family =>
    rw [hf] at h
    refine Request.built_of_build (.new family Message.vendorCommand 0 ctx.limit) ?_ h
    have hvendor := (Request.builds_putBytes Message.vendorKind (Word.ofU32 binding.vendor)).bind
      fun _ => Request.builds_putBytes Message.subcommandKind (Word.ofU32 binding.subcommand)
    cases interface with
    | none => exact hvendor
    | some index => exact (Request.builds_putBytes Message.interfaceKind _).bind fun _ => hvendor

theorem RecipeHead.built_request {head : RecipeHead} {ctx : EncodeContext} {r : Request}
    (h : head.request ctx = .ok r) : r.Built := by
  cases head with
  | plain command flags =>
    rw [request, EncodeContext.request] at h
    cases hf : ctx.resolved with
    | error e =>
      rw [hf] at h
      cases h
    | ok family =>
      rw [hf] at h
      obtain rfl := Except.ok.inj h
      exact .new family command flags ctx.limit
  | control command =>
    obtain rfl := Except.ok.inj h
    exact .new Message.controlFamily command 0 ctx.limit
  | vendor binding interface => exact EncodeContext.built_vendorRequest h
  | refused binding interface cause =>
    rw [request] at h
    cases hbegun : ctx.vendorRequest binding interface <;> rw [hbegun] at h <;> cases h

/-- **The requests of commands are built so.** -/
theorem Recipe.built_encode {recipe : Recipe} {ctx : EncodeContext} {r : Request}
    (h : recipe.encode ctx = .ok r) : r.Built := by
  rw [encode] at h
  cases hhead : recipe.head.request ctx with
  | error e =>
    rw [hhead] at h
    cases h
  | ok new =>
    rw [hhead] at h
    exact Request.built_of_build (RecipeHead.built_request hhead)
      (Put.builds_writeAll recipe.puts) h

/-! ### Datagrams of requests -/

namespace Request

/-- A request with the bytes that it was finished as. -/
structure Finished where
  /-- The request. -/
  request : Request
  /-- The number that it went out with. -/
  seq : UInt32
  /-- The port that it went out with. -/
  port : UInt32
  /-- Its bytes. -/
  bytes : Bytes
  /-- It was built by building operations. -/
  built : request.Built
  /-- These are its bytes. -/
  finished : request.finish seq port = .ok bytes

/-- The message that a finished request is. -/
def Finished.message (f : Finished) : Message :=
  ⟨f.request.header f.seq f.port, f.request.buffer.drop Header.size⟩

/-- A finished request is split off the datagram that it begins, to the byte. -/
theorem Finished.parse_append (f : Finished) (rest : Bytes) :
    Message.parse (f.bytes ++ rest) = .ok (f.message, rest) := by
  obtain ⟨-, hlt, hbytes⟩ := finish_eq_ok_iff.1 f.finished
  obtain ⟨hdvd, hsize⟩ := f.built.whole
  let header := f.request.header f.seq f.port
  let body := f.request.buffer.drop 16
  have hbody : 16 + body.length = f.request.length := by
    simp only [body, List.length_drop, length] at hsize ⊢
    omega
  have hlen : header.length.toNat = 16 + body.length := by
    rw [hbody]
    exact UInt32.toNat_ofNat_of_lt' hlt
  have hrest : (header.encode ++ body ++ rest).drop (align (16 + body.length)) = rest := by
    rw [hbody, align_eq_self_of_dvd hdvd, ← hbody]
    exact List.drop_left' (by simp)
  rw [hbytes, Put.parse_encode_append_append hlen, hrest]
  rfl

end Request

namespace Message

/-- The requests of a datagram are read one by one. -/
theorem stream_finished (sent : List Request.Finished) :
    stream (sent.flatMap (·.bytes)) = sent.map fun f => .ok f.message := by
  induction sent with
  | nil => exact stream_nil
  | cons f sent ih =>
    rw [List.flatMap_cons, stream_eq_cons (f.parse_append _), ih, List.map_cons]

/-- **Any datagram is messages that stand one behind the other, and at most one violation.** The
violation is the last item, and it is there exactly when something is left behind the messages. If
the datagram is made of finished requests, then it is read as these requests, in order, each of
which is the one message of its own bytes. -/
theorem stream_framed (d : Bytes) (sent : List Request.Finished) :
    (∃ ms v?, stream d = ms.map .ok ++ v?.toList.map .error ∧ Framed d 0 ms v?) ∧
      (∀ f ∈ sent, parse f.bytes = .ok (f.message, [])) ∧
      stream (sent.flatMap (·.bytes)) = sent.map fun f => .ok f.message := by
  refine ⟨exists_framed d 0 (Nat.zero_le _), fun f _ => ?_, stream_finished sent⟩
  have hparse := f.parse_append []
  rwa [List.append_nil] at hparse

end Message

end WirelessControl
