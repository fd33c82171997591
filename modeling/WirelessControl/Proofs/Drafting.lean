import Mathlib.Tactic.SplitIfs
import WirelessControl.Proofs.Framing

/-!
# Calls on a request under construction

Whoever builds a request calls its operations one by one, in any order, and goes on after a call
that was refused. What such a caller has in hand is a `Draft`: the request, and the places of nests
that it was given and has not used. A place is used up by the attempt to close its nest, whether the
nest is closed or not; it is never made up, and never comes from another request.

A draft also keeps what no call looks at: which nests are open, and where a length was written and
which one. The request itself only counts its open nests. That the count is right, and that a length
stays where it was written, are what its operations have to be correct about, since they find the
headers of nests by their offsets alone.

## Main definitions

* `Request.LengthAt` — a length that stands in a buffer
* `Request.Draft`, `Request.Draft.call` — a caller, and what one call does
* `Request.Draft.Answer` — the ways in which a call ends
* `Request.Drafted` — the drafts that calls lead to
* `Request.Draft.Tidy` — what they keep

## Main results

* `Request.Draft.call_answer` — a call is refused and changes no request, or adds, begins or closes
* `Request.Drafted.tidy` — the invariant of all calls
* `Request.calls_keep_shape` — sizes, refusals and lengths, and when a request is finished
-/

namespace WirelessControl

/-! ### Values -/

namespace Put

/-- Whether a text with a NUL in it is to be written. -/
def hasNul : Put → Bool
  | .text _ value => 0 ∈ Utf8.encode value
  | _ => false

/-- A value is written by `putBytes`, unless it is a text with a NUL. -/
theorem write_run {p : Put} (hp : p.isNest = false) (r : Request) :
    p.write.run r =
      if p.hasNul then .error (.invalidValue p.kind "string contains a NUL byte") r
      else (Request.putBytes p.kind p.payload).run r := by
  cases p with
  | text kind value =>
    rw [write]
    by_cases hnul : 0 ∈ Utf8.encode value
    · simp [Request.putText, hasNul, Put.kind, hnul]
    · simp [Request.putText, hasNul, Put.kind, payload, hnul]
  | openNest kind => cases hp
  | nest kind inner => cases hp
  | _ =>
    rw [write]
    rfl

end Put

namespace Request

/-! ### Lengths in a buffer -/

/-- A length stands at an offset. It is the whole length and not its low bits. -/
def LengthAt (bs : Bytes) (offset length : Nat) : Prop :=
  Word.read? 2 (bs.drop offset) = some length

instance (bs : Bytes) (offset length : Nat) : Decidable (LengthAt bs offset length) :=
  inferInstanceAs (Decidable (_ = _))

section
variable {bs : Bytes} {offset length : Nat}

theorem LengthAt.add_two_le (h : LengthAt bs offset length) : offset + 2 ≤ bs.length := by
  have hread : ¬ (bs.drop offset).length < 2 := by
    rw [← Word.read?_eq_none_iff, h]
    nofun
  rw [List.length_drop] at hread
  omega

/-- Only the two bytes count. -/
theorem LengthAt.congr (h : LengthAt bs offset length) {bs' : Bytes} {offset' : Nat}
    (heq : (bs'.drop offset').take 2 = (bs.drop offset).take 2) : LengthAt bs' offset' length := by
  have hlen := congrArg List.length heq
  have hhas : hasBytes 2 (bs'.drop offset') = hasBytes 2 (bs.drop offset) := by
    rw [Bool.eq_iff_iff, hasBytes_iff, hasBytes_iff]
    simp only [List.length_take] at hlen
    omega
  rw [LengthAt, Word.read?, hhas, heq]
  exact h

theorem LengthAt.append (h : LengthAt bs offset length) (more : Bytes) :
    LengthAt (bs ++ more) offset length := by
  have hle := h.add_two_le
  refine h.congr ?_
  rw [List.drop_append_of_le_length (by omega), List.take_append_of_le_length]
  rw [List.length_drop]
  omega

/-- A length that is written has sixteen bits. -/
theorem lengthAt_encode (h : length ≤ 65535) (front more : Bytes) :
    LengthAt (front ++ (Word.encode 2 length ++ more)) front.length length := by
  have hmod : length % Word.count 2 = length := Nat.mod_eq_of_lt (Nat.lt_succ_of_le h)
  rw [LengthAt, List.drop_left' rfl, Word.read?_encode_append, hmod]

/-- Writing over two bytes leaves the lengths elsewhere. -/
theorem LengthAt.patch (h : LengthAt bs offset length) {place : Nat} {word : Bytes}
    (hword : word.length = 2) (hplace : place ≤ bs.length)
    (hne : offset + 2 ≤ place ∨ place + 2 ≤ offset) :
    LengthAt (patch place word bs) offset length := by
  refine h.congr ?_
  rcases hne with hbefore | hbehind
  · have htake : (bs.take place).length = place := List.length_take_of_le hplace
    rw [Request.patch, List.append_assoc, List.drop_append_of_le_length (by omega),
      List.take_append_of_le_length, List.drop_take, List.take_take]
    · congr 1
      omega
    · rw [List.length_drop]
      omega
  · have hfront : (bs.take place ++ word).length = place + 2 := by
      rw [List.length_append, List.length_take_of_le hplace, hword]
    obtain ⟨n, rfl⟩ := Nat.exists_eq_add_of_le hbehind
    rw [Request.patch, ← hfront, ← List.drop_drop, List.drop_left' rfl, hfront, List.drop_drop]

theorem lengthAt_patch (h : length ≤ 65535) {place : Nat} (hplace : place ≤ bs.length) :
    LengthAt (Request.patch place (Word.encode 2 length) bs) place length := by
  have hwritten := lengthAt_encode h (bs.take place) (bs.drop (place + 2))
  rwa [List.length_take_of_le hplace, ← List.append_assoc] at hwritten

end

/-! ### Calls -/

/-- A call on a request under construction. -/
inductive Call where
  /-- A value is written. -/
  | put (what : Put) (value : what.isNest = false)
  /-- A nest is opened. -/
  | openNest (kind : UInt16)
  /-- A nest is closed. -/
  | closeNest (nest : Nest)

/-- A request under construction, in the hands of whoever builds it. -/
structure Draft where
  /-- The request. -/
  request : Request
  /-- The places of nests that were given out and are not used, the latest first. -/
  places : List Nest := []
  /-- The nests that were opened and not closed, the latest first. -/
  opened : List Nest := []
  /-- Where lengths were written, and which. -/
  lengths : List (Nat × Nat) := []

namespace Draft

/-- With a value behind the rest. -/
def added (d : Draft) (p : Put) : Draft :=
  { d with
    request := { d.request with
      buffer := d.request.buffer ++ encodeAttribute p.kind p.payload }
    lengths := (d.request.length, 4 + p.payload.length) :: d.lengths }

/-- With a nest begun behind the rest. -/
def begun (d : Draft) (kind : UInt16) : Draft :=
  { d with
    request := { d.request with
      buffer := d.request.buffer ++ (Word.ofU16 0 ++ Word.ofU16 (kind ||| Attribute.nestedFlag))
      openNests := d.request.openNests + 1 }
    places := ⟨d.request.length⟩ :: d.places
    opened := ⟨d.request.length⟩ :: d.opened }

/-- With the place of a nest used up. -/
def forgone (d : Draft) (nest : Nest) : Draft :=
  { d with places := d.places.erase nest }

/-- With a nest closed. -/
def closed (d : Draft) (nest : Nest) : Draft :=
  { request := { d.request with
      buffer := patch nest.offset (Word.encode 2 (d.request.length - nest.offset))
        d.request.buffer
      openNests := d.request.openNests - 1 }
    places := d.places.erase nest
    opened := d.opened.erase nest
    lengths := (nest.offset, d.request.length - nest.offset) :: d.lengths }

/-- Carries out one call, and says how it ended. -/
def call (d : Draft) : Call → Except EncodingError Unit × Draft
  | .put p _ =>
    match p.write.run d.request with
    | .ok _ r =>
      (.ok (), { d with
        request := r
        lengths := (d.request.length, 4 + p.payload.length) :: d.lengths })
    | .error e r => (.error e, { d with request := r })
  | .openNest kind =>
    match (nestStart kind).run d.request with
    | .ok nest r =>
      (.ok (), { d with request := r, places := nest :: d.places, opened := nest :: d.opened })
    | .error e r => (.error e, { d with request := r })
  | .closeNest nest =>
    match (nestEnd nest).run d.request with
    | .ok _ r =>
      (.ok (), {
        request := r
        places := d.places.erase nest
        opened := d.opened.erase nest
        lengths := (nest.offset, d.request.length - nest.offset) :: d.lengths })
    | .error e r => (.error e, { d with request := r, places := d.places.erase nest })

/-- Only places that are in hand are used. -/
def Owns (d : Draft) : Call → Prop
  | .closeNest nest => nest ∈ d.places
  | _ => True

instance (d : Draft) : DecidablePred d.Owns
  | .put _ _ => .isTrue trivial
  | .openNest _ => .isTrue trivial
  | .closeNest nest => inferInstanceAs (Decidable (nest ∈ d.places))

/-- The ways in which a call ends: it is refused, and a place is used up all the same, or it adds a
value, begins a nest or closes one. -/
inductive Answer (d : Draft) : Call → Except EncodingError Unit × Draft → Prop
  | refused (c : Call) (e : EncodingError) : Answer d c (.error e, d)
  | forgone (nest : Nest) (e : EncodingError) : Answer d (.closeNest nest) (.error e, d.forgone nest)
  | added (p : Put) (hp : p.isNest = false) (hnul : p.hasNul = false)
    (hlong : 4 + p.payload.length ≤ 65535)
    (hroom : d.request.length + align (4 + p.payload.length) ≤ d.request.limit) :
    Answer d (.put p hp) (.ok (), d.added p)
  | begun (kind : UInt16) (hroom : d.request.length + 4 ≤ d.request.limit) :
    Answer d (.openNest kind) (.ok (), d.begun kind)
  | closed (nest : Nest) (hlong : d.request.length - nest.offset ≤ 65535) :
    Answer d (.closeNest nest) (.ok (), d.closed nest)

variable (d : Draft)

/-- How the writing of a value ends. -/
theorem call_put {p : Put} (hp : p.isNest = false) :
    d.call (.put p hp) =
      if p.hasNul then (.error (.invalidValue p.kind "string contains a NUL byte"), d)
      else if 65535 < 4 + p.payload.length then
        (.error (.invalidValue p.kind "payload longer than an attribute can carry"), d)
      else if d.request.limit < d.request.length + align (4 + p.payload.length) then
        (.error (.overflow d.request.limit), d)
      else (.ok (), d.added p) := by
  rw [call, Put.write_run hp, putBytes_run]
  split_ifs <;> rfl

/-- How the opening of a nest ends. -/
theorem call_openNest (kind : UInt16) :
    d.call (.openNest kind) =
      if d.request.limit < d.request.length + 4 then (.error (.overflow d.request.limit), d)
      else (.ok (), d.begun kind) := by
  rw [call, nestStart_run, List.append_assoc]
  split_ifs <;> rfl

/-- How the closing of a nest ends. -/
theorem call_closeNest (nest : Nest) :
    d.call (.closeNest nest) =
      if d.request.openNests = 0 ∨ d.request.length < nest.offset then
        (.error .unbalancedNest, d.forgone nest)
      else if 65535 < d.request.length - nest.offset then
        (.error (.overflow 65535), d.forgone nest)
      else if d.request.length < nest.offset + 2 then (.error .unbalancedNest, d.forgone nest)
      else (.ok (), d.closed nest) := by
  rw [call, nestEnd_run]
  split_ifs <;> rfl

/-- **A call is refused, or it adds, begins or closes.** -/
theorem call_answer (c : Call) : d.Answer c (d.call c) := by
  cases c with
  | put p hp =>
    rw [call_put]
    split_ifs with hnul hlong hroom
    · exact .refused _ _
    · exact .refused _ _
    · exact .refused _ _
    · exact .added p hp (Bool.eq_false_iff.2 hnul) (Nat.le_of_not_lt hlong) (Nat.le_of_not_lt hroom)
  | openNest kind =>
    rw [call_openNest]
    split_ifs with hroom
    · exact .refused _ _
    · exact .begun kind (Nat.le_of_not_lt hroom)
  | closeNest nest =>
    rw [call_closeNest]
    split_ifs with hnone hlong
    · exact .forgone nest _
    · exact .forgone nest _
    · exact .forgone nest _
    · exact .closed nest (Nat.le_of_not_lt hlong)

variable {d}

/-- A call that is refused leaves the request as it is. -/
theorem request_of_call_error {c : Call} {e : EncodingError} (h : (d.call c).1 = .error e) :
    (d.call c).2.request = d.request := by
  have hanswer := d.call_answer c
  generalize d.call c = out at h hanswer
  cases hanswer with
  | refused _ _ => rfl
  | forgone nest _ => rfl
  | _ => cases h

end Draft

/-! ### Drafts that calls lead to -/

/-- The drafts that allowed calls lead to, from a new request with a limit. -/
inductive Drafted (allowed : Draft → Call → Prop) (limit : Nat) : Draft → Prop
  | new (family : UInt16) (command : UInt8) (flags : UInt16) :
    Drafted allowed limit { request := .new family command flags limit }
  | call {d : Draft} (h : Drafted allowed limit d) (c : Call) (hc : allowed d c) :
    Drafted allowed limit (d.call c).2

section
variable {allowed more : Draft → Call → Prop} {limit : Nat} {d : Draft}

theorem Drafted.mono (h : ∀ d c, allowed d c → more d c) (hd : Drafted allowed limit d) :
    Drafted more limit d := by
  induction hd with
  | new family command flags => exact .new family command flags
  | call _ c hc ih => exact ih.call c (h _ _ hc)

/-- The limit is the one that the request was begun with. -/
theorem Drafted.limit_eq (hd : Drafted allowed limit d) : d.request.limit = limit := by
  induction hd with
  | new family command flags => rfl
  | @call d _ c _ ih =>
    have hanswer := d.call_answer c
    generalize d.call c = out at hanswer
    cases hanswer <;> exact ih

namespace Draft

/-- Where headers begin whose length was written or is still to be written. -/
def headers (d : Draft) : List Nat :=
  d.lengths.map (·.1) ++ d.opened.map (·.offset)

/-- What calls keep. The request has whole records, no two headers share a byte, nests are counted,
every place in hand is that of an open nest, and lengths stay where they were written. -/
structure Tidy (d : Draft) : Prop where
  four_dvd : 4 ∣ d.request.length
  size_le : 20 ≤ d.request.length
  openNests : d.request.openNests = d.opened.length
  places : d.places.Sublist d.opened
  headers : ∀ offset ∈ d.headers, 4 ∣ offset ∧ 20 ≤ offset ∧ offset + 4 ≤ d.request.length
  nodup : d.headers.Nodup
  kept : ∀ e ∈ d.lengths, e.2 ≤ 65535 ∧ LengthAt d.request.buffer e.1 e.2

theorem tidy_new (family : UInt16) (command : UInt8) (flags : UInt16) (limit : Nat) :
    Tidy { request := .new family command flags limit } where
  four_dvd := by simp [length, Request.new, Header.size]
  size_le := by simp [length, Request.new, Header.size]
  openNests := rfl
  places := .slnil
  headers := nofun
  nodup := List.nodup_nil
  kept := nofun

namespace Tidy

/-- A place in hand is that of an open nest, whose header is there. -/
theorem open_of_mem (h : d.Tidy) {nest : Nest} (hnest : nest ∈ d.places) :
    nest ∈ d.opened ∧ nest.offset + 4 ≤ d.request.length ∧ 0 < d.request.openNests := by
  have hmem : nest ∈ d.opened := h.places.subset hnest
  have hheader : nest.offset ∈ d.headers :=
    List.mem_append_right _ (List.mem_map_of_mem hmem)
  exact ⟨hmem, (h.headers _ hheader).2.2, h.openNests ▸ List.length_pos_of_mem hmem⟩

/-- The end of the buffer is no header. -/
theorem end_notMem (h : d.Tidy) : d.request.length ∉ d.headers := fun hmem => by
  have := (h.headers _ hmem).2.2
  omega

theorem forgone (h : d.Tidy) (nest : Nest) : (d.forgone nest).Tidy :=
  { h with places := List.erase_sublist.trans h.places }

theorem added (h : d.Tidy) {p : Put} (hlong : 4 + p.payload.length ≤ 65535) :
    (d.added p).Tidy := by
  have hlen : (d.added p).request.length = d.request.length + align (4 + p.payload.length) := by
    simp [Draft.added, length, length_encodeAttribute]
  have halign := le_align (4 + p.payload.length)
  have hheaders : (d.added p).headers = d.request.length :: d.headers := rfl
  refine ⟨?_, ?_, h.openNests, h.places, ?_, ?_, ?_⟩
  · rw [hlen]
    exact Nat.dvd_add h.four_dvd (four_dvd_align _)
  · have := h.size_le
    omega
  · intro offset hmem
    rw [hlen]
    rcases List.mem_cons.1 (hheaders ▸ hmem) with rfl | hmem
    · exact ⟨h.four_dvd, h.size_le, by omega⟩
    · have := h.headers offset hmem
      exact ⟨this.1, this.2.1, by omega⟩
  · rw [hheaders]
    exact List.nodup_cons.2 ⟨h.end_notMem, h.nodup⟩
  · intro e he
    rcases List.mem_cons.1 he with rfl | he
    · refine ⟨hlong, ?_⟩
      have hwritten := lengthAt_encode hlong d.request.buffer
        (Word.ofU16 p.kind ++ p.payload ++
          List.replicate (align (4 + p.payload.length) - (4 + p.payload.length)) 0)
      simpa [Draft.added, encodeAttribute, Attribute.headerLength, Request.length] using hwritten
    · exact ⟨(h.kept e he).1, (h.kept e he).2.append _⟩

theorem begun (h : d.Tidy) (kind : UInt16) : (d.begun kind).Tidy := by
  have hlen : (d.begun kind).request.length = d.request.length + 4 := by
    simp [Draft.begun, length]
  have hheaders : (d.begun kind).headers.Perm (d.request.length :: d.headers) := List.perm_middle
  refine ⟨?_, ?_, ?_, h.places.cons_cons _, ?_, ?_, ?_⟩
  · rw [hlen]
    exact Nat.dvd_add h.four_dvd (Nat.dvd_refl 4)
  · have := h.size_le
    omega
  · exact congrArg (· + 1) h.openNests
  · intro offset hmem
    rw [hlen]
    rcases List.mem_cons.1 (hheaders.subset hmem) with rfl | hmem
    · exact ⟨h.four_dvd, h.size_le, Nat.le_refl _⟩
    · have := h.headers offset hmem
      exact ⟨this.1, this.2.1, by omega⟩
  · exact hheaders.nodup_iff.2 (List.nodup_cons.2 ⟨h.end_notMem, h.nodup⟩)
  · exact fun e he => ⟨(h.kept e he).1, (h.kept e he).2.append _⟩

theorem closed (h : d.Tidy) {nest : Nest} (hnest : nest ∈ d.places)
    (hlong : d.request.length - nest.offset ≤ 65535) : (d.closed nest).Tidy := by
  obtain ⟨hopen, hplace, -⟩ := h.open_of_mem hnest
  have hlen : (d.closed nest).request.length = d.request.length :=
    length_patch (Word.length_encode 2 _) (by rw [← Request.length]; omega)
  -- The header goes from the open nests to the written lengths.
  have hheaders : (d.closed nest).headers.Perm d.headers := by
    have hmoved := (List.perm_cons_erase hopen).map (·.offset)
    exact (List.perm_middle.symm.trans (hmoved.symm.append_left _))
  refine ⟨hlen ▸ h.four_dvd, hlen ▸ h.size_le, ?_, h.places.erase nest, ?_, ?_, ?_⟩
  · change d.request.openNests - 1 = (d.opened.erase nest).length
    rw [List.length_erase_of_mem hopen, h.openNests]
  · intro offset hmem
    rw [hlen]
    exact h.headers offset (hheaders.subset hmem)
  · exact hheaders.nodup_iff.2 h.nodup
  · intro e he
    rcases List.mem_cons.1 he with rfl | he
    · refine ⟨hlong, lengthAt_patch hlong ?_⟩
      change nest.offset ≤ d.request.length
      omega
    · obtain ⟨hshort, hat⟩ := h.kept e he
      have hheader : e.1 ∈ d.lengths.map (·.1) := List.mem_map_of_mem he
      have hnested : nest.offset ∈ d.opened.map (·.offset) := List.mem_map_of_mem hopen
      have hne : e.1 ≠ nest.offset :=
        fun heq => (List.nodup_append.1 h.nodup).2.2 _ hheader _ hnested heq
      have hdvd := (h.headers _ (List.mem_append_left _ hheader)).1
      have hdvd' := (h.headers _ (List.mem_append_right _ hnested)).1
      refine ⟨hshort, hat.patch (Word.length_encode 2 _) ?_ (by omega)⟩
      change nest.offset ≤ d.request.length
      omega

/-- One call keeps a draft tidy. -/
theorem call (h : d.Tidy) (c : Call) (hc : d.Owns c) : (d.call c).2.Tidy := by
  have hanswer := d.call_answer c
  generalize d.call c = out at hanswer
  cases hanswer with
  | refused _ _ => exact h
  | forgone nest _ => exact h.forgone nest
  | added p hp _ hlong _ => exact h.added hlong
  | begun kind _ => exact h.begun kind
  | closed nest hlong => exact h.closed hc hlong

end Tidy

end Draft

/-- **All calls keep a draft tidy.** -/
theorem Drafted.tidy (hd : Drafted Draft.Owns limit d) : d.Tidy := by
  induction hd with
  | new family command flags => exact Draft.tidy_new family command flags limit
  | call _ c hc ih => exact ih.call c hc

/-- The limit is kept. -/
theorem Drafted.length_le (hlimit : 20 ≤ limit) (hd : Drafted Draft.Owns limit d) :
    d.request.length ≤ limit := by
  induction hd with
  | new family command flags => simpa [length, Request.new, Header.size] using hlimit
  | @call d hd c hc ih =>
    have hanswer := d.call_answer c
    have hlimit := hd.limit_eq
    generalize d.call c = out at hanswer
    cases hanswer with
    | refused _ _ => exact ih
    | forgone nest _ => exact ih
    | added p hp _ _ hroom =>
      rw [← hlimit]
      simpa [Draft.added, length, length_encodeAttribute] using hroom
    | begun kind hroom =>
      rw [← hlimit]
      simpa [Draft.begun, length] using hroom
    | closed nest hlong =>
      obtain ⟨-, hplace, -⟩ := hd.tidy.open_of_mem hc
      have hsame : (d.closed nest).request.length = d.request.length :=
        length_patch (Word.length_encode 2 _) (by rw [← Request.length]; omega)
      exact hsame ▸ ih

/-! ### Finishing -/

/-- A request is finished exactly when no nest is open, unless it is too long for its header. -/
theorem Draft.Tidy.exists_finish_iff (h : d.Tidy) (hlen : d.request.length < UInt32.size)
    (seq port : UInt32) : (∃ bs, d.request.finish seq port = .ok bs) ↔ d.opened = [] := by
  rw [← List.length_eq_zero_iff, ← h.openNests]
  constructor
  · rintro ⟨bs, hbs⟩
    exact (finish_eq_ok_iff.1 hbs).1
  · intro hnone
    exact ⟨_, finish_eq_ok_iff.2 ⟨hnone, hlen, rfl⟩⟩

/-- A finished request has the length of the request, its header says so, and the lengths in it are
those that were written. -/
theorem Draft.Tidy.finish (h : d.Tidy) {seq port : UInt32} {bs : Bytes}
    (hbs : d.request.finish seq port = .ok bs) :
    bs.length = d.request.length ∧
      (∃ header, Header.parse? bs = some header ∧ header.length.toNat = bs.length) ∧
      ∀ e ∈ d.lengths, LengthAt bs e.1 e.2 := by
  obtain ⟨-, hlt, rfl⟩ := finish_eq_ok_iff.1 hbs
  have hsize := h.size_le
  have hlength : ((d.request.header seq port).encode ++ d.request.buffer.drop 16).length =
      d.request.length := by
    rw [List.length_append, Header.length_encode, List.length_drop, ← Request.length]
    omega
  refine ⟨hlength, ⟨_, Header.parse?_encode_append _ _, ?_⟩, fun e he => ?_⟩
  · rw [hlength]
    exact UInt32.toNat_ofNat_of_lt' hlt
  · have hheader : e.1 ∈ d.headers := List.mem_append_left _ (List.mem_map_of_mem he)
    obtain ⟨n, hn⟩ := Nat.exists_eq_add_of_le (h.headers _ hheader).2.1
    refine (h.kept e he).2.congr (congrArg (List.take 2) ?_)
    rw [show e.1 = (d.request.header seq port).encode.length + (4 + n) by simp; omega,
      ← List.drop_drop, List.drop_left' rfl, List.drop_drop, Header.length_encode]

/-! ### All calls -/

/-- A value that was written is a call. -/
theorem Drafted.exists_of_write (hd : Drafted Draft.Owns limit d) {p : Put}
    (hp : p.isNest = false) {r : Request} (h : p.write.run d.request = .ok () r) :
    ∃ d', Drafted Draft.Owns limit d' ∧ d'.request = r := by
  refine ⟨(d.call (.put p hp)).2, hd.call _ trivial, ?_⟩
  rw [Draft.call, h]

/-- Vendor requests are begun by calls. -/
theorem Drafted.exists_of_ofVendor {family : UInt16} {binding : VendorBinding}
    {interface : Option UInt32} {r : Request}
    (h : ofVendor family binding interface limit = .ok r) :
    ∃ d, Drafted Draft.Owns limit d ∧ d.request = r := by
  rw [ofVendor, build] at h
  split at h
  · next u r' hrun =>
    obtain rfl := Except.ok.inj h
    have hnew : Drafted Draft.Owns limit _ := .new family Message.vendorCommand 0
    have hbinding {d : Draft} (hd : Drafted Draft.Owns limit d) {r₁ : Request}
        (h : (do putU32 Message.vendorKind binding.vendor
                 putU32 Message.subcommandKind binding.subcommand).run d.request = .ok () r₁) :
        ∃ d', Drafted Draft.Owns limit d' ∧ d'.request = r₁ := by
      obtain ⟨⟨⟩, r₂, hvendor, hsub⟩ := exists_of_run_bind h
      obtain ⟨d₂, hd₂, rfl⟩ := hd.exists_of_write (p := .u32 _ _) rfl
        (by rw [Put.write]; exact hvendor)
      exact hd₂.exists_of_write (p := .u32 _ _) rfl (by rw [Put.write]; exact hsub)
    cases interface with
    | none => exact hbinding hnew hrun
    | some index =>
      obtain ⟨⟨⟩, r₁, hinterface, hrun⟩ := exists_of_run_bind hrun
      obtain ⟨d₁, hd₁, rfl⟩ := hnew.exists_of_write (p := .u32 _ _) rfl
        (by rw [Put.write]; exact hinterface)
      exact hbinding hd₁ hrun
  · cases h

/-- What calls do to a draft, and what may be said of it between them. -/
structure Draft.WellShaped (limit : Nat) (d : Draft) : Prop where
  /-- The request has whole records behind its headers, and keeps to the limit. -/
  size : 4 ∣ d.request.length ∧ 20 ≤ d.request.length ∧ d.request.length ≤ limit
  /-- A refused call leaves the bytes and the number of open nests as they are. -/
  refused : ∀ c e, (d.call c).1 = .error e → (d.call c).2.request = d.request
  /-- A value is refused when it is too long for its record, is a text with a NUL, or is too long
  for the request, and for no other reason. -/
  put : ∀ p hp, (∃ e, (d.call (.put p hp)).1 = .error e) ↔
    65535 < 4 + p.payload.length ∨ p.hasNul ∨
      limit < d.request.length + align (4 + p.payload.length)
  /-- The length of a value counts its header, and is written where the value begins. -/
  putLength : ∀ p hp, (d.call (.put p hp)).1 = .ok () →
    (d.call (.put p hp)).2.lengths = (d.request.length, 4 + p.payload.length) :: d.lengths ∧
      LengthAt (d.call (.put p hp)).2.request.buffer d.request.length (4 + p.payload.length)
  /-- The length of a nest goes from its header to the end of the buffer. -/
  nestLength : ∀ nest ∈ d.places, (d.call (.closeNest nest)).1 = .ok () →
    nest.offset + 4 ≤ d.request.length ∧
      (d.call (.closeNest nest)).2.lengths =
        (nest.offset, d.request.length - nest.offset) :: d.lengths ∧
      LengthAt (d.call (.closeNest nest)).2.request.buffer nest.offset
        (d.request.length - nest.offset)
  /-- All lengths that were written have sixteen bits, and are there. -/
  lengths : ∀ e ∈ d.lengths, e.2 ≤ 65535 ∧ LengthAt d.request.buffer e.1 e.2
  /-- The request is finished when no nest is open, and at no other time. -/
  finishes : d.request.length < UInt32.size → ∀ seq port,
    (∃ bs, d.request.finish seq port = .ok bs) ↔ d.opened = []
  /-- A finished request has the length of the request, and its header says so. -/
  finished : ∀ seq port bs, d.request.finish seq port = .ok bs →
    bs.length = d.request.length ∧
      (∃ header, Header.parse? bs = some header ∧ header.length.toNat = bs.length) ∧
      ∀ e ∈ d.lengths, LengthAt bs e.1 e.2

theorem Draft.call_put_error_iff (hlimit : d.request.limit = limit) {p : Put}
    (hp : p.isNest = false) :
    (∃ e, (d.call (.put p hp)).1 = .error e) ↔
      65535 < 4 + p.payload.length ∨ p.hasNul ∨
        limit < d.request.length + align (4 + p.payload.length) := by
  rw [d.call_put hp, hlimit]
  split_ifs with hnul hlong hroom
  · exact ⟨fun _ => .inr (.inl hnul), fun _ => ⟨_, rfl⟩⟩
  · exact ⟨fun _ => .inl hlong, fun _ => ⟨_, rfl⟩⟩
  · exact ⟨fun _ => .inr (.inr hroom), fun _ => ⟨_, rfl⟩⟩
  · constructor
    · rintro ⟨e, he⟩
      cases he
    · rintro (h | h | h)
      · exact absurd h hlong
      · exact absurd h hnul
      · exact absurd h hroom

theorem Draft.lengths_of_call_put {p : Put} {hp : p.isNest = false}
    (h : (d.call (.put p hp)).1 = .ok ()) :
    (d.call (.put p hp)).2.lengths = (d.request.length, 4 + p.payload.length) :: d.lengths := by
  have hanswer := d.call_answer (.put p hp)
  generalize d.call (.put p hp) = out at h hanswer
  cases hanswer with
  | added _ _ _ _ _ => rfl
  | refused _ _ => cases h

theorem Draft.lengths_of_call_closeNest {nest : Nest}
    (h : (d.call (.closeNest nest)).1 = .ok ()) :
    (d.call (.closeNest nest)).2.lengths =
      (nest.offset, d.request.length - nest.offset) :: d.lengths := by
  have hanswer := d.call_answer (.closeNest nest)
  generalize d.call (.closeNest nest) = out at h hanswer
  cases hanswer with
  | closed _ _ => rfl
  | refused _ _ => cases h
  | forgone _ _ => cases h

/-- **Calls keep a request in shape, whatever their order and whether they succeed or not.** The
places of nests are used by the caller that they were given to, each once and in any order, or not
at all. A vendor request is begun by such calls too. -/
theorem calls_keep_shape (hlimit : 20 ≤ limit) :
    (∀ d, Drafted Draft.Owns limit d → d.WellShaped limit) ∧
      ∀ family binding interface r, ofVendor family binding interface limit = .ok r →
        ∃ d, Drafted Draft.Owns limit d ∧ d.request = r := by
  refine ⟨fun d hd => ?_, fun family binding interface r h => Drafted.exists_of_ofVendor h⟩
  have htidy := hd.tidy
  exact {
    size := ⟨htidy.four_dvd, htidy.size_le, hd.length_le hlimit⟩
    refused := fun c e h => Draft.request_of_call_error h
    put := fun p hp => Draft.call_put_error_iff hd.limit_eq hp
    putLength := fun p hp h => by
      have hlengths := Draft.lengths_of_call_put h
      exact ⟨hlengths, ((htidy.call (.put p hp) trivial).kept _ (hlengths ▸ List.mem_cons_self)).2⟩
    nestLength := fun nest hnest h => by
      have hlengths := Draft.lengths_of_call_closeNest h
      exact ⟨(htidy.open_of_mem hnest).2.1, hlengths,
        ((htidy.call (.closeNest nest) hnest).kept _ (hlengths ▸ List.mem_cons_self)).2⟩
    lengths := htidy.kept
    finishes := htidy.exists_finish_iff
    finished := fun seq port bs h => htidy.finish h }

end

/-- A draft with one value in a nest that is closed. -/
def Draft.single : Draft :=
  let d : Draft := { request := .new 28 1 0 64 }
  let d := (d.call (.openNest 1)).2
  let d := (d.call (.put (.u8 2 7) rfl)).2
  (d.call (.closeNest ⟨20⟩)).2

theorem calls_keep_shape_single :
    20 ≤ 64 ∧ Drafted Draft.Owns 64 Draft.single ∧
      Draft.single.lengths = [(20, 12), (24, 5)] ∧
      LengthAt Draft.single.request.buffer 20 12 ∧ LengthAt Draft.single.request.buffer 24 5 ∧
      ∃ bs, Draft.single.request.finish 3 4 = .ok bs ∧ bs.length = 32 := by
  have hdrafted : Drafted Draft.Owns 64 Draft.single :=
    (((Drafted.new 28 1 0).call (.openNest 1) trivial).call (.put (.u8 2 7) rfl) trivial).call
      (.closeNest ⟨20⟩) (List.mem_singleton.2 rfl)
  have hshape := (calls_keep_shape (by decide)).1 _ hdrafted
  have hlengths : Draft.single.lengths = [(20, 12), (24, 5)] := by decide
  have hlength : Draft.single.request.length = 32 := by decide
  obtain ⟨bs, hbs⟩ := (hshape.finishes (by rw [hlength]; decide) 3 4).2 (by decide)
  refine ⟨by decide, hdrafted, hlengths, (hshape.lengths (20, 12) ?_).2,
    (hshape.lengths (24, 5) ?_).2, bs, hbs, ?_⟩
  · simp [hlengths]
  · simp [hlengths]
  · rw [(hshape.finished 3 4 bs hbs).1, hlength]

end Request

end WirelessControl
