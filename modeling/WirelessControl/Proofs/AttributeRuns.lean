import WirelessControl.Proofs.AttributeForest

/-!
# The records of a run

A run of attributes comes from elsewhere and may hold anything. Reading it cuts it into records:
each takes as many bytes as its length says, rounded up to a multiple of four, and the last one may
lack its padding. Reading is over where no record can begin: fewer than four bytes are left, or the
length that stands there is impossible. No other way to cut the run into records goes further.

Payloads are runs again, for whoever asks. Each record spends four bytes on its header, so that a
way down through payloads is at most a quarter as long as the run.

A run that was written is read back, with whatever stands behind it, as long as no record can begin
there.

## Main definitions

* `Attribute.StandsAt`, `Attribute.Splits` — where the records of a run stand
* `Attribute.Ends` — bytes that no record can begin with
* `Attribute.Path` — a way down through payloads
* `Attribute.encodeAll` — the bytes of records, one behind the other

## Main results

* `Attribute.exists_splits` — reading cuts a run into records as far as it can be cut
* `Attribute.Path.length_le` — payloads are not nested deeper than their bytes allow
* `Attribute.parse_encodeAll_append` — a run that was written is read back
* `Attribute.parse_exact` — all of it, for any bytes
-/

namespace WirelessControl

namespace Attribute

/-! ### Records at their places -/

/-- A record of `length` bytes stands at an offset: its length and its kind are read there, the
length counts these four bytes and goes no further than the run, and the payload is what the length
leaves behind them. -/
structure StandsAt (b : Bytes) (start length : Nat) (a : Attribute) : Prop where
  length_eq : Word.read? 2 (b.drop start) = some length
  four_le : 4 ≤ length
  length_le : start + length ≤ b.length
  kind_eq : ∃ kind, Word.u16? (b.drop (start + 2)) = some kind ∧ a.kind = kind &&& kindMask ∧
    a.nested = decide (kind &&& nestedFlag ≠ 0)
  payload_eq : a.payload = (b.drop (start + 4)).take (length - 4)

/-- Bytes that no record can begin with: too few for a header, or the length that stands there is
below the header's own or beyond their end. -/
def Ends (bs : Bytes) : Prop :=
  bs.length < 4 ∨ ∃ length, Word.read? 2 bs = some length ∧ (length < 4 ∨ bs.length < length)

variable {b : Bytes} {start length stop : Nat} {a : Attribute} {as : List Attribute}

theorem toNat_of_read? {bs : Bytes} {n : Nat} (h : Word.read? 2 bs = some n) :
    (UInt16.ofNat n).toNat = n := by
  have hlt : n < 65536 := by
    rw [Word.read?] at h
    split at h
    · next hbytes =>
      obtain rfl := Option.some.inj h
      have hlength : (bs.take 2).length = 2 := List.length_take_of_le (hasBytes_iff.1 hbytes)
      have hbound := Word.decode_lt (bs.take 2)
      rw [hlength] at hbound
      exact hbound
    · cases h
  exact UInt16.toNat_ofNat_of_lt' hlt

theorem StandsAt.length_payload (h : StandsAt b start length a) :
    a.payload.length + 4 = length := by
  have hfour := h.four_le
  have hlength := h.length_le
  rw [h.payload_eq, List.length_take, List.length_drop]
  omega

theorem StandsAt.unique {length' : Nat} {a' : Attribute} (h : StandsAt b start length a)
    (h' : StandsAt b start length' a') : length = length' :=
  Option.some.inj (h.length_eq.symm.trans h'.length_eq)

/-- The first record of what is left stands where that begins. -/
theorem next?_drop_eq_some_iff {rest : Bytes} : next? (b.drop start) = some (a, rest) ↔
    ∃ length, StandsAt b start length a ∧ rest = b.drop (start + align length) := by
  constructor
  · intro h
    unfold next? at h
    split at h
    · next word kind hword hkind =>
      split at h
      · next hfits =>
        obtain ⟨length, hread, rfl⟩ := Option.map_eq_some_iff.1 hword
        rw [toNat_of_read? hread, hasBytes_iff, List.length_drop] at hfits
        obtain ⟨hfour, hlength⟩ := hfits
        simp only [Option.some.injEq, Prod.mk.injEq] at h
        obtain ⟨rfl, rfl⟩ := h
        rw [List.drop_drop] at hkind
        refine ⟨length, ⟨hread, hfour, ?_, ⟨kind, hkind, rfl, rfl⟩, ?_⟩, ?_⟩
        · simp only [headerLength] at hfour
          omega
        · simp only [toNat_of_read? hread, headerLength, List.drop_take, List.drop_drop]
        · rw [toNat_of_read? hread, List.drop_drop]
      · cases h
    · cases h
  · rintro ⟨length, h, rfl⟩
    obtain ⟨kind, hkind, hmask, hflag⟩ := h.kind_eq
    have hfour := h.four_le
    have hlength := h.length_le
    have hword : Word.u16? (b.drop start) = some (UInt16.ofNat length) := by
      rw [Word.u16?, h.length_eq, Option.map_some]
    have hword' : Word.u16? ((b.drop start).drop 2) = some kind := by
      rw [List.drop_drop, hkind]
    have hbytes : length ≤ (b.drop start).length := by
      rw [List.length_drop]
      omega
    rw [next?, hword, hword']
    simp only [toNat_of_read? h.length_eq, hasBytes_iff, headerLength]
    rw [if_pos ⟨hfour, hbytes⟩, List.drop_take, List.drop_drop, List.drop_drop, ← h.payload_eq,
      ← hmask, ← hflag]

/-- Reading is over where no record can begin. -/
theorem next?_eq_none_iff {bs : Bytes} : next? bs = none ↔ Ends bs := by
  by_cases hshort : bs.length < 4
  · have hkind : Word.u16? (bs.drop 2) = none := by
      rw [Word.u16?, Option.map_eq_none_iff, Word.read?_eq_none_iff, List.length_drop]
      omega
    refine iff_of_true ?_ (.inl hshort)
    rw [next?, hkind]
    cases Word.u16? bs <;> rfl
  · obtain ⟨length, hlength⟩ : ∃ length, Word.read? 2 bs = some length := by
      rw [← Option.ne_none_iff_exists', ne_eq, Word.read?_eq_none_iff]
      omega
    obtain ⟨kind, hkind⟩ : ∃ kind, Word.read? 2 (bs.drop 2) = some kind := by
      rw [← Option.ne_none_iff_exists', ne_eq, Word.read?_eq_none_iff, List.length_drop]
      omega
    have hends : Ends bs ↔ length < 4 ∨ bs.length < length := by
      rw [Ends, hlength]
      simp [hshort]
    rw [hends, next?, Word.u16?, hlength, Word.u16?, hkind]
    simp only [Option.map_some, toNat_of_read? hlength, headerLength, hasBytes_iff]
    split
    · next hfits => exact iff_of_false (Option.some_ne_none _) (by omega)
    · next hfits => exact ⟨fun _ => by omega, fun _ => rfl⟩

/-! ### Runs as records -/

/-- Records stand one behind the other from `start` to `stop`: each takes its length, rounded up to
a multiple of four, as far as the run goes. -/
inductive Splits (b : Bytes) : (start : Nat) → List Attribute → (stop : Nat) → Prop
  /-- No record. -/
  | nil (start : Nat) : Splits b start [] start
  /-- One record, and those behind it. -/
  | cons {start length stop : Nat} {a : Attribute} {as : List Attribute}
      (h : StandsAt b start length a)
      (behind : Splits b (min (start + align length) b.length) as stop) :
      Splits b start (a :: as) stop

theorem drop_min_length (n : Nat) : b.drop (min n b.length) = b.drop n := by
  rw [List.drop_eq_drop_iff]
  omega

namespace Splits

theorem start_le (h : Splits b start as stop) : start ≤ stop := by
  induction h with
  | nil => exact Nat.le_refl _
  | cons h _ ih =>
    have hlength := h.length_le
    omega

/-- Records behind records. -/
theorem append {middle : Nat} {as' : List Attribute} (h : Splits b start as middle)
    (h' : Splits b middle as' stop) : Splits b start (as ++ as') stop := by
  induction h with
  | nil => exact h'
  | cons h _ ih => exact .cons h (ih h')

/-- The same records end at the same place. -/
theorem stop_unique {stop' : Nat} (h : Splits b start as stop) (h' : Splits b start as stop') :
    stop = stop' := by
  induction h with
  | nil => cases h'; rfl
  | cons h _ ih =>
    cases h' with
    | cons h' behind =>
      obtain rfl := h.unique h'
      exact ih behind

/-- Records that stand one behind the other are read, and what is behind them is read next. -/
theorem parse_eq (h : Splits b start as stop) :
    parse (b.drop start) = as ++ parse (b.drop stop) := by
  induction h with
  | nil => rfl
  | cons h _ ih =>
    rw [parse_eq_cons (next?_drop_eq_some_iff.2 ⟨_, h, rfl⟩), ← drop_min_length, ih,
      List.cons_append]

theorem exists_standsAt (h : Splits b start as stop) (ha : a ∈ as) :
    ∃ start length, StandsAt b start length a := by
  induction h with
  | nil => cases ha
  | cons h _ ih =>
    rcases List.mem_cons.1 ha with rfl | ha
    · exact ⟨_, _, h⟩
    · exact ih ha

end Splits

/-- **Reading cuts a run into records,** from any place on, up to a place where no record can
begin. -/
theorem exists_splits (b : Bytes) (start : Nat) :
    ∃ stop, Splits b start (parse (b.drop start)) stop ∧ Ends (b.drop stop) := by
  -- Every record leaves fewer bytes behind it.
  induction hrest : b.drop start using parse.induct generalizing start with
  | case1 bs a rest hnext ih =>
    subst hrest
    obtain ⟨length, hstands, rfl⟩ := next?_drop_eq_some_iff.1 hnext
    obtain ⟨stop, hsplits, hends⟩ := ih (min (start + align length) b.length) (drop_min_length _)
    rw [parse_eq_cons hnext]
    exact ⟨stop, .cons hstands hsplits, hends⟩
  | case2 bs hnext =>
    subst hrest
    rw [parse_eq_nil hnext]
    exact ⟨start, .nil start, next?_eq_none_iff.1 hnext⟩

theorem exists_standsAt_of_mem (ha : a ∈ parse b) : ∃ start length, StandsAt b start length a := by
  obtain ⟨stop, hsplits, -⟩ := exists_splits b 0
  exact hsplits.exists_standsAt ha

/-! ### Payloads as runs -/

/-- A way down through payloads: each record is one of those in the payload of the one before. -/
inductive Path : Bytes → List Attribute → Prop
  /-- Nowhere. -/
  | nil (b : Bytes) : Path b []
  /-- Into the payload of a record. -/
  | cons {b : Bytes} {a : Attribute} {as : List Attribute} (h : a ∈ parse b)
      (deeper : Path a.payload as) : Path b (a :: as)

/-- **Payloads are not nested deeper than their bytes allow.** -/
theorem Path.length_le (h : Path b as) : 4 * as.length ≤ b.length := by
  induction h with
  | nil => exact Nat.zero_le _
  | cons h _ ih =>
    obtain ⟨start, length, hstands⟩ := exists_standsAt_of_mem h
    have hpayload := hstands.length_payload
    have hlength := hstands.length_le
    rw [List.length_cons]
    omega

/-! ### Runs that are written -/

/-- The kind as it is written, with the flag that announces nested records. -/
def wireKind (a : Attribute) : UInt16 := if a.nested then a.kind ||| nestedFlag else a.kind

/-- One record as bytes, with the padding behind it. -/
def encode (a : Attribute) : Bytes := Request.encodeAttribute a.wireKind a.payload

/-- Records as bytes, one behind the other. -/
def encodeAll (as : List Attribute) : Bytes := as.flatMap encode

/-- A record that can be written: its kind has fourteen bits, and its length has sixteen. -/
structure Writable (a : Attribute) : Prop where
  kind_lt : a.kind < 0x4000
  length_le : a.payload.length ≤ 65531

instance (a : Attribute) : Decidable a.Writable :=
  decidable_of_iff (a.kind < 0x4000 ∧ a.payload.length ≤ 65531)
    ⟨fun h => ⟨h.1, h.2⟩, fun h => ⟨h.kind_lt, h.length_le⟩⟩

/-- A record is split off the run that it begins. -/
theorem next?_encode_append (h : a.Writable) (rest : Bytes) :
    next? (a.encode ++ rest) = some (a, rest) := by
  have hlength : 4 + a.payload.length ≤ 65535 := by
    have := h.length_le
    omega
  rw [encode, next?_encodeAttribute_append hlength]
  obtain ⟨kind, nested, payload⟩ := a
  cases nested with
  | false => simp [wireKind, and_kindMask h.kind_lt, and_nestedFlag h.kind_lt]
  | true => simp [wireKind, or_nestedFlag_and_kindMask h.kind_lt, or_nestedFlag_and_nestedFlag]

/-- **A run that was written is read back,** whatever stands behind it that no record can begin
with. -/
theorem parse_encodeAll_append {suffix : Bytes} (has : ∀ a ∈ as, a.Writable) (h : Ends suffix) :
    parse (encodeAll as ++ suffix) = as := by
  induction as with
  | nil => exact parse_eq_nil (next?_eq_none_iff.2 h)
  | cons a as ih =>
    obtain ⟨ha, has⟩ := List.forall_mem_cons.1 has
    have hnext : next? (encodeAll (a :: as) ++ suffix) = some (a, encodeAll as ++ suffix) := by
      rw [encodeAll, List.flatMap_cons, List.append_assoc]
      exact next?_encode_append ha _
    rw [parse_eq_cons hnext, ih has]

/-! ### Records of a kind -/

/-- A record is the first one of a kind. -/
def First (kind : UInt16) (as : List Attribute) (a : Attribute) : Prop :=
  ∃ front back, as = front ++ a :: back ∧ a.kind = kind ∧ ∀ x ∈ front, x.kind ≠ kind

theorem lookup_eq_some_iff {kind : UInt16} : lookup kind as = some a ↔ First kind as a := by
  rw [lookup, List.find?_eq_some_iff_append]
  constructor
  · rintro ⟨hkind, front, back, rfl, hfront⟩
    exact ⟨front, back, rfl, by simpa using hkind, fun x hx => by simpa using hfront x hx⟩
  · rintro ⟨front, back, rfl, hkind, hfront⟩
    exact ⟨by simpa using hkind, front, back, rfl, fun x hx => by simpa using hfront x hx⟩

theorem lookup_eq_none_iff {kind : UInt16} :
    lookup kind as = none ↔ ∀ a ∈ as, a.kind ≠ kind := by
  simp [lookup]

/-- **Any bytes are read as the records that they begin with.** They are the records of the longest
beginning that can be cut into records: behind them no record can begin, and whoever cuts the bytes
otherwise has found some of them, from the first one on. Each payload stands inside the bytes and is
shorter than its record, and payloads are nested at most a quarter as deep as the bytes are many.

Records that were written are read back, whatever stands behind them that no record can begin with,
and looking a kind up finds the first record of that kind, or nothing when there is none. -/
theorem parse_exact (b : Bytes) :
    (∃ stop, Splits b 0 (parse b) stop ∧ Ends (b.drop stop) ∧
      ∀ as stop', Splits b 0 as stop' → as <+: parse b ∧ stop' ≤ stop) ∧
    (∀ a ∈ parse b, ∃ start length, StandsAt b start length a ∧ a.payload.length < length) ∧
    (∀ as, Path b as → 4 * as.length ≤ b.length) ∧
    ∀ as suffix, (∀ a ∈ as, a.Writable) → Ends suffix → b = encodeAll as ++ suffix →
      parse b = as ∧ ∀ kind, (∀ a, lookup kind (parse b) = some a ↔ First kind as a) ∧
        (lookup kind (parse b) = none ↔ ∀ a ∈ as, a.kind ≠ kind) := by
  refine ⟨?_, fun a ha => ?_, fun as hpath => hpath.length_le, fun as suffix has hends hb => ?_⟩
  · obtain ⟨stop, hsplits, hends⟩ := exists_splits b 0
    rw [List.drop_zero] at hsplits
    refine ⟨stop, hsplits, hends, fun as stop' h => ?_⟩
    have hparse := h.parse_eq
    rw [List.drop_zero] at hparse
    -- the other way to cut goes on to the same end
    obtain ⟨last, hbehind, -⟩ := exists_splits b stop'
    have hwhole := h.append hbehind
    rw [← hparse] at hwhole
    exact ⟨hparse ▸ List.prefix_append .., hsplits.stop_unique hwhole ▸ hbehind.start_le⟩
  · obtain ⟨start, length, hstands⟩ := exists_standsAt_of_mem ha
    have hpayload := hstands.length_payload
    exact ⟨start, length, hstands, by omega⟩
  · have hparse : parse b = as := hb ▸ parse_encodeAll_append has hends
    rw [hparse]
    exact ⟨rfl, fun kind => ⟨fun a => lookup_eq_some_iff, lookup_eq_none_iff⟩⟩

end Attribute

end WirelessControl
