import Mathlib.Data.List.Nodup
import WirelessControl.Engine.Journal
import WirelessControl.Proofs.Run

/-!
# The numbers of requests

An engine numbers its requests by a counter of 32 bits, which it counts on for each of them. Zero is
no number: when the counter has come round to it, its value is fetched in vain, and the next one is
taken. So all numbers stand in one circle, which zero is not on, and each request goes one place
further. A number comes back when all others were used, and not before, wherever the counter began.

What becomes of a request does not matter. It takes its number first; then the channel may be
closed, the request may not fit, or the channel may not take it, and the number is gone all the
same. A request that is written carries its number. Only cleanup comes before all this: from then on
no number is taken.

## Main definitions

* `Engine.fetch`, `Engine.Fetches` — one value of the counter, and values up to the first number
* `Engine.place`, `Engine.numberAt` — where an engine stands in the circle, and what stands there
* `Session.Draws` — the numbers that are taken while a session goes on

## Main results

* `Engine.fetches_iff` — how many values are fetched, and what comes of it
* `Engine.place_nextSequence` — each number is one place behind the last
* `Session.Draws.eq_numbersFrom` — the numbers that are taken follow one another in the circle
* `Session.Draws.carried` — what is written carries some of them, in order
-/

namespace WirelessControl

namespace Engine

/-! ### Up to the first number -/

/-- The value of the counter, and the engine when it has counted on. Behind the highest value comes
zero. -/
def fetch (e : Engine) : UInt32 × Engine := (e.sequence, { e with sequence := e.sequence + 1 })

/-- Values are fetched up to the first that is not zero: how many they are, and what the last one
was, with the engine then. -/
inductive Fetches : Engine → Nat → UInt32 × Engine → Prop
  /-- The value is a number. -/
  | number {e : Engine} (h : e.fetch.1 ≠ 0) : Fetches e 1 e.fetch
  /-- The value is zero, and others are fetched. -/
  | zero {e : Engine} {count : Nat} {r : UInt32 × Engine} (h : e.fetch.1 = 0)
      (hrest : Fetches e.fetch.2 count r) : Fetches e (count + 1) r

variable {e e' : Engine}

theorem nextSequence_of_ne_zero (h : e.sequence ≠ 0) : e.nextSequence = e.fetch := by
  rw [nextSequence, if_neg h, fetch]

theorem nextSequence_of_zero (h : e.sequence = 0) : e.nextSequence = e.fetch.2.fetch := by
  rw [nextSequence, if_pos h]
  simp only [fetch, h]
  rfl

/-- The value behind zero is a number. -/
theorem sequence_fetch_ne_zero (h : e.sequence = 0) : e.fetch.2.sequence ≠ 0 := by
  simp only [fetch, h]
  decide

/-- **The first number is fetched at once, or behind one zero**, and it is the number of the next
request. -/
theorem fetches_iff {count : Nat} {r : UInt32 × Engine} :
    e.Fetches count r ↔ r = e.nextSequence ∧ count = if e.sequence = 0 then 2 else 1 := by
  constructor
  · intro h
    induction h with
    | @number e h => exact ⟨(nextSequence_of_ne_zero h).symm, (if_neg h).symm⟩
    | @zero e count r h hrest ih =>
      have hbehind : e.fetch.2.sequence ≠ 0 := sequence_fetch_ne_zero h
      rw [nextSequence_of_ne_zero hbehind, if_neg hbehind] at ih
      obtain ⟨rfl, rfl⟩ := ih
      exact ⟨(nextSequence_of_zero h).symm, (if_pos h).symm⟩
  · rintro ⟨rfl, rfl⟩
    by_cases h : e.sequence = 0
    · rw [nextSequence_of_zero h, if_pos h]
      exact .zero h (.number (sequence_fetch_ne_zero h))
    · rw [nextSequence_of_ne_zero h, if_neg h]
      exact .number h

/-! ### The circle of numbers -/

/-- How many numbers there are: all of 32 bits but zero. -/
def numberCount : Nat := UInt32.size - 1

/-- The place of the next number in the circle. One is at the place zero. -/
def place (e : Engine) : Nat := e.nextSequence.1.toNat - 1

/-- The number at a place. Places come round. -/
def numberAt (i : Nat) : UInt32 := UInt32.ofNat (i % numberCount + 1)

/-- Numbers one behind the other, from a place on. -/
def numbersFrom (first count : Nat) : List UInt32 :=
  (List.range count).map fun i => numberAt (first + i)

theorem toNat_numberAt (i : Nat) : (numberAt i).toNat = i % numberCount + 1 := by
  have hlt : i % numberCount < numberCount := Nat.mod_lt i (by decide)
  refine UInt32.toNat_ofNat_of_lt' ?_
  simp only [numberCount, UInt32.size] at hlt ⊢
  omega

theorem numberAt_ne_zero (i : Nat) : numberAt i ≠ 0 := by
  intro h
  have hzero := congrArg UInt32.toNat h
  rw [toNat_numberAt, UInt32.toNat_zero] at hzero
  omega

/-- **A number comes back when all others were used**, and not before. -/
theorem numberAt_eq_iff {i j : Nat} :
    numberAt i = numberAt j ↔ i % numberCount = j % numberCount := by
  rw [← UInt32.toNat_inj, toNat_numberAt, toNat_numberAt, Nat.add_right_cancel_iff]

theorem nextSequence_ne_zero (e : Engine) : e.nextSequence.1 ≠ 0 := by
  by_cases h : e.sequence = 0
  · rw [nextSequence_of_zero h]
    exact sequence_fetch_ne_zero h
  · rw [nextSequence_of_ne_zero h]
    exact h

/-- The place counts from the number one on. -/
theorem place_add_one (e : Engine) : e.place + 1 = e.nextSequence.1.toNat := by
  have hpos : e.nextSequence.1.toNat ≠ 0 := fun h =>
    e.nextSequence_ne_zero (UInt32.toNat_inj.1 (h.trans UInt32.toNat_zero.symm))
  rw [place]
  omega

theorem place_lt (e : Engine) : e.place < numberCount := by
  have hlt := e.nextSequence.1.toNat_lt
  have hplace := e.place_add_one
  simp only [numberCount, UInt32.size]
  omega

/-- The next number is the one at the engine's place. -/
theorem nextSequence_fst (e : Engine) : e.nextSequence.1 = numberAt e.place := by
  rw [← UInt32.toNat_inj, toNat_numberAt, Nat.mod_eq_of_lt e.place_lt, place_add_one]

/-- The counter alone decides the place. -/
theorem place_congr (h : e'.sequence = e.sequence) : e'.place = e.place := by
  have hnext : e'.nextSequence.1 = e.nextSequence.1 := by
    simp only [nextSequence, h]
    split <;> rfl
  rw [place, place, hnext]

/-- **Each number is one place behind the last**, where the circle closes too. -/
theorem place_nextSequence (e : Engine) :
    e.nextSequence.2.place = (e.place + 1) % numberCount := by
  have hcounted : e.nextSequence.2.sequence = e.nextSequence.1 + 1 := by
    by_cases h : e.sequence = 0
    · rw [nextSequence_of_zero h]
      rfl
    · rw [nextSequence_of_ne_zero h]
      rfl
  have hafter := e.nextSequence.2.place_add_one
  have hvalue := congrArg UInt32.toNat hcounted
  rw [UInt32.toNat_add, UInt32.toNat_one, ← place_add_one] at hvalue
  have hlt := e.place_lt
  simp only [numberCount, UInt32.size] at hlt ⊢
  by_cases h : e.nextSequence.2.sequence = 0
  · -- the counter has come round: the last number was the highest one
    rw [nextSequence_of_zero h] at hafter
    rw [h, UInt32.toNat_zero] at hvalue
    have hone : e.nextSequence.2.fetch.2.fetch.1.toNat = 1 := by
      simp only [fetch, h]
      rfl
    omega
  · rw [nextSequence_of_ne_zero h] at hafter
    have hne : e.nextSequence.2.sequence.toNat ≠ 0 := fun h' =>
      h (UInt32.toNat_inj.1 (h'.trans UInt32.toNat_zero.symm))
    have hsame : e.nextSequence.2.fetch.1.toNat = e.nextSequence.2.sequence.toNat := rfl
    omega

/-! ### Numbers one behind the other -/

theorem numbersFrom_succ (first count : Nat) :
    numbersFrom first (count + 1) = numbersFrom first count ++ [numberAt (first + count)] := by
  rw [numbersFrom, List.range_succ, List.map_append, numbersFrom]
  rfl

@[simp] theorem length_numbersFrom (first count : Nat) :
    (numbersFrom first count).length = count := by
  simp [numbersFrom]

theorem zero_notMem_numbersFrom (first count : Nat) : 0 ∉ numbersFrom first count := by
  intro h
  obtain ⟨i, -, hi⟩ := List.mem_map.1 h
  exact numberAt_ne_zero _ hi

theorem drop_numbersFrom (first count start : Nat) :
    (numbersFrom first count).drop start = numbersFrom (first + start) (count - start) := by
  refine List.ext_getElem (by simp) fun i _ _ => ?_
  simp only [numbersFrom, List.getElem_drop, List.getElem_map, List.getElem_range, Nat.add_assoc]

theorem take_numbersFrom (first count size : Nat) :
    (numbersFrom first count).take size = numbersFrom first (min size count) := by
  rw [numbersFrom, ← List.map_take, List.take_range, numbersFrom]

/-- Neighbours are different numbers, as long as there are no more of them than numbers. -/
theorem nodup_numbersFrom {count : Nat} (h : count ≤ numberCount) (first : Nat) :
    (numbersFrom first count).Nodup := by
  refine List.Nodup.map_on (fun i hi j hj hij => ?_) List.nodup_range
  rw [numberAt_eq_iff] at hij
  simp only [List.mem_range, numberCount, UInt32.size] at hi hj hij h
  omega

/-- The same of neighbours anywhere in a longer list. -/
theorem nodup_take_drop_numbersFrom (first count start : Nat) :
    (((numbersFrom first count).drop start).take numberCount).Nodup := by
  rw [drop_numbersFrom, take_numbersFrom]
  exact nodup_numbersFrom (Nat.min_le_left ..) _

end Engine

/-! ### Numbers of requests -/

/-- The number in the header of a message. -/
def Header.seq? (bytes : Bytes) : Option UInt32 := (Header.parse? bytes).map (·.seq)

/-- A request that is finished carries its number. -/
theorem Header.seq?_of_finish {r : Request} {seq port : UInt32} {bytes : Bytes}
    (h : r.finish seq port = .ok bytes) : Header.seq? bytes = some seq := by
  obtain ⟨-, -, rfl⟩ := Request.finish_eq_ok_iff.1 h
  rw [Header.seq?, Header.parse?_encode_append]
  rfl

namespace Session

/-- No number is taken and nothing is written. -/
structure Idle (s s' : Session) : Prop where
  /-- The counter is where it was. -/
  sequence : s'.engine.sequence = s.engine.sequence
  /-- The requests that were written are the same. -/
  written : written s'.history = written s.history

/-- The numbers that are taken while a session goes on: one for each request that is made before
cleanup has begun, whatever becomes of it. -/
inductive Draws (s : Session) : List UInt32 → Session → Prop
  /-- Nothing has happened. -/
  | nothing : Draws s [] s
  /-- Something else happens. -/
  | idle {t u : Session} {ns : List UInt32} (h : Draws s ns t) (hidle : t.Idle u) : Draws s ns u
  /-- A request is made. -/
  | request {t : Session} {ns : List UInt32} (h : Draws s ns t)
      (haccepting : t.engine.shuttingDown = false) (label : String) (author : Option CommandRef)
      (r : Request) :
      Draws s (ns ++ [t.engine.nextSequence.1]) (t.transact label author r).2

theorem written_append (later earlier : List Occurrence) :
    written (later ++ earlier) = written later ++ written earlier := List.filterMap_append ..

theorem Idle.of_eq {s s' : Session} (hengine : s'.engine = s.engine)
    (hwritten : Session.written s'.history = Session.written s.history) : s.Idle s' :=
  ⟨congrArg Engine.sequence hengine, hwritten⟩

theorem Idle.trans {s t u : Session} (h : s.Idle t) (h' : t.Idle u) : s.Idle u :=
  ⟨h'.sequence.trans h.sequence, h'.written.trans h.written⟩

/-- **A request takes one number**, and carries it if it is written. -/
theorem transact_numbered {s : Session} (haccepting : s.engine.shuttingDown = false)
    (label : String) (author : Option CommandRef) (r : Request) :
    (s.transact label author r).2.engine.sequence = s.engine.nextSequence.2.sequence ∧
      (written (s.transact label author r).2.history = written s.history ∨ ∃ bytes,
        written (s.transact label author r).2.history = bytes :: written s.history ∧
          Header.seq? bytes = some s.engine.nextSequence.1) := by
  generalize ht : s.transact label author r = t
  rw [transact_eq, haccepting] at ht
  simp only [Bool.false_eq_true, if_false] at ht
  split at ht
  · subst ht
    exact ⟨rfl, .inl rfl⟩
  · rw [transmit] at ht
    split at ht
    · subst ht
      exact ⟨rfl, .inl rfl⟩
    · next bytes hfinish =>
      split at ht
      · subst ht
        exact ⟨rfl, .inl rfl⟩
      · subst ht
        exact ⟨rfl, .inr ⟨bytes, rfl, Header.seq?_of_finish hfinish⟩⟩

/-- A session that refuses work makes no request. -/
theorem transact_of_shuttingDown {s : Session} (hrefusing : s.engine.shuttingDown = true)
    (label : String) (author : Option CommandRef) (r : Request) :
    (s.transact label author r).2 = s := by
  rw [transact_eq, hrefusing]
  rfl

theorem exists_draws_transact (s : Session) (label : String) (author : Option CommandRef)
    (r : Request) : ∃ ns, s.Draws ns (s.transact label author r).2 := by
  cases hshutting : s.engine.shuttingDown with
  | true => exact ⟨[], (transact_of_shuttingDown hshutting label author r).symm ▸ .nothing⟩
  | false => exact ⟨_, .request .nothing hshutting label author r⟩

/-- The exchange of a command takes a number, and what is done to the command takes none. -/
theorem exists_draws_concluded {s : Session} {r : Request} {bytes : Bytes} {sent : Link}
    (h : s.Transmits r bytes sent) (label : String) (c : CommandRef) (reply : Option Message) :
    ∃ ns, s.Draws ns (s.concluded c bytes (s.answered r sent).1 (s.readAfter label r sent).2 reply
      .awaitingResponse) := by
  let moved := s.withState c .sent
  have hsends : moved.Transmits r bytes sent := ⟨h.accepting, h.opened, h.finished, h.sends⟩
  have hasked : (moved.transact label (some c) r).2 =
      moved.wrote (some c) bytes (s.answered r sent).1 (s.readAfter label r sent).2 :=
    congrArg Prod.snd (transact_of_transmits hsends label (some c))
  have htold (t : Session) : t.Idle (t.told c reply) := by
    cases reply with
    | none => exact ⟨rfl, rfl⟩
    | some m => exact ⟨rfl, rfl⟩
  have hmoved : s.Draws [] moved := .idle .nothing ⟨rfl, rfl⟩
  rw [← told_wrote, ← hasked]
  exact ⟨_, .idle (.request hmoved hsends.accepting label (some c) r) (htold _)⟩

theorem Idle.exists_draws {s s' : Session} (h : s.Idle s') : ∃ ns, s.Draws ns s' :=
  ⟨[], .idle .nothing h⟩

namespace Draws

variable {s t u : Session} {ns ms : List UInt32}

theorem trans (h : s.Draws ns t) (h' : t.Draws ms u) : s.Draws (ns ++ ms) u := by
  induction h' with
  | nothing => exact (List.append_nil ns).symm ▸ h
  | idle _ hidle ih => exact .idle ih hidle
  | @request v ks _ haccepting label author r ih =>
    have hall : s.Draws ((ns ++ ks) ++ [v.engine.nextSequence.1]) _ :=
      .request ih haccepting label author r
    rwa [List.append_assoc] at hall

/-- Each number that is taken leads one place further. -/
theorem place (h : s.Draws ns t) :
    t.engine.place = (s.engine.place + ns.length) % Engine.numberCount := by
  induction h with
  | nothing => exact (Nat.mod_eq_of_lt s.engine.place_lt).symm
  | idle _ hidle ih => rw [Engine.place_congr hidle.sequence, ih]
  | request _ haccepting label author r ih =>
    rw [Engine.place_congr (transact_numbered haccepting label author r).1,
      Engine.place_nextSequence, ih, Nat.mod_add_mod, List.length_append, ← Nat.add_assoc]
    rfl

/-- **The numbers that are taken follow one another in the circle**, whatever became of the
requests. -/
theorem eq_numbersFrom (h : s.Draws ns t) :
    ns = Engine.numbersFrom s.engine.place ns.length := by
  induction h with
  | nothing => rfl
  | idle _ _ ih => exact ih
  | @request t ns h _ _ _ _ ih =>
    have hnext : t.engine.nextSequence.1 = Engine.numberAt (s.engine.place + ns.length) := by
      rw [Engine.nextSequence_fst, h.place, Engine.numberAt_eq_iff, Nat.mod_mod]
    rw [List.length_append, List.length_singleton, Engine.numbersFrom_succ, ← ih, hnext]

/-- **What is written carries some of the numbers that are taken, in order.** -/
theorem carried (h : s.Draws ns t) : ∃ (sent : List Bytes) (numbers : List UInt32),
    written t.history = sent ++ written s.history ∧
      sent.map Header.seq? = numbers.map some ∧ numbers.reverse.Sublist ns := by
  induction h with
  | nothing => exact ⟨[], [], rfl, rfl, .slnil⟩
  | idle _ hidle ih =>
    obtain ⟨sent, numbers, hsent, hcarried⟩ := ih
    exact ⟨sent, numbers, hidle.written.trans hsent, hcarried⟩
  | @request t ns _ haccepting label author r ih =>
    obtain ⟨sent, numbers, hsent, hnumbers, hsublist⟩ := ih
    rcases (transact_numbered haccepting label author r).2 with hnothing | ⟨bytes, hmore, hseq⟩
    · exact ⟨sent, numbers, hnothing.trans hsent, hnumbers, hsublist.trans
        (List.sublist_append_left ..)⟩
    · refine ⟨bytes :: sent, t.engine.nextSequence.1 :: numbers, ?_, ?_, ?_⟩
      · rw [hmore, hsent, List.cons_append]
      · rw [List.map_cons, hseq, hnumbers, List.map_cons]
      · rw [List.reverse_cons]
        exact hsublist.append_right _

end Draws

end Session

end WirelessControl
