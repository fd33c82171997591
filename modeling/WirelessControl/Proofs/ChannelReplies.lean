import WirelessControl.Proofs.Operations
import WirelessControl.Proofs.VendorRequests

/-!
# Usable channels are whole records of one list

A reply about usable channels is read attribute by attribute, and the driver may write any of them:
several counts, several lists, a list in front of its count, a list that ends within a record.
Reading keeps two things on the way, the last count and the channels found so far, and a list
replaces what was found before it. So whatever was written, the channels that are found stand in one
list, from its beginning on.

The records of a list are said without the reader: the record at an index is three words at fixed
places, and there are as many as fit into the list whole. Reading is compared with that.

## Main definitions

* `UsableChannel.recordAt`, `UsableChannel.records` — the records of a list, by their places
* `UsableChannel.lastCount` — the count that holds behind some attributes
* `UsableChannel.encodeList`, `UsableChannel.listing` — what a driver writes that lists channels

## Main results

* `Session.usableChannels_run_eq_ok_iff` — what the operation answers
* `UsableChannel.decodeList_eq_take` — reading a list
* `UsableChannel.collect_eq_found_or` — reading attributes
* `UsableChannel.channel_replies_exact` — what stands in a reply, whatever its bytes are
-/

namespace WirelessControl

/-- **What the operation answers:** the channels of the reply that the exchange was given, or none
when there was no reply. -/
theorem Session.usableChannels_run_eq_ok_iff {interface : UInt32} {q : ChannelQuery} {s t : Session}
    {cs : List UsableChannel} :
    (usableChannels interface q).run s = .ok (.ok cs) t ↔ q.isSupported = true ∧
      ∃ asked reply, (ask ChannelQuery.core (q.recipe interface)).run s = .ok asked t ∧
        asked.result = .ok reply ∧ cs = reply.elim [] (UsableChannel.ofReply q.maxCount) := by
  rw [usableChannels]
  cases hsupported : q.isSupported with
  | false =>
    rw [if_neg Bool.false_ne_true]
    refine iff_of_false (fun h => ?_) fun h => Bool.false_ne_true h.1
    cases h
  | true =>
    rw [if_pos rfl, and_iff_right rfl]
    constructor
    · intro h
      obtain ⟨asked, u, hasked, hread⟩ := exists_of_run_bind h
      cases hresult : asked.result with
      | error e =>
        rw [hresult] at hread
        cases hread
      | ok reply =>
        rw [hresult] at hread
        cases hread
        exact ⟨asked, reply, hasked, hresult, rfl⟩
    · rintro ⟨asked, reply, hasked, hresult, rfl⟩
      rw [askFor, run_bind_of_ok hasked, hresult]
      rfl

namespace UsableChannel

/-! ### The records of a list -/

/-- The word in four bytes, lowest first, at a place. -/
def wordAt (bs : Bytes) (place : Nat) : UInt32 :=
  UInt32.ofNat (Word.decode ((bs.drop place).take 4))

/-- The record at an index: three words behind each other. -/
def recordAt (bs : Bytes) (i : Nat) : UsableChannel :=
  ⟨wordAt bs (12 * i), wordAt bs (12 * i + 4), wordAt bs (12 * i + 8)⟩

/-- The records that are whole. -/
def records (bs : Bytes) : List UsableChannel :=
  (List.range (bs.length / 12)).map (recordAt bs)

@[simp] theorem length_records (bs : Bytes) : (records bs).length = bs.length / 12 := by
  simp [records]

theorem wordAt_drop (bs : Bytes) (n place : Nat) : wordAt (bs.drop n) place =
    wordAt bs (n + place) := by
  rw [wordAt, wordAt, List.drop_drop]

theorem recordAt_drop (bs : Bytes) (i : Nat) : recordAt (bs.drop 12) i = recordAt bs (i + 1) := by
  have hplace : 12 * (i + 1) = 12 + 12 * i := by omega
  simp only [recordAt, wordAt_drop, hplace, Nat.add_assoc]

theorem records_eq_nil {bs : Bytes} (h : bs.length < 12) : records bs = [] := by
  rw [records, Nat.div_eq_of_lt h]
  rfl

/-- The first record, and those behind it. -/
theorem records_eq_cons {bs : Bytes} (h : 12 ≤ bs.length) :
    records bs = recordAt bs 0 :: records (bs.drop 12) := by
  have hcount : bs.length / 12 = (bs.drop 12).length / 12 + 1 := by
    rw [List.length_drop]
    omega
  rw [records, hcount, List.range_succ_eq_map, List.map_cons, List.map_map, records]
  congr 2
  funext i
  exact (recordAt_drop bs i).symm

theorem recordAt_of_records {bs : Bytes} {i : Nat} {c : UsableChannel}
    (h : (records bs)[i]? = some c) : 12 * (i + 1) ≤ bs.length ∧ c = recordAt bs i := by
  obtain ⟨hi, rfl⟩ := List.getElem?_eq_some_iff.1 h
  rw [length_records] at hi
  refine ⟨by omega, ?_⟩
  simp [records]

theorem u32?_drop_take {bs : Bytes} (h : 12 ≤ bs.length) {place : Nat} (hplace : place ≤ 8) :
    Word.u32? ((bs.take 12).drop place) = some (wordAt bs place) := by
  have hlength : 4 ≤ ((bs.take 12).drop place).length := by
    rw [List.length_drop, List.length_take]
    omega
  have htake : ((bs.take 12).drop place).take 4 = (bs.drop place).take 4 := by
    rw [List.drop_take, List.take_take, Nat.min_eq_left (by omega)]
  rw [Word.u32?, Word.read?, if_pos (hasBytes_iff.2 hlength), htake]
  rfl

theorem decode?_take {bs : Bytes} (h : 12 ≤ bs.length) :
    decode? (bs.take 12) = some (recordAt bs 0) := by
  have hfirst := u32?_drop_take h (Nat.zero_le 8)
  rw [List.drop_zero] at hfirst
  rw [decode?, hfirst, u32?_drop_take h (by decide), u32?_drop_take h (Nat.le_refl 8)]
  rfl

/-- **Reading a list** finds its whole records, up to the number that is asked for. -/
theorem decodeList_eq_take (n : Nat) (bs : Bytes) : decodeList n bs = (records bs).take n := by
  induction n generalizing bs with
  | zero => rfl
  | succ n ih =>
    rw [decodeList, recordLength]
    by_cases h : 12 ≤ bs.length
    · rw [hasBytes_iff.2 h, decode?_take h, records_eq_cons h, List.take_succ_cons, ih]
      rfl
    · have hshort : hasBytes 12 bs = false := eq_false_of_ne_true (mt hasBytes_iff.1 h)
      rw [hshort, records_eq_nil (Nat.lt_of_not_le h)]
      rfl

/-! ### Reading attributes -/

/-- The count that holds behind some attributes: the last one that was announced. -/
def lastCount (maxCount : UInt32) (attrs : List Attribute) : Nat :=
  (attrs.filter (·.kind = countKind)).getLast?.elim 0 (announced maxCount)

theorem lastCount_le (maxCount : UInt32) (attrs : List Attribute) :
    lastCount maxCount attrs ≤ maxCount.toNat := by
  rw [lastCount]
  cases (attrs.filter (·.kind = countKind)).getLast? with
  | none => exact Nat.zero_le _
  | some a => exact Nat.min_le_right _ _

theorem lastCount_append_of_count (maxCount : UInt32) (attrs : List Attribute) {a : Attribute}
    (h : a.kind = countKind) : lastCount maxCount (attrs ++ [a]) = announced maxCount a := by
  simp [lastCount, h]

theorem lastCount_append_of_ne (maxCount : UInt32) (attrs : List Attribute) {a : Attribute}
    (h : a.kind ≠ countKind) : lastCount maxCount (attrs ++ [a]) = lastCount maxCount attrs := by
  simp [lastCount, h]

/-- **Reading attributes** leaves what was found before, or finds the front of one list: as many of
its records as the last count before it announces. -/
theorem collect_eq_found_or (maxCount : UInt32) (seen : List Attribute)
    (found : List UsableChannel) (attrs : List Attribute) :
    collect maxCount (lastCount maxCount seen) found attrs = found ∨
      ∃ before a behind, attrs = before ++ a :: behind ∧ a.kind = listKind ∧
        collect maxCount (lastCount maxCount seen) found attrs =
          (records a.payload).take (lastCount maxCount (seen ++ before)) := by
  induction attrs generalizing seen found with
  | nil => exact .inl rfl
  | cons a attrs ih =>
    -- what is found behind `a` is found in the whole run
    have hlater {result found' : List UsableChannel} (h : result = found' ∨
        ∃ before b behind, attrs = before ++ b :: behind ∧ b.kind = listKind ∧
          result = (records b.payload).take (lastCount maxCount (seen ++ [a] ++ before))) :
        result = found' ∨ ∃ before b behind, a :: attrs = before ++ b :: behind ∧
          b.kind = listKind ∧
          result = (records b.payload).take (lastCount maxCount (seen ++ before)) := by
      refine h.imp_right ?_
      rintro ⟨before, b, behind, rfl, hb, hresult⟩
      exact ⟨a :: before, b, behind, rfl, hb, by rw [hresult, List.append_assoc]; rfl⟩
    by_cases hcount : a.kind = countKind
    · rw [collect, if_pos hcount, ← lastCount_append_of_count maxCount seen hcount]
      exact hlater (ih (seen ++ [a]) found)
    · rw [collect, if_neg hcount, ← lastCount_append_of_ne maxCount seen hcount]
      split
      · next hlist =>
        rcases hlater (ih (seen ++ [a]) _) with hkept | hreplaced
        · refine .inr ⟨[], a, attrs, rfl, hlist.1, ?_⟩
          rw [hkept, decodeList_eq_take, lastCount_append_of_ne maxCount seen hcount,
            List.append_nil]
        · exact .inr hreplaced
      · exact hlater (ih (seen ++ [a]) found)

/-- A reply lists nothing, or the front of one of its lists, cut to the last count in front of it.
-/
theorem ofReply_eq_nil_or (maxCount : UInt32) (m : Message) :
    ofReply maxCount m = [] ∨ ∃ before a behind,
      m.vendorAttributes = before ++ a :: behind ∧ a.kind = listKind ∧
        ofReply maxCount m = (records a.payload).take (lastCount maxCount before) := by
  rw [ofReply]
  split
  · exact collect_eq_found_or maxCount [] [] m.vendorAttributes
  · exact .inl rfl

/-- A reply lists no more channels than the caller accepts. -/
theorem length_ofReply_le (maxCount : UInt32) (m : Message) :
    (ofReply maxCount m).length ≤ maxCount.toNat := by
  rcases ofReply_eq_nil_or maxCount m with hnone | ⟨before, a, behind, -, -, hfront⟩
  · simp [hnone]
  · rw [hfront, List.length_take]
    exact Nat.le_trans (Nat.min_le_left _ _) (lastCount_le maxCount before)

/-! ### What a driver writes -/

/-- A record as a driver writes it. -/
def encode (c : UsableChannel) : Bytes :=
  Word.ofU32 c.frequency ++ (Word.ofU32 c.width ++ Word.ofU32 c.modes)

/-- Records behind each other. -/
def encodeList (cs : List UsableChannel) : Bytes := cs.flatMap encode

/-- The vendor data of a driver that announces a number of channels and then lists some. -/
def listing (count : UInt32) (list : Bytes) : List Put :=
  [.u32 countKind count, .bytes listKind list]

@[simp] theorem length_encode (c : UsableChannel) : c.encode.length = 12 := by
  simp [encode]

theorem wordAt_of_append {bs rest : Bytes} {word : UInt32} {place : Nat} (front : Bytes)
    (h : bs = front ++ (Word.ofU32 word ++ rest)) (hplace : front.length = place) :
    wordAt bs place = word := by
  have hmod : word.toNat % Word.count 4 = word.toNat := Nat.mod_eq_of_lt word.toNat_lt
  rw [wordAt, h, List.drop_left' hplace, List.take_left' (Word.length_ofU32 word), Word.ofU32,
    Word.decode_encode, hmod, UInt32.ofNat_toNat]

theorem recordAt_encode_append (c : UsableChannel) (rest : Bytes) :
    recordAt (c.encode ++ rest) 0 = c := by
  have hfrequency : wordAt (c.encode ++ rest) (12 * 0) = c.frequency :=
    wordAt_of_append [] (by simp [encode]; rfl) rfl
  have hwidth : wordAt (c.encode ++ rest) (12 * 0 + 4) = c.width :=
    wordAt_of_append (Word.ofU32 c.frequency) (by simp [encode]; rfl) (by simp)
  have hmodes : wordAt (c.encode ++ rest) (12 * 0 + 8) = c.modes :=
    wordAt_of_append (Word.ofU32 c.frequency ++ Word.ofU32 c.width)
      (by simp [encode]; rfl) (by simp)
  rw [recordAt, hfrequency, hwidth, hmodes]

/-- The bytes of a record say what it is, and nothing else does. -/
theorem encode_recordAt {bs : Bytes} {i : Nat} (h : 12 * (i + 1) ≤ bs.length) :
    (recordAt bs i).encode = (bs.drop (12 * i)).take 12 := by
  have hword {place : Nat} (hplace : place + 4 ≤ bs.length) :
      Word.ofU32 (wordAt bs place) = (bs.drop place).take 4 := by
    have hlength : ((bs.drop place).take 4).length = 4 := by
      rw [List.length_take, List.length_drop]
      omega
    have hlt : Word.decode ((bs.drop place).take 4) < UInt32.size := by
      have hdecode := Word.decode_lt ((bs.drop place).take 4)
      rw [hlength] at hdecode
      exact hdecode
    have hencode := Word.encode_decode ((bs.drop place).take 4)
    rw [hlength] at hencode
    rw [Word.ofU32, wordAt, UInt32.toNat_ofNat_of_lt' hlt, hencode]
  rw [encode, recordAt, hword (by omega), hword (by omega), hword (by omega)]
  generalize 12 * i = place
  calc (bs.drop place).take 4 ++ ((bs.drop (place + 4)).take 4 ++ (bs.drop (place + 8)).take 4)
    _ = (bs.drop place).take 4 ++ (bs.drop (place + 4)).take (4 + 4) := by
      rw [List.take_add, List.drop_drop]
    _ = (bs.drop place).take (4 + (4 + 4)) := by rw [← List.drop_drop, ← List.take_add]

/-- What a reply lists stands in one of its lists, byte for byte. -/
theorem ofReply_stands (maxCount : UInt32) (m : Message) :
    ofReply maxCount m = [] ∨ ∃ a ∈ m.vendorAttributes, a.kind = listKind ∧
      ofReply maxCount m <+: records a.payload ∧
      ∀ i c, (ofReply maxCount m)[i]? = some c →
        c.encode = (a.payload.drop (12 * i)).take 12 := by
  rcases ofReply_eq_nil_or maxCount m with hnone | ⟨before, a, behind, hattrs, hkind, hfront⟩
  · exact .inl hnone
  · have hprefix : ofReply maxCount m <+: records a.payload := hfront ▸ List.take_prefix _ _
    refine .inr ⟨a, by simp [hattrs], hkind, hprefix, fun i c hi => ?_⟩
    rw [hfront, List.getElem?_take] at hi
    split at hi
    · obtain ⟨hwhole, rfl⟩ := recordAt_of_records hi
      exact encode_recordAt hwhole
    · cases hi

/-- The records of a list are those that were written; what stands behind them is no record as long
as it is shorter than one. -/
theorem records_encodeList_append (cs : List UsableChannel) {tail : Bytes} (h : tail.length < 12) :
    records (encodeList cs ++ tail) = cs := by
  induction cs with
  | nil => exact records_eq_nil h
  | cons c cs ih =>
    have hbytes : encodeList (c :: cs) ++ tail = c.encode ++ (encodeList cs ++ tail) := by
      simp [encodeList]
    have hlong : 12 ≤ (c.encode ++ (encodeList cs ++ tail)).length := by
      rw [List.length_append, length_encode]
      exact Nat.le_add_right _ _
    rw [hbytes, records_eq_cons hlong, recordAt_encode_append, List.drop_left' (length_encode c),
      ih]

theorem isForest_listing (count : UInt32) (list : Bytes) : Put.IsForest (listing count list) := by
  simp [listing, countKind, listKind, Put.IsForest, Put.IsTree]

/-- A count and then a list are read as they were written: the list is cut to the count, and to what
the caller accepts. -/
theorem ofReply_of_readsAll {m : Message} (hcommand : m.command? = some Message.vendorCommand)
    {count : UInt32} {list : Bytes} (h : Put.ReadsAll (listing count list) m.vendorAttributes)
    (maxCount : UInt32) :
    ofReply maxCount m = (records list).take (min count.toNat maxCount.toNat) := by
  obtain ⟨first, behind, hattrs, ⟨rfl, hcount⟩, second, rest, rfl, rfl, rfl⟩ := h
  have hvendor : Vendor.isVendorReply m = true := by rw [Vendor.isVendorReply, hcommand]; rfl
  have hannounced : announced maxCount ⟨countKind, false, Word.ofU32 count⟩ =
      min count.toNat maxCount.toNat := by
    rw [announced, hcount]
    rfl
  have hkind : listKind ≠ countKind := by decide
  rw [ofReply, if_pos hvendor, hattrs, collect, if_pos rfl, hannounced, collect, if_neg hkind]
  simp only [collect, decodeList_eq_take, true_and]
  split
  · rfl
  · next hzero => rw [Nat.eq_zero_of_not_pos hzero, List.take_zero]

/-- The same of the bytes of a count and a list that is no longer than an attribute can be. -/
theorem ofReply_of_vendorData {m : Message} (hcommand : m.command? = some Message.vendorCommand)
    {count : UInt32} {list : Bytes} (hlength : list.length ≤ 65531)
    (hdata : m.vendorData? = some (Put.encodeAll (listing count list))) (maxCount : UInt32) :
    ofReply maxCount m = (records list).take (min count.toNat maxCount.toNat) := by
  have hfits : Put.FitsAll (listing count list) :=
    ⟨trivial, by simp only [Put.Fits]; omega, trivial⟩
  have hreads := Put.readsAll_encodeAll _ (isForest_listing count list) hfits
  have hattrs : m.vendorAttributes = Attribute.parse (Put.encodeAll (listing count list)) := by
    rw [Message.vendorAttributes, hdata]
    rfl
  rw [← hattrs] at hreads
  exact ofReply_of_readsAll hcommand hreads maxCount

/-- **Usable channels are whole records of one list.** Whatever a reply is, it lists no more
channels than the caller accepts, and what it lists is the front of the records of one of its lists:
the channel at an index has the twelve bytes of the record at that index. A driver that announces a
number of channels and lists some gets them through: the first so many of them, up to what the
caller accepts, or all of them when there are fewer. Bytes behind them that are no whole record
change nothing. This holds of every message that has the vendor data, and of the datagram that a
driver builds from it. The operation answers with what the reply of its exchange lists, or with no
channels when the exchange succeeded without a reply. -/
theorem channel_replies_exact (maxCount : UInt32) :
    (∀ m : Message, (ofReply maxCount m).length ≤ maxCount.toNat ∧
      (ofReply maxCount m = [] ∨ ∃ a ∈ m.vendorAttributes, a.kind = listKind ∧
        ofReply maxCount m <+: records a.payload ∧
        ∀ i c, (ofReply maxCount m)[i]? = some c →
          c.encode = (a.payload.drop (12 * i)).take 12)) ∧
    (∀ (count : UInt32) (cs : List UsableChannel) (tail : Bytes), tail.length < 12 →
      (∀ m : Message, m.command? = some Message.vendorCommand →
        (encodeList cs ++ tail).length ≤ 65531 →
        m.vendorData? = some (Put.encodeAll (listing count (encodeList cs ++ tail))) →
        ofReply maxCount m = cs.take (min count.toNat maxCount.toNat)) ∧
      ∀ (interface subcommand : UInt32) (ctx : EncodeContext) (family : UInt16) (r : Request)
        (seq port : UInt32) (bytes : Bytes),
        let v : VendorRequest :=
          ⟨interface, subcommand, listing count (encodeList cs ++ tail), none⟩
        ctx.family = some family → 0x10 ≤ family → v.recipe.encode ctx = .ok r →
        r.finish seq port = .ok bytes →
        ∃ m, Message.parse bytes = .ok (m, []) ∧
          ofReply maxCount m = cs.take (min count.toNat maxCount.toNat)) ∧
    ∀ (interface : UInt32) (q : ChannelQuery) (s t : Session) (cs : List UsableChannel),
      q.maxCount = maxCount →
      ((Session.usableChannels interface q).run s = .ok (.ok cs) t ↔ q.isSupported = true ∧
        ∃ asked reply, (Session.ask ChannelQuery.core (q.recipe interface)).run s = .ok asked t ∧
          asked.result = .ok reply ∧ cs = reply.elim [] (ofReply maxCount)) := by
  refine ⟨fun m => ⟨length_ofReply_le maxCount m, ofReply_stands maxCount m⟩,
    fun count cs tail htail => ?_, fun interface q s t cs hmax => ?_⟩
  · have hrecords := records_encodeList_append cs htail
    constructor
    · intro m hcommand hlength hdata
      rw [ofReply_of_vendorData hcommand hlength hdata, hrecords]
    · intro interface subcommand ctx family r seq port bytes v hfamily hreal hencode hfinish
      obtain ⟨m, hparse, hcarries⟩ := VendorRequest.carries_of_finish hfamily hreal
        (isForest_listing _ _) hencode hfinish
      refine ⟨m, hparse, ?_⟩
      rw [ofReply_of_readsAll hcarries.command hcarries.data, hrecords]
  · rw [← hmax]
    exact Session.usableChannels_run_eq_ok_iff

/-- Three channels are announced and written, with three bytes behind them, and a caller that
accepts two is given two, by the operation as well when the driver replies with these bytes. -/
theorem channel_replies_exact_cut :
    let cs : List UsableChannel := [⟨2412, 0, 3⟩, ⟨2437, 0, 3⟩, ⟨5180, 1, 2⟩]
    let tail : Bytes := [1, 2, 3]
    let v : VendorRequest := ⟨3, 0x101A, listing 3 (encodeList cs ++ tail), none⟩
    let r : Request := { Request.new 28 103 0 4096 with
      buffer := (Request.new 28 103 0 4096).buffer ++ Put.encodeAll v.attributes }
    let sent : Message := ⟨r.header 1 0, r.buffer.drop 16⟩
    let s : Session := { engine := .ofConfig {} (some 28) 7 8, responder :=
      ⟨[{ replies := [.raw (sent.header.encode ++ sent.body) [(8, 0)], .acknowledgement] }]⟩ }
    let q : ChannelQuery := ⟨1, 2, 0, 2⟩
    tail.length < 12 ∧ v.recipe.encode ⟨some 28, 4096⟩ = .ok r ∧
      r.finish 1 0 = .ok (sent.header.encode ++ sent.body) ∧
      (∃ m, Message.parse (sent.header.encode ++ sent.body) = .ok (m, []) ∧
        ofReply 2 m = [⟨2412, 0, 3⟩, ⟨2437, 0, 3⟩]) ∧
      sent.command? = some Message.vendorCommand ∧
      sent.vendorData? = some (Put.encodeAll (listing 3 (encodeList cs ++ tail))) ∧
      ofReply 2 sent = [⟨2412, 0, 3⟩, ⟨2437, 0, 3⟩] ∧
      ∃ asked t reply, (Session.ask ChannelQuery.core (q.recipe 3)).run s = .ok asked t ∧
        asked.result = .ok reply ∧ reply.elim [] (ofReply 2) = [⟨2412, 0, 3⟩, ⟨2437, 0, 3⟩] := by
  intro cs tail v r sent s q
  have htail : tail.length < 12 := by decide
  have hforest : Put.IsForest v.data := isForest_listing _ _
  have hlength : (Put.encodeAll v.attributes).length = 80 := by decide +kernel
  have hfits : Put.FitsAll v.attributes :=
    ⟨trivial, trivial, trivial,
      ⟨by decide +kernel, trivial, by simp only [Put.Fits]; decide, trivial⟩, trivial⟩
  have hencode : v.recipe.encode ⟨some 28, 4096⟩ = .ok r := by
    obtain ⟨r', hr'⟩ : ∃ r', v.recipe.encode ⟨some 28, 4096⟩ = .ok r' :=
      (VendorRequest.exists_encode_iff rfl hforest).2 ⟨rfl, hfits, by rw [hlength]; decide⟩
    obtain ⟨-, -, hr⟩ := VendorRequest.encode_eq_ok rfl hforest hr'
    rwa [hr] at hr'
  have hfinish : r.finish 1 0 = .ok (sent.header.encode ++ sent.body) :=
    Request.finish_eq_ok_iff.2 ⟨rfl, by decide +kernel, rfl⟩
  have hcommand : sent.command? = some Message.vendorCommand := by decide +kernel
  have hdata : sent.vendorData? = some (Put.encodeAll (listing 3 (encodeList cs ++ tail))) := by
    decide +kernel
  have hanswers : result? (Session.usableChannels 3 q) s =
      some (.ok [⟨2412, 0, 3⟩, ⟨2437, 0, 3⟩]) := by decide +kernel
  obtain ⟨-, hlisted, hanswer⟩ := channel_replies_exact 2
  obtain ⟨hread, hwritten⟩ := hlisted 3 cs tail htail
  obtain ⟨-, asked, reply, hasked, hresult, hfound⟩ :=
    (hanswer 3 q s _ _ rfl).1 (run_of_result? hanswers)
  exact ⟨htail, hencode, hfinish, hwritten 3 0x101A _ 28 r 1 0 _ rfl (by decide) hencode hfinish,
    hcommand, hdata, hread sent hcommand (by decide) hdata, asked, _, reply, hasked, hresult,
    hfound.symm⟩

end UsableChannel

end WirelessControl
