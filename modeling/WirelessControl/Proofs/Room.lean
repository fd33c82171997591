import WirelessControl.Proofs.AttributeForest

/-!
# What fits is written

`Put.writeAll_run_ok` says what a successful building has written. Here is the other half: when a
building is successful. There are three conditions, and all of them can be read off the description.
No record is longer than a record can be, no text has a NUL, and everything together keeps to the
limit.

The limit is not looked at once but record by record, and in a nest already at its header. That
comes to the same, since bytes are only added: what fits in the end has fitted all the time.

## Main results

* `Put.length_le_of_writeAll` — a successful building keeps to the limit
* `Put.exists_writeAll_run_ok` — what fits is written
* `Put.writeAll_succeeds_iff` — both together
-/

namespace WirelessControl.Put

open Request (encodeAttribute length_encodeAttribute)

variable {r r' : Request}

/-! ### The limit is kept -/

theorem length_le_of_putBytes {k : UInt16} {payload : Bytes}
    (h : (Request.putBytes k payload).run r = .ok () r') : r'.length ≤ r'.limit := by
  obtain ⟨-, rfl⟩ := putBytes_run_ok h
  rw [Request.putBytes_run] at h
  split at h
  · cases h
  · split at h
    · cases h
    · next hroom =>
      rw [Request.length, List.length_append, length_encodeAttribute]
      exact Nat.le_of_not_lt hroom

/-- The header of a nest is held against the limit. -/
theorem length_le_of_nestStart {k : UInt16} {nest : Nest}
    (h : (Request.nestStart k).run r = .ok nest r') : r'.length ≤ r'.limit := by
  obtain ⟨-, rfl⟩ := nestStart_run_ok h
  rw [Request.nestStart_run] at h
  split at h
  · cases h
  · next hroom =>
    have hle : r.length + 4 ≤ r.limit := Nat.le_of_not_lt hroom
    simpa [Request.length, Nat.add_assoc] using hle

/-- Closing a nest adds nothing. -/
theorem length_of_nestEnd {nest : Nest} (h : (Request.nestEnd nest).run r = .ok () r')
    (hplace : nest.offset + 2 ≤ r.length) : r'.length = r.length ∧ r'.limit = r.limit := by
  obtain ⟨-, rfl⟩ := nestEnd_run_ok h
  refine ⟨?_, rfl⟩
  simp only [Request.length, Request.patch, List.length_append, List.length_take,
    List.length_drop, Word.length_encode] at hplace ⊢
  omega

mutual

/-- A thing that was written has kept to the limit. -/
theorem length_le_of_write (p : Put) (hp : p.IsTree) {r r' : Request}
    (h : p.write.run r = .ok () r') : r'.length ≤ r'.limit := by
  cases p with
  | openNest k => exact hp.elim
  | text k value =>
    rw [write] at h
    exact length_le_of_putBytes (putText_run_ok h).2
  | nest k inner =>
    rw [write] at h
    obtain ⟨nest, r₁, hstart, h⟩ := run_bind_eq_ok h
    obtain ⟨⟨⟩, r₂, hwrite, hend⟩ := run_bind_eq_ok h
    have hroom : r₂.length ≤ r₂.limit :=
      length_le_of_writeAll inner hp.2 (length_le_of_nestStart hstart) hwrite
    have hplace : nest.offset + 2 ≤ r₂.length := by
      obtain ⟨rfl, rfl⟩ := nestStart_run_ok hstart
      obtain ⟨-, rfl⟩ := writeAll_run_ok inner hp.2 hwrite
      simp only [Request.length, List.length_append, Word.length_ofU16]
      omega
    obtain ⟨hlength, hlimit⟩ := length_of_nestEnd hend hplace
    rwa [hlength, hlimit]
  | _ =>
    rw [write] at h
    exact length_le_of_putBytes h

/-- A request that kept to the limit still does when things were written. -/
theorem length_le_of_writeAll (ps : List Put) (hps : IsForest ps) {r r' : Request}
    (hr : r.length ≤ r.limit) (h : (writeAll ps).run r = .ok () r') : r'.length ≤ r'.limit := by
  cases ps with
  | nil =>
    obtain rfl : r = r' := by simpa [writeAll] using h
    exact hr
  | cons p ps =>
    rw [writeAll] at h
    obtain ⟨⟨⟩, r₁, hp, h⟩ := run_bind_eq_ok h
    exact length_le_of_writeAll ps hps.2 (length_le_of_write p hps.1 hp) h

end

/-! ### What fits is written -/

theorem exists_putBytes_run_ok {k : UInt16} {payload : Bytes} (hlong : 4 + payload.length ≤ 65535)
    (hroom : r.length + align (4 + payload.length) ≤ r.limit) :
    ∃ r', (Request.putBytes k payload).run r = .ok () r' := by
  rw [Request.putBytes_run, if_neg (Nat.not_lt.2 hlong), if_neg (Nat.not_lt.2 hroom)]
  exact ⟨_, rfl⟩

/-- A nest is filled when there is room for its header and for what is in it. -/
theorem exists_nested_run_ok {k : UInt16} {write : Request.Build Unit} {inner : Bytes}
    (hinner : ∀ r : Request, r.length + inner.length ≤ r.limit →
      write.run r = .ok () { r with buffer := r.buffer ++ inner })
    (hlong : 4 + inner.length ≤ 65535) (hroom : r.length + (4 + inner.length) ≤ r.limit) :
    ∃ r', (Request.nested k write).run r = .ok () r' := by
  let opened : Request := { r with
    buffer := r.buffer ++ Word.ofU16 0 ++ Word.ofU16 (k ||| Attribute.nestedFlag)
    openNests := r.openNests + 1 }
  let filled : Request := { opened with buffer := opened.buffer ++ inner }
  have hopened : opened.length = r.length + 4 := by
    simp [opened, Request.length]
  have hfilled : filled.length = r.length + 4 + inner.length := by
    rw [← hopened]
    exact List.length_append
  have hstart : (Request.nestStart k).run r = .ok ⟨r.length⟩ opened := by
    rw [Request.nestStart_run, if_neg (by omega)]
  have hwrite : write.run opened = .ok () filled := hinner opened (by
    rw [hopened]
    show r.length + 4 + inner.length ≤ r.limit
    omega)
  have hend : ∃ r', (Request.nestEnd ⟨r.length⟩).run filled = .ok () r' := by
    rw [Request.nestEnd_run, hfilled, if_neg, if_neg (by simp only; omega),
      if_neg (by simp only; omega)]
    · exact ⟨_, rfl⟩
    · rintro (hnone | hlt)
      · exact Nat.succ_ne_zero r.openNests hnone
      · simp only at hlt
        omega
  obtain ⟨r', hend⟩ := hend
  refine ⟨r', ?_⟩
  rw [Request.nested, EStateM.run_bind, hstart]
  dsimp only
  rw [EStateM.run_bind, hwrite]
  exact hend

mutual

/-- A thing for which there is room is written. -/
theorem exists_write_run_ok (p : Put) (hp : p.IsTree) (hfits : p.Fits) {r : Request}
    (hroom : r.length + align (4 + p.payload.length) ≤ r.limit) :
    ∃ r', p.write.run r = .ok () r' := by
  have hlong : 4 + p.payload.length ≤ 65535 := hfits.length_payload_le hp
  cases p with
  | openNest k => exact hp.elim
  | text k value =>
    rw [write, Request.putText, if_neg hfits.1]
    exact exists_putBytes_run_ok hlong hroom
  | nest k inner =>
    have hdvd : 4 ∣ 4 + (encodeAll inner).length :=
      Nat.dvd_add (Nat.dvd_refl 4) (length_encodeAll_dvd inner)
    rw [payload, align_eq_self_of_dvd hdvd] at hroom
    rw [write]
    refine exists_nested_run_ok ?_ hfits.1 hroom
    intro r hr
    obtain ⟨r', hwrite⟩ := exists_writeAll_run_ok inner hp.2 hfits.2 hr
    obtain ⟨-, rfl⟩ := writeAll_run_ok inner hp.2 hwrite
    exact hwrite
  | _ =>
    rw [write]
    exact exists_putBytes_run_ok hlong hroom

/-- Things for which there is room are written. -/
theorem exists_writeAll_run_ok (ps : List Put) (hps : IsForest ps) (hfits : FitsAll ps)
    {r : Request} (hroom : r.length + (encodeAll ps).length ≤ r.limit) :
    ∃ r', (writeAll ps).run r = .ok () r' := by
  cases ps with
  | nil => exact ⟨r, by simp [writeAll]⟩
  | cons p ps =>
    rw [encodeAll, List.length_append, length_encodeAttribute] at hroom
    obtain ⟨r₁, hfirst⟩ := exists_write_run_ok p hps.1 hfits.1 (r := r) (by omega)
    obtain ⟨-, rfl⟩ := write_run_ok p hps.1 hfirst
    have hrest := exists_writeAll_run_ok ps hps.2 hfits.2 (r := { r with
      buffer := r.buffer ++ encodeAttribute p.wireKind p.payload }) (by
        rw [Request.length, List.length_append, length_encodeAttribute]
        rw [Request.length] at hroom
        show r.buffer.length + _ + _ ≤ r.limit
        omega)
    obtain ⟨r', hrest⟩ := hrest
    refine ⟨r', ?_⟩
    rw [writeAll, EStateM.run_bind, hfirst]
    exact hrest

end

/-- **What fits is written, and nothing else.** -/
theorem writeAll_succeeds_iff {ps : List Put} (hps : IsForest ps) (hne : ps ≠ []) (r : Request) :
    (∃ r', (writeAll ps).run r = .ok () r') ↔
      FitsAll ps ∧ r.length + (encodeAll ps).length ≤ r.limit := by
  constructor
  · rintro ⟨r', h⟩
    obtain ⟨hfits, rfl⟩ := writeAll_run_ok ps hps h
    refine ⟨hfits, ?_⟩
    obtain ⟨p, ps, rfl⟩ := List.exists_cons_of_ne_nil hne
    rw [writeAll] at h
    obtain ⟨⟨⟩, r₁, hfirst, h⟩ := run_bind_eq_ok h
    have hkept := length_le_of_writeAll ps hps.2 (length_le_of_write p hps.1 hfirst) h
    rw [Request.length, List.length_append] at hkept
    exact hkept
  · rintro ⟨hfits, hroom⟩
    exact exists_writeAll_run_ok ps hps hfits hroom

end WirelessControl.Put
