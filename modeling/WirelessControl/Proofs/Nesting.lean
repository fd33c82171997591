import WirelessControl.Proofs.Drafting

/-!
# Nests that are closed innermost first

A request counts its open nests and does not know which ones they are. Closing a nest writes the
distance from its header to the end of the buffer, whichever nest it is: any place that is in hand
is accepted, and only a nest that is too long is refused. So it is the caller who has to close nests
in order. When the innermost open nest is always the one that is closed, the calls describe a
forest, and the bytes of a finished request are the bytes of this forest: every record lies inside
the payload of the nest that it was written into, and is followed by the next one.

The forest is built up by the calls as a zipper is. `frames` are the open nests, the innermost
first, each with what stands in front of it in the nest around it; what has been written into the
innermost one comes last. The buffer is the bytes of the zipper, where the header of an open nest
has no length yet, and the places of the open nests are the lengths of what is in front of them.

## Main definitions

* `Request.Draft.InOrder` — calls that close the innermost open nest
* `Request.Outlined` — a draft as the calls have described it
* `Request.Draft.Renders` — its bytes

## Main results

* `Request.Drafted.exists_outlined` — calls in order describe a forest
* `Request.Outlined.renders` — and write it
* `Request.nests_closed_innermost_first` — what a finished request consists of
-/

namespace WirelessControl

namespace Put

theorem encodeAll_append (ps qs : List Put) : encodeAll (ps ++ qs) = encodeAll ps ++ encodeAll qs := by
  induction ps with
  | nil => rfl
  | cons p ps ih => rw [List.cons_append, encodeAll, encodeAll, ih, List.append_assoc]

theorem encodeAll_concat (ps : List Put) (p : Put) :
    encodeAll (ps ++ [p]) = encodeAll ps ++ Request.encodeAttribute p.wireKind p.payload := by
  rw [encodeAll_append, encodeAll, encodeAll, List.append_nil]

theorem fitsAll_concat {ps : List Put} {p : Put} (hps : FitsAll ps) (hp : p.Fits) :
    FitsAll (ps ++ [p]) := by
  induction ps with
  | nil => exact ⟨hp, trivial⟩
  | cons q ps ih => exact ⟨hps.1, ih hps.2⟩

/-- A value that is not too long fits. -/
theorem fits_of_value {p : Put} (hp : p.isNest = false) (hnul : p.hasNul = false)
    (hlong : 4 + p.payload.length ≤ 65535) : p.Fits := by
  cases p with
  | text kind value => exact ⟨of_decide_eq_false hnul, hlong⟩
  | bytes kind value => exact hlong
  | openNest kind => cases hp
  | nest kind inner => cases hp
  | _ => trivial

end Put

namespace Request

/-! ### Outlines -/

/-- A nest that is open. -/
structure Frame where
  /-- Its kind. -/
  kind : UInt16
  /-- What stands in front of it, in the nest around it. -/
  before : List Put

/-- Only places in hand are used, and a nest is closed only if it is the innermost open one. -/
def Draft.InOrder (d : Draft) : Call → Prop
  | .closeNest nest => nest ∈ d.places ∧
      ((d.call (.closeNest nest)).1 = .ok () → d.opened.head? = some nest)
  | _ => True

/-- A draft as the calls have described it: the open nests, the innermost first, and what has been
written into the innermost one. -/
inductive Outlined (limit : Nat) : Draft → List Frame → List Put → Prop
  | new (family : UInt16) (command : UInt8) (flags : UInt16) :
    Outlined limit { request := .new family command flags limit } [] []
  | refused {d : Draft} {frames : List Frame} {ps : List Put} (h : Outlined limit d frames ps)
    (c : Call) (e : EncodingError) (herror : (d.call c).1 = .error e) :
    Outlined limit (d.call c).2 frames ps
  | put {d : Draft} {frames : List Frame} {ps : List Put} (h : Outlined limit d frames ps)
    (p : Put) (hp : p.isNest = false) (hok : (d.call (.put p hp)).1 = .ok ()) :
    Outlined limit (d.call (.put p hp)).2 frames (ps ++ [p])
  | openNest {d : Draft} {frames : List Frame} {ps : List Put} (h : Outlined limit d frames ps)
    (kind : UInt16) (hok : (d.call (.openNest kind)).1 = .ok ()) :
    Outlined limit (d.call (.openNest kind)).2 (⟨kind, ps⟩ :: frames) []
  | closeNest {d : Draft} {frames : List Frame} {f : Frame} {ps : List Put}
    (h : Outlined limit d (f :: frames) ps) (nest : Nest) (hinner : d.opened.head? = some nest)
    (hok : (d.call (.closeNest nest)).1 = .ok ()) :
    Outlined limit (d.call (.closeNest nest)).2 frames (f.before ++ [.nest f.kind ps])

/-! ### The bytes of an outline -/

/-- The bytes of open nests behind `front`, with what has been written into the innermost one. The
header of an open nest has no length yet. -/
def Frame.render (front : Bytes) : List Frame → List Put → Bytes
  | [], ps => front ++ Put.encodeAll ps
  | f :: frames, ps =>
    render front frames f.before ++
      (Word.ofU16 0 ++ Word.ofU16 (f.kind ||| Attribute.nestedFlag)) ++ Put.encodeAll ps

/-- Where open nests begin, the innermost first. -/
def Frame.places (front : Bytes) : List Frame → List Nest
  | [] => []
  | f :: frames => ⟨(render front frames f.before).length⟩ :: places front frames

theorem Frame.length_places (front : Bytes) (frames : List Frame) :
    (places front frames).length = frames.length := by
  induction frames with
  | nil => rfl
  | cons f frames ih => exact congrArg (· + 1) ih

/-- What is written comes last. -/
theorem Frame.render_concat (front : Bytes) (frames : List Frame) (ps : List Put) (p : Put) :
    render front frames (ps ++ [p]) =
      render front frames ps ++ encodeAttribute p.wireKind p.payload := by
  cases frames with
  | nil =>
    rw [render, render, Put.encodeAll_concat]
    exact (List.append_assoc _ _ _).symm
  | cons f frames =>
    rw [render, render, Put.encodeAll_concat]
    exact (List.append_assoc _ _ _).symm

/-- A nest with its length written over its header is one record. -/
theorem Frame.patch_render (front : Bytes) (f : Frame) (frames : List Frame) (ps : List Put) :
    let before := render front frames f.before
    let buffer := render front (f :: frames) ps
    patch before.length (Word.encode 2 (buffer.length - before.length)) buffer =
      render front frames (f.before ++ [.nest f.kind ps]) := by
  intro before buffer
  have hlength : buffer.length - before.length = 4 + (Put.encodeAll ps).length := by
    simp only [buffer, before, render, List.length_append, Word.length_ofU16]
    omega
  rw [hlength, render_concat]
  simp only [buffer, before, render]
  rw [Put.patch_append]
  congr 1
  exact (encodeAttribute_of_dvd _ (Put.length_encodeAll_dvd ps)).symm

/-- The bytes of a draft and the places of its open nests are those of an outline, and everything in
the outline fits its record. -/
structure Draft.Renders (d : Draft) (frames : List Frame) (ps : List Put) : Prop where
  buffer : d.request.buffer =
    Frame.render (List.replicate 16 0 ++ [d.request.command, 0, 0, 0]) frames ps
  opened : d.opened = Frame.places (List.replicate 16 0 ++ [d.request.command, 0, 0, 0]) frames
  before : ∀ f ∈ frames, Put.FitsAll f.before
  fits : Put.FitsAll ps

namespace Draft.Renders

variable {d : Draft} {frames : List Frame} {ps : List Put}

theorem added (h : d.Renders frames ps) {p : Put} (hp : p.isNest = false)
    (hnul : p.hasNul = false) (hlong : 4 + p.payload.length ≤ 65535) :
    (d.added p).Renders frames (ps ++ [p]) where
  buffer := by
    have hkind : p.wireKind = p.kind := by rw [Put.wireKind, hp, if_neg Bool.false_ne_true]
    rw [Frame.render_concat, hkind]
    exact congrArg (· ++ encodeAttribute p.kind p.payload) h.buffer
  opened := h.opened
  before := h.before
  fits := Put.fitsAll_concat h.fits (Put.fits_of_value hp hnul hlong)

theorem begun (h : d.Renders frames ps) (kind : UInt16) :
    (d.begun kind).Renders (⟨kind, ps⟩ :: frames) [] where
  buffer := by
    rw [Frame.render, Put.encodeAll, List.append_nil]
    exact congrArg (· ++ (Word.ofU16 0 ++ Word.ofU16 (kind ||| Attribute.nestedFlag))) h.buffer
  opened := by
    rw [Frame.places]
    change ⟨d.request.buffer.length⟩ :: d.opened = _
    rw [h.opened, h.buffer]
    rfl
  before := List.forall_mem_cons.2 ⟨h.fits, h.before⟩
  fits := trivial

theorem closed {f : Frame} (h : d.Renders (f :: frames) ps) {nest : Nest}
    (hinner : d.opened.head? = some nest)
    (hlong : d.request.length - nest.offset ≤ 65535) :
    (d.closed nest).Renders frames (f.before ++ [.nest f.kind ps]) := by
  let front : Bytes := List.replicate 16 0 ++ [d.request.command, 0, 0, 0]
  have hopened : d.opened = nest :: Frame.places front frames ∧
      nest.offset = (Frame.render front frames f.before).length := by
    rw [h.opened, Frame.places] at hinner ⊢
    obtain rfl := Option.some.inj hinner
    exact ⟨rfl, rfl⟩
  have hlength : d.request.length - nest.offset = 4 + (Put.encodeAll ps).length := by
    rw [Request.length, h.buffer, hopened.2]
    simp only [Frame.render, List.length_append, Word.length_ofU16, front]
    omega
  obtain ⟨hfits, hbefore⟩ := List.forall_mem_cons.1 h.before
  refine ⟨?_, ?_, hbefore, Put.fitsAll_concat hfits ⟨hlength ▸ hlong, h.fits⟩⟩
  · rw [← Frame.patch_render]
    change patch nest.offset (Word.encode 2 (d.request.length - nest.offset)) d.request.buffer = _
    rw [Request.length, h.buffer, hopened.2]
    rfl
  · change d.opened.erase nest = Frame.places front frames
    rw [hopened.1, List.erase_cons_head]

end Draft.Renders

section
variable {limit : Nat} {d : Draft}

/-- **What calls describe is what they write.** -/
theorem Outlined.renders {frames : List Frame} {ps : List Put} (h : Outlined limit d frames ps) :
    d.Renders frames ps := by
  induction h with
  | new family command flags =>
    exact ⟨(List.append_nil _).symm, rfl, nofun, trivial⟩
  | @refused d frames ps _ c e herror ih =>
    have hanswer := d.call_answer c
    generalize d.call c = out at herror hanswer
    cases hanswer with
    | refused _ _ => exact ih
    | forgone nest _ => exact ⟨ih.buffer, ih.opened, ih.before, ih.fits⟩
    | _ => cases herror
  | @put d frames ps _ p hp hok ih =>
    have hanswer := d.call_answer (.put p hp)
    generalize d.call (.put p hp) = out at hok hanswer
    cases hanswer with
    | added _ _ hnul hlong _ => exact ih.added hp hnul hlong
    | refused _ _ => cases hok
  | @openNest d frames ps _ kind hok ih =>
    have hanswer := d.call_answer (.openNest kind)
    generalize d.call (.openNest kind) = out at hok hanswer
    cases hanswer with
    | begun _ _ => exact ih.begun kind
    | refused _ _ => cases hok
  | @closeNest d frames f ps _ nest hinner hok ih =>
    have hanswer := d.call_answer (.closeNest nest)
    generalize d.call (.closeNest nest) = out at hok hanswer
    cases hanswer with
    | closed _ hlong => exact ih.closed hinner hlong
    | refused _ _ => cases hok
    | forgone _ _ => cases hok

theorem Draft.InOrder.owns {c : Call} (h : d.InOrder c) : d.Owns c := by
  cases c with
  | closeNest nest => exact h.1
  | _ => trivial

/-- **Calls in order describe a forest.** -/
theorem Drafted.exists_outlined (hd : Drafted Draft.InOrder limit d) :
    ∃ frames ps, Outlined limit d frames ps := by
  induction hd with
  | new family command flags => exact ⟨[], [], .new family command flags⟩
  | @call d _ c hc ih =>
    obtain ⟨frames, ps, h⟩ := ih
    cases hanswer : (d.call c).1 with
    | error e => exact ⟨frames, ps, h.refused c e hanswer⟩
    | ok u =>
      cases c with
      | put p hp => exact ⟨frames, ps ++ [p], h.put p hp hanswer⟩
      | openNest kind => exact ⟨⟨kind, ps⟩ :: frames, [], h.openNest kind hanswer⟩
      | closeNest nest =>
        have hinner := hc.2 hanswer
        cases frames with
        | nil =>
          rw [h.renders.opened] at hinner
          cases hinner
        | cons f frames =>
          exact ⟨frames, f.before ++ [.nest f.kind ps], h.closeNest nest hinner hanswer⟩

/-- How the closing of a nest ends when its place is in hand: the order does not matter. -/
theorem Draft.Tidy.call_closeNest (h : d.Tidy) {nest : Nest} (hnest : nest ∈ d.places) :
    d.call (.closeNest nest) =
      if 65535 < d.request.length - nest.offset then (.error (.overflow 65535), d.forgone nest)
      else (.ok (), d.closed nest) := by
  obtain ⟨-, hplace, hopen⟩ := h.open_of_mem hnest
  have hfound : ¬ (d.request.openNests = 0 ∨ d.request.length < nest.offset) := by omega
  rw [d.call_closeNest, if_neg hfound, if_neg (by omega : ¬ d.request.length < nest.offset + 2)]

/-- **A request whose nests are closed innermost first is the forest that its calls describe.** A
place in hand is refused only because its nest is too long, and then nothing is changed. If the
innermost open nest is always the one that is closed, then a finished request is its headers and the
records of this forest: each record lies in the payload of the nest that it was written into, and
reading to any depth finds the forest again. -/
theorem nests_closed_innermost_first (limit : Nat) :
    (∀ d, Drafted Draft.Owns limit d → ∀ nest ∈ d.places,
      ((d.call (.closeNest nest)).1 = .ok () ↔ d.request.length - nest.offset ≤ 65535) ∧
        ∀ e, (d.call (.closeNest nest)).1 = .error e →
          e = .overflow 65535 ∧ (d.call (.closeNest nest)).2.request = d.request) ∧
      ∀ d, Drafted Draft.InOrder limit d → ∃ frames ps, Outlined limit d frames ps ∧
        ∀ seq port bs, d.request.finish seq port = .ok bs →
          frames = [] ∧ Put.FitsAll ps ∧
            bs = (d.request.header seq port).encode ++ [d.request.command, 0, 0, 0] ++
              Put.encodeAll ps ∧
            (Put.IsForest ps → Put.ReadsAll ps (Attribute.parse (bs.drop 20))) := by
  constructor
  · intro d hd nest hnest
    rw [hd.tidy.call_closeNest hnest]
    split_ifs with hlong
    · exact ⟨⟨nofun, fun h => absurd hlong (Nat.not_lt.2 h)⟩, fun e he =>
        ⟨(Except.error.inj he).symm, rfl⟩⟩
    · exact ⟨⟨fun _ => Nat.le_of_not_lt hlong, fun _ => rfl⟩, nofun⟩
  · intro d hd
    obtain ⟨frames, ps, houtline⟩ := hd.exists_outlined
    have hrenders := houtline.renders
    refine ⟨frames, ps, houtline, fun seq port bs hbs => ?_⟩
    obtain ⟨hnone, -, rfl⟩ := finish_eq_ok_iff.1 hbs
    have hclosed : frames = [] := by
      have htidy := (hd.mono fun _ _ h => h.owns).tidy
      rw [htidy.openNests, hrenders.opened, Frame.length_places] at hnone
      exact List.eq_nil_of_length_eq_zero hnone
    subst hclosed
    have hbytes : (d.request.header seq port).encode ++ d.request.buffer.drop 16 =
        (d.request.header seq port).encode ++ [d.request.command, 0, 0, 0] ++
          Put.encodeAll ps := by
      rw [hrenders.buffer, Frame.render, List.append_assoc, List.drop_left' (by simp),
        List.append_assoc]
    refine ⟨rfl, hrenders.fits, hbytes, fun hforest => ?_⟩
    rw [hbytes, List.drop_left' (by simp)]
    exact Put.readsAll_encodeAll ps hforest hrenders.fits

end

/-- A draft with two nests open, one in the other. -/
def Draft.twofold : Draft :=
  let d : Draft := { request := .new 28 1 0 64 }
  let d := (d.call (.openNest 1)).2
  (d.call (.openNest 2)).2

/-- The outer nest is closed although the inner one is open. What is written then goes on in the
inner nest, which ends behind the outer one, and the request is finished all the same. -/
theorem outer_nest_closes_first :
    let crossed := (((Draft.twofold.call (.closeNest ⟨20⟩)).2.call (.put (.u8 3 7) rfl)).2.call
      (.closeNest ⟨24⟩)).2
    Drafted Draft.Owns 64 Draft.twofold ∧ Draft.twofold.places = [⟨24⟩, ⟨20⟩] ∧
      Draft.twofold.opened.head? = some ⟨24⟩ ∧
      (Draft.twofold.call (.closeNest ⟨20⟩)).1 = .ok () ∧ Drafted Draft.Owns 64 crossed ∧
      ∃ bs, crossed.request.finish 3 4 = .ok bs ∧ LengthAt bs 20 8 ∧ LengthAt bs 24 12 := by
  intro crossed
  have htwofold : Drafted Draft.Owns 64 Draft.twofold :=
    ((Drafted.new 28 1 0).call (.openNest 1) trivial).call (.openNest 2) trivial
  have hplaces : Draft.twofold.places = [⟨24⟩, ⟨20⟩] := by decide
  have hcrossed : Drafted Draft.Owns 64 crossed :=
    ((htwofold.call (.closeNest ⟨20⟩) (by decide)).call (.put (.u8 3 7) rfl) trivial).call
      (.closeNest ⟨24⟩) (by decide)
  exact ⟨htwofold, hplaces, by decide, rfl, hcrossed, _, rfl, by decide, by decide⟩

theorem nests_closed_innermost_first_twofold :
    let closed := (((Draft.twofold.call (.put (.u8 3 7) rfl)).2.call (.closeNest ⟨24⟩)).2.call
      (.closeNest ⟨20⟩)).2
    Drafted Draft.InOrder 64 closed ∧
      ∃ ps bs, Outlined 64 closed [] ps ∧ closed.request.finish 3 4 = .ok bs ∧
        bs = (closed.request.header 3 4).encode ++ [1, 0, 0, 0] ++ Put.encodeAll ps := by
  intro closed
  have htwofold : Drafted Draft.InOrder 64 Draft.twofold :=
    ((Drafted.new 28 1 0).call (.openNest 1) trivial).call (.openNest 2) trivial
  have hclosed : Drafted Draft.InOrder 64 closed :=
    ((htwofold.call (.put (.u8 3 7) rfl) trivial).call (.closeNest ⟨24⟩)
      ⟨by decide, fun _ => by decide⟩).call (.closeNest ⟨20⟩) ⟨by decide, fun _ => by decide⟩
  obtain ⟨frames, ps, houtline, hfinish⟩ := (nests_closed_innermost_first 64).2 closed hclosed
  obtain ⟨rfl, -, hbs, -⟩ := hfinish 3 4 _ rfl
  exact ⟨hclosed, ps, _, houtline, rfl, hbs⟩

end Request

end WirelessControl
