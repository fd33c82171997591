import WirelessControl.Failure

/-!
# Who is registered, and who listens

The `Registry` maps ids to commands. Its entries are kept in ascending order of their ids, so that
the order in which it is emptied does not depend on its history. The `Subscriptions` are a list of
keys, each with the command that handles it, in the order in which they were made. Commands are
named by references; both tables hold references only.

## Main statements

* `Registry.get?_insert`, `Registry.get?_erase`: a registry is a finite map.
* `Subscriptions.find?_add`, `Subscriptions.find?_remove`: so are the subscriptions.
-/

namespace WirelessControl

/-- Names a command among all that were ever made. -/
abbrev CommandRef := Nat

theorem Registry.ascending_nil :
    ([] : List (RequestId × CommandRef)).Pairwise (fun a b => a.1 < b.1) := .nil

/-- The commands that are registered, in ascending order of their ids. -/
structure Registry where
  /-- The ids and what is registered under them. -/
  entries : List (RequestId × CommandRef) := []
  /-- The ids ascend. -/
  ascending : entries.Pairwise (fun a b => a.1 < b.1) := by exact Registry.ascending_nil

namespace Registry

/-- What is registered under an id. -/
def get? (r : Registry) (id : RequestId) : Option CommandRef :=
  (r.entries.find? (·.1 = id)).map (·.2)

/-- The registered ids in ascending order. -/
def ids (r : Registry) : List RequestId := r.entries.map (·.1)

/-- How many ids are registered. -/
def size (r : Registry) : Nat := r.entries.length

/-- Puts an entry at its place, in front of entries of larger ids. -/
def insertEntry (id : RequestId) (c : CommandRef) :
    List (RequestId × CommandRef) → List (RequestId × CommandRef)
  | [] => [(id, c)]
  | e :: es => if e.1 < id then e :: insertEntry id c es else (id, c) :: e :: es

/-- Removes an entry. -/
def eraseEntry (id : RequestId) (es : List (RequestId × CommandRef)) :
    List (RequestId × CommandRef) :=
  es.filter (·.1 ≠ id)

theorem mem_insertEntry {id : RequestId} {c : CommandRef} {es : List (RequestId × CommandRef)}
    {e : RequestId × CommandRef} : e ∈ insertEntry id c es ↔ e = (id, c) ∨ e ∈ es := by
  induction es with
  | nil => simp [insertEntry]
  | cons x xs ih =>
    simp only [insertEntry]
    split
    · simp only [List.mem_cons, ih]
      constructor
      · rintro (h | h | h)
        · exact .inr (.inl h)
        · exact .inl h
        · exact .inr (.inr h)
      · rintro (h | h | h)
        · exact .inr (.inl h)
        · exact .inl h
        · exact .inr (.inr h)
    · simp only [List.mem_cons]

theorem ascending_insertEntry {id : RequestId} {c : CommandRef}
    {es : List (RequestId × CommandRef)} (h : es.Pairwise (fun a b => a.1 < b.1))
    (hnew : ∀ e ∈ es, e.1 ≠ id) : (insertEntry id c es).Pairwise (fun a b => a.1 < b.1) := by
  induction es with
  | nil => simp [insertEntry]
  | cons x xs ih =>
    rw [List.pairwise_cons] at h
    simp only [insertEntry]
    split
    · next hlt =>
      rw [List.pairwise_cons]
      refine ⟨fun e he => ?_, ih h.2 fun e he => hnew e (List.mem_cons_of_mem _ he)⟩
      rcases mem_insertEntry.1 he with rfl | he
      · exact hlt
      · exact h.1 e he
    · next hnlt =>
      have hx : id < x.1 :=
        Int.lt_iff_le_and_ne.2 ⟨Int.not_lt.1 hnlt, Ne.symm (hnew x (List.mem_cons_self ..))⟩
      rw [List.pairwise_cons]
      refine ⟨fun e he => ?_, List.pairwise_cons.2 h⟩
      rcases List.mem_cons.1 he with rfl | he
      · exact hx
      · exact Int.lt_trans hx (h.1 e he)

/-- Registers a command under an id; what was registered there before is replaced. -/
def insert (r : Registry) (id : RequestId) (c : CommandRef) : Registry where
  entries := insertEntry id c (eraseEntry id r.entries)
  ascending := by
    refine ascending_insertEntry (r.ascending.filter _) fun e he => ?_
    simpa using (List.mem_filter.1 he).2

/-- Removes an id. -/
def erase (r : Registry) (id : RequestId) : Registry where
  entries := eraseEntry id r.entries
  ascending := r.ascending.filter _

/-- Whether an id is registered. -/
def contains (r : Registry) (id : RequestId) : Bool := (r.get? id).isSome

theorem find?_insertEntry (id i : RequestId) (c : CommandRef)
    (es : List (RequestId × CommandRef)) (hnew : ∀ e ∈ es, e.1 ≠ id) :
    (insertEntry id c es).find? (·.1 = i) =
      if id = i then some (id, c) else es.find? (·.1 = i) := by
  induction es with
  | nil => by_cases h : id = i <;> simp [insertEntry, h]
  | cons x xs ih =>
    have hx : x.1 ≠ id := hnew x (List.mem_cons_self ..)
    have ih := ih fun e he => hnew e (List.mem_cons_of_mem _ he)
    rw [insertEntry]
    by_cases hlt : x.1 < id
    · rw [if_pos hlt, List.find?_cons, ih, List.find?_cons]
      by_cases hxi : x.1 = i
      · have hne : id ≠ i := fun h => hx (hxi.trans h.symm)
        simp only [hxi, hne, decide_true, if_false]
      · simp only [hxi, decide_false]
    · rw [if_neg hlt, List.find?_cons]
      by_cases hi : id = i
      · simp only [hi, decide_true, if_true]
      · simp only [hi, decide_false, if_false]

theorem find?_eraseEntry (id i : RequestId) (es : List (RequestId × CommandRef)) :
    (eraseEntry id es).find? (·.1 = i) = if id = i then none else es.find? (·.1 = i) := by
  induction es with
  | nil => simp [eraseEntry]
  | cons x xs ih =>
    simp only [eraseEntry] at ih ⊢
    rw [List.filter_cons, List.find?_cons]
    by_cases hx : x.1 = id
    · rw [if_neg (by simp [hx]), ih]
      by_cases hi : id = i
      · simp only [hi, if_true]
      · have hxi : x.1 ≠ i := fun h => hi (hx.symm.trans h)
        simp only [hxi, hi, decide_false, if_false]
    · rw [if_pos (by simp [hx]), List.find?_cons, ih]
      by_cases hxi : x.1 = i
      · have hi : id ≠ i := fun h => hx (hxi.trans h.symm)
        simp only [hxi, hi, decide_true, if_false]
      · simp only [hxi, decide_false]

theorem get?_insert (r : Registry) (id i : RequestId) (c : CommandRef) :
    (r.insert id c).get? i = if id = i then some c else r.get? i := by
  have hnew : ∀ e ∈ eraseEntry id r.entries, e.1 ≠ id := fun e he => by
    simpa using (List.mem_filter.1 he).2
  simp only [get?, insert, find?_insertEntry id i c _ hnew, find?_eraseEntry]
  split <;> simp

theorem get?_erase (r : Registry) (id i : RequestId) :
    (r.erase id).get? i = if id = i then none else r.get? i := by
  simp only [get?, erase, find?_eraseEntry]
  split <;> simp

end Registry

/-- Keys and the commands that handle them, in the order in which they were subscribed. -/
abbrev Subscriptions := List (EventKey × CommandRef)

namespace Subscriptions

/-- The command that handles a key. -/
def find? (s : Subscriptions) (key : EventKey) : Option CommandRef :=
  (List.find? (fun e => e.1 == key) s).map (·.2)

/-- Whether a key is subscribed. -/
def contains (s : Subscriptions) (key : EventKey) : Bool := (s.find? key).isSome

/-- The subscribed keys in order. -/
def keys (s : Subscriptions) : List EventKey := List.map (·.1) s

/-- Subscribes a command to a key, unless the key is taken. -/
def add (s : Subscriptions) (key : EventKey) (c : CommandRef) : Except EngineError Subscriptions :=
  if s.contains key then .error (.duplicateSubscription key) else .ok (s ++ [(key, c)])

/-- Gives up every subscription to a key. -/
def remove (s : Subscriptions) (key : EventKey) : Subscriptions :=
  List.filter (fun e => e.1 != key) s

theorem find?_add {s s' : Subscriptions} {key : EventKey} {c : CommandRef}
    (h : s.add key c = .ok s') (k : EventKey) :
    s'.find? k = if key = k then some c else s.find? k := by
  unfold add at h
  split at h
  · simp at h
  · next hc =>
    simp only [Except.ok.injEq] at h
    subst h
    have hnone : List.find? (fun e => e.1 == key) s = none := by
      cases hf : List.find? (fun e => e.1 == key) s with
      | none => rfl
      | some e => simp [contains, find?, hf] at hc
    by_cases hk : key = k
    · subst hk
      simp [find?, List.find?_append, hnone]
    · cases hf : List.find? (fun e => e.1 == k) s <;> simp [find?, List.find?_append, hf, hk]

theorem find?_remove (s : Subscriptions) (key k : EventKey) :
    (s.remove key).find? k = if key = k then none else s.find? k := by
  induction s with
  | nil => simp [remove, find?]
  | cons x xs ih =>
    simp only [remove, find?] at ih ⊢
    by_cases hx : x.1 = key
    · by_cases hk : key = k
      · simp_all
      · have hxk : (x.1 == k) = false := by simpa [hx] using hk
        simp_all
    · by_cases hxk : x.1 = k
      · have hk : key ≠ k := fun h => hx (hxk.trans h.symm)
        simp_all
      · simp_all

end Subscriptions

end WirelessControl
