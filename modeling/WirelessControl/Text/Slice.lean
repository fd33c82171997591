/-!
# Texts cut at bytes

Places in a text are counted in bytes of UTF-8. A text is cut at such a place behind the characters
that fit in front of it; where every character takes one byte, that is the place among the
characters.

## Main definitions

* `Slice.front`, `Slice.behind`: the text in front of a place and behind it.
* `Slice.between`: the text between two places.

## Main statements

* `Slice.front_append_behind`: nothing is lost where a text is cut.
* `Slice.front_of_ascii`, `Slice.behind_of_ascii`: a cut in ASCII.
-/

namespace WirelessControl.Slice

/-- As many characters from the front as fit a number of bytes. -/
def front (bytes : Nat) : List Char → List Char
  | [] => []
  | c :: cs => if c.utf8Size ≤ bytes then c :: front (bytes - c.utf8Size) cs else []

/-- The characters behind those that fit a number of bytes. -/
def behind (bytes : Nat) : List Char → List Char
  | [] => []
  | c :: cs => if c.utf8Size ≤ bytes then behind (bytes - c.utf8Size) cs else c :: cs

/-- The characters between two places. -/
def between (start stop : Nat) (cs : List Char) : List Char :=
  front (stop - start) (behind start cs)

/-- Nothing is lost where a text is cut. -/
theorem front_append_behind (bytes : Nat) (cs : List Char) :
    front bytes cs ++ behind bytes cs = cs := by
  induction cs generalizing bytes with
  | nil => rfl
  | cons c cs ih =>
    unfold front behind
    split
    · simp [ih]
    · rfl

/-- What is in front of a place in ASCII. -/
theorem front_of_ascii {cs : List Char} (h : ∀ c ∈ cs, c.utf8Size = 1) (n : Nat) :
    front n cs = cs.take n := by
  induction cs generalizing n with
  | nil => simp [front]
  | cons c cs ih =>
    have hc : c.utf8Size = 1 := h c (by simp)
    have ht := ih fun d hd => h d (List.mem_cons_of_mem _ hd)
    cases n with
    | zero => simp [front, hc]
    | succ n => simp [front, hc, ht]

/-- What is behind a place in ASCII. -/
theorem behind_of_ascii {cs : List Char} (h : ∀ c ∈ cs, c.utf8Size = 1) (n : Nat) :
    behind n cs = cs.drop n := by
  induction cs generalizing n with
  | nil => simp [behind]
  | cons c cs ih =>
    have hc : c.utf8Size = 1 := h c (by simp)
    have ht := ih fun d hd => h d (List.mem_cons_of_mem _ hd)
    cases n with
    | zero => simp [behind, hc]
    | succ n => simp [behind, hc, ht]

end WirelessControl.Slice
