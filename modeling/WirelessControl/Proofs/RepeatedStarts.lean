import WirelessControl.Daemon.Bootstrap

/-!
# Starting again in the same process

A process may start the daemon any number of times. The starts have nothing to do with each other
but for the log, which is set up once. Until then every start that comes so far tries to, and one
whose filter is none fails there and leaves things as they were; afterwards no filter is looked at,
and no start fails there any more.

What a start comes to is said by what its stages have against it, each on its own. Whether the log
is set up is said by the starts before: one of them has loaded a consistent configuration with a
filter.

## Main definitions

* `Attempt` — what a start meets: the configuration that is loaded, and what opening comes to
* `Attempt.faults` — what the stages have against it, in order
* `Attempt.Course` — what becomes of it
* `Attempt.Exit` — the ways in which a start ends
* `Attempt.starts`, `Attempt.subscriberAfter` — the starts of a process, and who has the log then

## Main results

* `Attempt.exit_start`, `Attempt.Exit.course`, `Attempt.Exit.subscriber_eq` — one start
* `Attempt.starts_getElem?`, `Attempt.subscriberAfter_eq` — all starts
* `Attempt.setUpBy_iff` — which start sets the log up
* `Attempt.repeated_starts` — what holds of every start of a process
-/

namespace WirelessControl

/-- What a start of the daemon meets. -/
structure Attempt (α : Type) where
  /-- What loading the configuration gives. -/
  loaded : Except LoadError Config
  /-- What opening the engine gives. -/
  opener : Config → Except EngineError α

namespace Attempt

variable {α : Type}

/-- The start of the daemon. -/
def start (check : FilterCheck) (s : LogSubscriber) (a : Attempt α) : Bootstrap α :=
  Bootstrap.start check a.loaded a.opener s

/-! ### The stages -/

/-- Why the configuration is not loaded. -/
def loadFault (a : Attempt α) : Option BootstrapError :=
  match a.loaded with
  | .ok _ => none
  | .error e => some (.configuration e)

/-- What is inconsistent about the configuration. -/
def checkFault (a : Attempt α) : Option BootstrapError :=
  match a.loaded with
  | .ok c => c.violation?.map .invalid
  | .error _ => none

/-- Why the log cannot be set up. A log that is set up stays. -/
def logFault (check : FilterCheck) (isSetUp : Bool) (a : Attempt α) : Option BootstrapError :=
  match a.loaded with
  | .ok c =>
    if isSetUp then none
    else (check c.effectiveLogFilter).map fun message =>
      .telemetry (.noFilter c.effectiveLogFilter message)
  | .error _ => none

/-- Why the engine cannot be opened. -/
def openFault (a : Attempt α) : Option BootstrapError :=
  match a.loaded with
  | .ok c =>
    match a.opener c with
    | .ok _ => none
    | .error e => some (.engine e)
  | .error _ => none

/-- What the stages have against a start, in order. -/
def faults (check : FilterCheck) (isSetUp : Bool) (a : Attempt α) : List (Option BootstrapError) :=
  [a.loadFault, a.checkFault, a.logFault check isSetUp, a.openFault]

/-- What the first stage that fails has against a start. -/
def firstFault (check : FilterCheck) (isSetUp : Bool) (a : Attempt α) : Option BootstrapError :=
  (a.faults check isSetUp).findSome? id

/-- A start comes as far as the log, and its filter is one. -/
def hasFilter (check : FilterCheck) (a : Attempt α) : Bool :=
  match a.loaded with
  | .ok c => c.violation?.isNone && (check c.effectiveLogFilter).isNone
  | .error _ => false

/-- How a start is reported when it is over. -/
def report : Except BootstrapError (Config × α) → HealthEvent
  | .ok (c, _) => .bootstrapSucceeded c
  | .error e => .bootstrapFailed e

/-- What becomes of a start. -/
structure Course (check : FilterCheck) (isSetUp : Bool) (a : Attempt α) (b : Bootstrap α) :
    Prop where
  /-- It is reported when it begins and when it is over, and nothing else is. -/
  events : b.events = [.bootstrapStarting, report b.result]
  /-- It fails when a stage does, and for the reason of the first one. -/
  failed : ∀ e, b.result = .error e ↔ a.firstFault check isSetUp = some e
  /-- It succeeds with the configuration and the engine when no stage fails. -/
  succeeded : ∀ c engine, b.result = .ok (c, engine) ↔
    a.firstFault check isSetUp = none ∧ a.loaded = .ok c ∧ a.opener c = .ok engine
  /-- The engine is to be opened when the stages before do not fail. -/
  asked : b.asked = true ↔
    a.loadFault = none ∧ a.checkFault = none ∧ a.logFault check isSetUp = none

/-! ### One start -/

/-- The ways in which a start ends, by who has the log before. -/
inductive Exit (check : FilterCheck) (a : Attempt α) : LogSubscriber → Bootstrap α → Prop
  /-- There is no configuration. -/
  | unloaded {e : LoadError} (s : LogSubscriber) (hloaded : a.loaded = .error e) :
      Exit check a s (.failed (.configuration e) false s)
  /-- The configuration is inconsistent. -/
  | inconsistent {c : Config} {v : ConfigViolation} (s : LogSubscriber) (hloaded : a.loaded = .ok c)
      (hviolation : c.violation? = some v) : Exit check a s (.failed (.invalid v) false s)
  /-- The filter is none, and the log has not been set up. -/
  | unfiltered {c : Config} {message : String} (hloaded : a.loaded = .ok c)
      (hconsistent : c.violation? = none) (hfilter : check c.effectiveLogFilter = some message) :
      Exit check a .nobody
        (.failed (.telemetry (.noFilter c.effectiveLogFilter message)) false .nobody)
  /-- There is no engine. -/
  | unopened {c : Config} {e : EngineError} {s : LogSubscriber} (hloaded : a.loaded = .ok c)
      (hconsistent : c.violation? = none)
      (hlog : s = .own ∨ s = .nobody ∧ check c.effectiveLogFilter = none)
      (hopener : a.opener c = .error e) : Exit check a s (.failed (.engine e) true .own)
  /-- The engine is open. -/
  | opened {c : Config} {engine : α} {s : LogSubscriber} (hloaded : a.loaded = .ok c)
      (hconsistent : c.violation? = none)
      (hlog : s = .own ∨ s = .nobody ∧ check c.effectiveLogFilter = none)
      (hopener : a.opener c = .ok engine) :
      Exit check a s ⟨.ok (c, engine), [.bootstrapStarting, .bootstrapSucceeded c], true, .own⟩

variable {check : FilterCheck} {s : LogSubscriber} {a : Attempt α} {b : Bootstrap α}

/-- Behind the log only the engine is left. -/
theorem exit_of_logged {c : Config} (hloaded : a.loaded = .ok c) (hconsistent : c.violation? = none)
    (hlog : s = .own ∨ s = .nobody ∧ check c.effectiveLogFilter = none) :
    a.Exit check s (a.start check s) := by
  have hinstall : s.install check c = (.ok (), .own) := by
    rcases hlog with rfl | ⟨rfl, hfilter⟩
    · rfl
    · simp [LogSubscriber.install, hfilter]
  have hstart : a.start check s = Bootstrap.openEngine check c a.opener s := by
    simp only [start, Bootstrap.start, hloaded, hconsistent]
  cases hopener : a.opener c with
  | error e =>
    have hfailed : a.start check s = .failed (.engine e) true .own := by
      simp only [hstart, Bootstrap.openEngine, hinstall, hopener]
    exact hfailed ▸ .unopened hloaded hconsistent hlog hopener
  | ok engine =>
    have hopened : a.start check s =
        ⟨.ok (c, engine), [.bootstrapStarting, .bootstrapSucceeded c], true, .own⟩ := by
      simp only [hstart, Bootstrap.openEngine, hinstall, hopener]
    exact hopened ▸ .opened hloaded hconsistent hlog hopener

/-- **Every start ends in one of these ways,** unless somebody else has the log. -/
theorem exit_start (hs : s ≠ .foreign) (a : Attempt α) : a.Exit check s (a.start check s) := by
  cases hloaded : a.loaded with
  | error e =>
    have hstart : a.start check s = .failed (.configuration e) false s := by
      simp only [start, Bootstrap.start, hloaded]
    exact hstart ▸ .unloaded s hloaded
  | ok c =>
    cases hviolation : c.violation? with
    | some v =>
      have hstart : a.start check s = .failed (.invalid v) false s := by
        simp only [start, Bootstrap.start, hloaded, hviolation]
      exact hstart ▸ .inconsistent s hloaded hviolation
    | none =>
      cases s with
      | own => exact exit_of_logged hloaded hviolation (.inl rfl)
      | foreign => exact absurd rfl hs
      | nobody =>
        cases hfilter : check c.effectiveLogFilter with
        | none => exact exit_of_logged hloaded hviolation (.inr ⟨rfl, hfilter⟩)
        | some message =>
          have hstart : a.start check .nobody =
              .failed (.telemetry (.noFilter c.effectiveLogFilter message)) false .nobody := by
            simp only [start, Bootstrap.start, hloaded, hviolation, Bootstrap.openEngine,
              LogSubscriber.install, hfilter]
          exact hstart ▸ .unfiltered hloaded hviolation hfilter

/-- A log that is set up stays. -/
theorem logFault_true (check : FilterCheck) (a : Attempt α) : a.logFault check true = none := by
  rw [logFault]
  split <;> rfl

theorem logFault_of_logged {c : Config} (hloaded : a.loaded = .ok c)
    (hlog : s = .own ∨ s = .nobody ∧ check c.effectiveLogFilter = none) :
    a.logFault check (s = .own) = none := by
  rcases hlog with rfl | ⟨rfl, hfilter⟩
  · exact logFault_true check a
  · simp [logFault, hloaded, hfilter]

namespace Exit

/-- A start fails for what the first stage that fails has against it. -/
theorem firstFault_eq (h : a.Exit check s b) : a.firstFault check (s = .own) =
    match b.result with
    | .ok _ => none
    | .error e => some e := by
  rw [firstFault, faults]
  cases h with
  | unloaded s hloaded => simp [Bootstrap.failed, loadFault, hloaded]
  | inconsistent s hloaded hviolation =>
    simp [Bootstrap.failed, loadFault, checkFault, hloaded, hviolation]
  | unfiltered hloaded hconsistent hfilter =>
    simp [Bootstrap.failed, loadFault, checkFault, logFault, hloaded, hconsistent, hfilter]
  | unopened hloaded hconsistent hlog hopener =>
    simp [Bootstrap.failed, loadFault, checkFault, logFault_of_logged hloaded hlog, openFault,
      hloaded, hconsistent, hopener]
  | opened hloaded hconsistent hlog hopener =>
    simp [loadFault, checkFault, logFault_of_logged hloaded hlog, openFault, hloaded, hconsistent,
      hopener]

/-- The engine is to be opened when nothing is against the stages before. -/
theorem asked_iff (h : a.Exit check s b) : b.asked = true ↔
    a.loadFault = none ∧ a.checkFault = none ∧ a.logFault check (s = .own) = none := by
  cases h with
  | unloaded s hloaded => simp [Bootstrap.failed, loadFault, hloaded]
  | inconsistent s hloaded hviolation => simp [Bootstrap.failed, checkFault, hloaded, hviolation]
  | unfiltered hloaded hconsistent hfilter => simp [Bootstrap.failed, logFault, hloaded, hfilter]
  | unopened hloaded hconsistent hlog =>
    simp [Bootstrap.failed, loadFault, checkFault, logFault_of_logged hloaded hlog, hloaded,
      hconsistent]
  | opened hloaded hconsistent hlog =>
    simp [loadFault, checkFault, logFault_of_logged hloaded hlog, hloaded, hconsistent]

/-- A start succeeds with what was loaded and opened. -/
theorem of_ok (h : a.Exit check s b) {c : Config} {engine : α} (hb : b.result = .ok (c, engine)) :
    a.loaded = .ok c ∧ a.opener c = .ok engine := by
  cases h with
  | opened hloaded _ _ hopener =>
    cases hb
    exact ⟨hloaded, hopener⟩
  | _ => cases hb

/-- **What becomes of a start.** -/
theorem course (h : a.Exit check s b) : a.Course check (s = .own) b := by
  have hfault := h.firstFault_eq
  refine ⟨by cases h <;> rfl, fun e => ?_, fun c engine => ⟨fun hb => ?_, ?_⟩, h.asked_iff⟩
  · rw [hfault]
    cases b.result <;> simp
  · exact ⟨by rw [hfault, hb], h.of_ok hb⟩
  · rintro ⟨hnone, hc, hengine⟩
    cases hresult : b.result with
    | error e =>
      rw [hfault, hresult] at hnone
      cases hnone
    | ok found =>
      obtain ⟨hc', hengine'⟩ := h.of_ok hresult
      cases hc.symm.trans hc'
      cases hengine.symm.trans hengine'
      rfl

/-- **Who has the log after a start:** the daemon, if it had it before or the start comes that far
with a filter. -/
theorem subscriber_eq (hs : s ≠ .foreign) (h : a.Exit check s b) :
    b.subscriber = if s = .own ∨ a.hasFilter check then .own else .nobody := by
  have hkept : s = if s = .own then .own else .nobody := by cases s <;> simp_all
  cases h with
  | unloaded s hloaded => simpa [Bootstrap.failed, hasFilter, hloaded] using hkept
  | inconsistent s hloaded hviolation =>
    simpa [Bootstrap.failed, hasFilter, hloaded, hviolation] using hkept
  | unfiltered hloaded hconsistent hfilter =>
    simp [Bootstrap.failed, hasFilter, hloaded, hconsistent, hfilter]
  | unopened hloaded hconsistent hlog hopener =>
    rcases hlog with rfl | ⟨rfl, hfilter⟩
    · simp [Bootstrap.failed]
    · simp [Bootstrap.failed, hasFilter, hloaded, hconsistent, hfilter]
  | opened hloaded hconsistent hlog hopener =>
    rcases hlog with rfl | ⟨rfl, hfilter⟩
    · simp
    · simp [hasFilter, hloaded, hconsistent, hfilter]

/-- A start that fails at the log finds it with nobody, and leaves it there. -/
theorem nobody_of_telemetry (h : a.Exit check s b) {e : TelemetryError}
    (he : b.result = .error (.telemetry e)) : s = .nobody ∧ b.subscriber = .nobody := by
  cases h with
  | unfiltered => exact ⟨rfl, rfl⟩
  | _ => cases he

end Exit

/-! ### All starts -/

variable (check)

/-- The starts of a process, one behind the other. -/
def starts : LogSubscriber → List (Attempt α) → List (Bootstrap α)
  | _, [] => []
  | s, a :: attempts => a.start check s :: starts (a.start check s).subscriber attempts

/-- Who has the log after all starts. -/
def subscriberAfter : LogSubscriber → List (Attempt α) → LogSubscriber
  | s, [] => s
  | s, a :: attempts => subscriberAfter (a.start check s).subscriber attempts

/-- Whether one of several starts comes as far as the log with a filter. -/
def setsUp (attempts : List (Attempt α)) : Bool := attempts.any (hasFilter check)

variable {check} {attempts : List (Attempt α)}

/-- Each start finds the log as the starts before it left it. -/
theorem starts_getElem? (s : LogSubscriber) (attempts : List (Attempt α)) (n : Nat) :
    (starts check s attempts)[n]? =
      attempts[n]?.map (start check (subscriberAfter check s (attempts.take n))) := by
  induction attempts generalizing s n with
  | nil => rfl
  | cons a attempts ih =>
    cases n with
    | zero => rfl
    | succ n => exact ih _ n

theorem subscriberAfter_append (s : LogSubscriber) (attempts more : List (Attempt α)) :
    subscriberAfter check s (attempts ++ more) =
      subscriberAfter check (subscriberAfter check s attempts) more := by
  induction attempts generalizing s with
  | nil => rfl
  | cons a attempts ih => exact ih _

theorem subscriberAfter_take_succ {n : Nat} {a : Attempt α} (ha : attempts[n]? = some a)
    (s : LogSubscriber) : subscriberAfter check s (attempts.take (n + 1)) =
      (a.start check (subscriberAfter check s (attempts.take n))).subscriber := by
  rw [List.take_add_one, ha, Option.toList_some, subscriberAfter_append]
  rfl

theorem length_starts (s : LogSubscriber) (attempts : List (Attempt α)) :
    (starts check s attempts).length = attempts.length := by
  induction attempts generalizing s with
  | nil => rfl
  | cons a attempts ih => exact congrArg (· + 1) (ih _)

/-- **Who has the log after all starts:** the daemon, if one of them comes that far with a filter.
-/
theorem subscriberAfter_eq (hs : s ≠ .foreign) (attempts : List (Attempt α)) :
    subscriberAfter check s attempts =
      if s = .own ∨ setsUp check attempts then .own else .nobody := by
  induction attempts generalizing s with
  | nil => cases s <;> simp_all [subscriberAfter, setsUp]
  | cons a attempts ih =>
    have hone : (a.start check s).subscriber =
        if s = .own ∨ a.hasFilter check then .own else .nobody := (exit_start hs a).subscriber_eq hs
    have hours : (a.start check s).subscriber ≠ .foreign := by
      rw [hone]
      split <;> nofun
    have hown : (a.start check s).subscriber = .own ↔ s = .own ∨ a.hasFilter check := by
      rw [hone]
      split <;> simp_all
    rw [subscriberAfter, ih hours]
    simp only [hown, setsUp, List.any_cons, Bool.or_eq_true, or_assoc]

theorem subscriberAfter_nobody (attempts : List (Attempt α)) :
    subscriberAfter check .nobody attempts = if setsUp check attempts then .own else .nobody := by
  simpa using subscriberAfter_eq (s := .nobody) nofun attempts

/-- The log is set up by a start: nobody has it before, and the daemon has it afterwards. -/
def SetUpBy (check : FilterCheck) (attempts : List (Attempt α)) (n : Nat) : Prop :=
  subscriberAfter check .nobody (attempts.take n) = .nobody ∧
    subscriberAfter check .nobody (attempts.take (n + 1)) = .own

/-- **The log is set up by the first start that comes that far with a filter.** -/
theorem setUpBy_iff {n : Nat} : SetUpBy check attempts n ↔
    (∃ a, attempts[n]? = some a ∧ a.hasFilter check) ∧
      ∀ a ∈ attempts.take n, ¬ a.hasFilter check := by
  have hnext : setsUp check (attempts.take (n + 1)) =
      (setsUp check (attempts.take n) || attempts[n]?.any (hasFilter check)) := by
    rw [setsUp, List.take_add_one, List.any_append, ← setsUp]
    cases attempts[n]? <;> simp
  have hbefore : setsUp check (attempts.take n) = false ↔
      ∀ a ∈ attempts.take n, ¬ a.hasFilter check := by
    simp [setsUp]
  rw [SetUpBy, subscriberAfter_nobody, subscriberAfter_nobody, hnext, ← hbefore]
  cases setsUp check (attempts.take n) <;> simp [Option.any_eq_true]

/-- It is set up once. -/
theorem SetUpBy.eq {n n' : Nat} (h : SetUpBy check attempts n) (h' : SetUpBy check attempts n') :
    n = n' := by
  have hle {i j : Nat} (hi : SetUpBy check attempts i) (hj : SetUpBy check attempts j) : j ≤ i := by
    obtain ⟨⟨a, ha, hfilter⟩, -⟩ := setUpBy_iff.1 hi
    refine Nat.le_of_not_lt fun hlt => (setUpBy_iff.1 hj).2 a ?_ hfilter
    exact List.mem_of_getElem? (i := i) (by rw [List.getElem?_take_of_lt hlt, ha])
  exact Nat.le_antisymm (hle h' h) (hle h h')

/-- It is set up when one of the starts comes that far with a filter, whatever came before. -/
theorem exists_setUpBy {a : Attempt α} (ha : a ∈ attempts) (hfilter : a.hasFilter check) :
    ∃ n, SetUpBy check attempts n := by
  have hlt : attempts.findIdx (hasFilter check) < attempts.length :=
    List.findIdx_lt_length.2 ⟨a, ha, hfilter⟩
  refine ⟨_, setUpBy_iff.2 ⟨⟨_, List.getElem?_eq_getElem hlt, List.findIdx_getElem⟩, ?_⟩⟩
  intro a' ha'
  obtain ⟨i, hi, rfl⟩ := List.mem_take_iff_getElem.1 ha'
  exact ne_true_of_eq_false (List.not_of_lt_findIdx (Nat.lt_of_lt_of_le hi (Nat.min_le_left _ _)))

/-- **Starting again in the same process.** Whatever is checked for a filter and whatever the starts
of a process meet, if nobody else takes the log: each start is reported when it begins and when it
is over, fails for the reason of the first stage that fails, and asks for the engine when no stage
before that fails. The log is set up once at most, by the first start that comes that far with a
filter, and it is set up if there is one. A start that fails there leaves the log to nobody. Once
the log is set up, no start fails there, whatever its filter is: it asks for the engine when it has
a consistent configuration. -/
theorem repeated_starts (check : FilterCheck) (attempts : List (Attempt α)) :
    let subscriber n := subscriberAfter check .nobody (attempts.take n)
    (starts check .nobody attempts).length = attempts.length ∧
    (∀ n a b, attempts[n]? = some a → (starts check .nobody attempts)[n]? = some b →
      b.subscriber = subscriber (n + 1) ∧
      a.Course check (setsUp check (attempts.take n)) b ∧
      (∀ e, b.result = .error (.telemetry e) →
        subscriber n = .nobody ∧ subscriber (n + 1) = .nobody) ∧
      (subscriber n = .own → (∀ e, b.result ≠ .error (.telemetry e)) ∧
        (b.asked = true ↔ a.loadFault = none ∧ a.checkFault = none))) ∧
    (∀ n, SetUpBy check attempts n ↔ (∃ a, attempts[n]? = some a ∧ a.hasFilter check) ∧
      ∀ a ∈ attempts.take n, ¬ a.hasFilter check) ∧
    (∀ n n', SetUpBy check attempts n → SetUpBy check attempts n' → n = n') ∧
    ((∃ a ∈ attempts, a.hasFilter check) → ∃ n, SetUpBy check attempts n) ∧
    ∀ n, subscriber n = if setsUp check (attempts.take n) then .own else .nobody := by
  intro subscriber
  have hsubscriber (n : Nat) : subscriber n =
      if setsUp check (attempts.take n) then .own else .nobody := subscriberAfter_nobody _
  refine ⟨length_starts _ _, fun n a b ha hb => ?_, fun n => setUpBy_iff,
    fun n n' => SetUpBy.eq, fun ⟨a, ha, hfilter⟩ => exists_setUpBy ha hfilter, hsubscriber⟩
  obtain rfl : b = a.start check (subscriber n) := by
    rw [starts_getElem?, ha] at hb
    exact (Option.some.inj hb).symm
  have hown : decide (subscriber n = .own) = setsUp check (attempts.take n) := by
    rw [hsubscriber]
    cases setsUp check (attempts.take n) <;> rfl
  have hours : subscriber n ≠ .foreign := by
    rw [hsubscriber]
    cases setsUp check (attempts.take n) <;> nofun
  have hexit : a.Exit check (subscriber n) (a.start check (subscriber n)) := exit_start hours a
  have hcourse := hown ▸ hexit.course
  have hafter : (a.start check (subscriber n)).subscriber = subscriber (n + 1) :=
    (subscriberAfter_take_succ ha .nobody).symm
  refine ⟨hafter, hcourse, fun e he => ?_, fun hset => ⟨fun e he => ?_, ?_⟩⟩
  · exact hafter ▸ hexit.nobody_of_telemetry he
  · rw [(hexit.nobody_of_telemetry he).1] at hset
    cases hset
  · have hasked := hcourse.asked
    rw [← hown, decide_eq_true hset] at hasked
    simpa [logFault_true] using hasked

/-- A check that knows one filter that is none. -/
def refuseBrackets : FilterCheck := fun filter => if filter = "[" then some "unclosed" else none

/-- Four starts: with a filter that is none, with one slot for both channels, with the defaults, and
with the first filter again. The engine is open each time that it is to be opened. -/
def fourAttempts : List (Attempt Unit) :=
  [⟨.ok { logFilter := "[" }, fun _ => .ok ()⟩, ⟨.ok { eventPortSlot := 644 }, fun _ => .ok ()⟩,
    ⟨.ok {}, fun _ => .ok ()⟩, ⟨.ok { logFilter := "[" }, fun _ => .ok ()⟩]

/-- The first two starts fail, the first of them at the log; the third one and no other sets the log
up, and the last one succeeds with the filter of the first. -/
theorem repeated_starts_fourAttempts :
    let results := starts refuseBrackets .nobody fourAttempts
    let subscriber n := subscriberAfter refuseBrackets .nobody (fourAttempts.take n)
    results.length = 4 ∧
      (∃ b, results[0]? = some b ∧ b.result = .error (.telemetry (.noFilter "[" "unclosed")) ∧
        subscriber 0 = .nobody ∧ subscriber 1 = .nobody) ∧
      (SetUpBy refuseBrackets fourAttempts 2 ∧
        ∀ n, SetUpBy refuseBrackets fourAttempts n → n = 2) ∧
      ∃ a b, fourAttempts[3]? = some a ∧ results[3]? = some b ∧ subscriber 3 = .own ∧
        a.hasFilter refuseBrackets = false ∧ b.asked = true := by
  intro results subscriber
  obtain ⟨hlength, heach, hset, honce, -, -⟩ := repeated_starts refuseBrackets fourAttempts
  obtain ⟨-, -, hfirst, -⟩ := heach 0 _ _ rfl rfl
  have hthird : SetUpBy refuseBrackets fourAttempts 2 :=
    (hset 2).2 ⟨⟨_, rfl, by decide⟩, by decide⟩
  have hown : subscriber 3 = .own := hthird.2
  obtain ⟨-, -, -, hlast⟩ := heach 3 _ _ rfl rfl
  exact ⟨hlength, ⟨_, rfl, rfl, hfirst _ rfl⟩, ⟨hthird, fun n hn => honce n 2 hn hthird⟩,
    _, _, rfl, rfl, hown, by decide, (hlast hown).2.2 ⟨rfl, by decide⟩⟩

end Attempt

end WirelessControl
