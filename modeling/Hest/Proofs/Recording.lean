import Hest.Act

/-!
# Keeping a record

What an action asks of its surroundings can be read off a run in which the surroundings keep a list
beside their state.

* `Act.recorded` is an action that enters one thing in such a list.
* `Act.Compatible` is a relation between actions that sequencing keeps, so a program keeps it if its
  surroundings do; this is shown once of each program, by going through its steps.
* `Act.Projects` is such a relation: an action with a list beside its state does to the state what
  another one does, and answers and reports the same.
* `Act.Follows` is another, which leaves the records out and reads the state off a larger one in any
  way.
* `Act.Retraced` is a third: the list accounts for all that an action does to a part of its state.
* `Act.Keeps` is a fourth: what holds of the state, the list included, still holds afterwards.
* `Act.Quieter` is a fifth, for surroundings that are muted: the same is done, and part of it is
  reported.
* `Act.Simulates` is a sixth, for a state that stands for another one: the same is done there.
-/

namespace Hest.Act

variable {ω σ ε α β : Type}

/-- Runs an action, then enters what it is to be remembered by in a list. -/
def recorded (x : Act ω α) (entry : α → ε) : Act (ω × List ε) α := do
  let a ← onFirst x
  onSecond (modify (· ++ [entry a]))
  return a

@[simp] theorem value_recorded (x : Act ω α) (entry : α → ε) (s : ω × List ε) :
    (recorded x entry s).value = (x s.1).value := rfl

@[simp] theorem state_recorded (x : Act ω α) (entry : α → ε) (s : ω × List ε) :
    (recorded x entry s).state = ((x s.1).state, s.2 ++ [entry (x s.1).value]) := rfl

/-! ## Relations that programs keep -/

/-- A relation between actions that programs keep: it holds between the same answers and the same
reports, and sequencing keeps it.  Two runs of a program over related surroundings are related. -/
structure Compatible {τ : Type} (R : (α : Type) → Act τ α → Act ω α → Prop) : Prop where
  pure : ∀ {α : Type} (a : α), R α (Pure.pure a) (Pure.pure a)
  report : ∀ records, R Unit (Act.report records) (Act.report records)
  bind : ∀ {α β : Type} {x : Act τ α} {y : Act ω α} {f : α → Act τ β} {g : α → Act ω β},
    R α x y → (∀ a, R β (f a) (g a)) → R β (x >>= f) (y >>= g)

theorem Compatible.say {τ : Type} {R : (α : Type) → Act τ α → Act ω α → Prop} (h : Compatible R)
    (level : Log.Level) (component : Log.Component) (message : String) :
    R Unit (Act.say level component message) (Act.say level component message) := h.report _

/-! ## Runs with and without a record -/

/-- `x` does to the first part of its state what `y` does, with the same value and records. -/
def Projects (x : Act (ω × σ) α) (y : Act ω α) : Prop :=
  ∀ w s, (x (w, s)).value = (y w).value ∧ (x (w, s)).state.1 = (y w).state ∧
    (x (w, s)).log = (y w).log

namespace Projects

theorem onFirst (x : Act ω α) : Projects (Act.onFirst x : Act (ω × σ) α) x :=
  fun _ _ => ⟨rfl, rfl, rfl⟩

theorem recorded (x : Act ω α) (entry : α → ε) : Projects (Act.recorded x entry) x :=
  fun _ _ => ⟨rfl, rfl, List.append_nil _⟩

end Projects

theorem Compatible.projects :
    Compatible fun _ (x : Act (ω × σ) _) (y : Act ω _) => Projects x y where
  pure _ := fun _ _ => ⟨rfl, rfl, rfl⟩
  report _ := fun _ _ => ⟨rfl, rfl, rfl⟩
  bind {α β x y f g} hx hf := by
    intro w s
    obtain ⟨hv, hs, hl⟩ := hx w s
    obtain ⟨hv', hs', hl'⟩ := hf (y w).value (y w).state (x (w, s)).state.2
    simp only [value_bind, state_bind, log_bind, hv, hl, ← hs] at hv' hs' hl' ⊢
    exact ⟨hv', hs', by rw [hl']⟩

/-- `x` does to a part of its state what `y` does, with the same value. -/
def Follows {τ : Type} (part : τ → ω) (x : Act τ α) (y : Act ω α) : Prop :=
  ∀ s, (x s).value = (y (part s)).value ∧ part (x s).state = (y (part s)).state

theorem Projects.follows {x : Act (ω × σ) α} {y : Act ω α} (h : Projects x y) :
    Follows Prod.fst x y := by
  rintro ⟨w, s⟩
  obtain ⟨hv, hs, -⟩ := h w s
  exact ⟨hv, hs⟩

theorem Compatible.follows {τ : Type} (part : τ → ω) :
    Compatible fun _ (x : Act τ _) (y : Act ω _) => Follows part x y where
  pure _ := fun _ => ⟨rfl, rfl⟩
  report _ := fun _ => ⟨rfl, rfl⟩
  bind {α β x y f g} hx hf := by
    intro s
    obtain ⟨hv, hs⟩ := hx s
    have hnext := hf (y (part s)).value (x s).state
    rw [hs] at hnext
    simpa only [value_bind, state_bind, hv] using hnext

/-! ## What a record accounts for -/

/-- `part` reads a state and a list off the state of `x`.  What `x` does to both is told by the list
alone: from the state before, each thing that is entered leads one state further, by `next`. -/
def Retraced {τ : Type} (part : τ → ω × List ε) (next : ω → ε → ω) (x : Act τ α) : Prop :=
  ∀ s, ∃ entered, part (x s).state = (entered.foldl next (part s).1, (part s).2 ++ entered)

namespace Retraced

variable {τ : Type} {part : τ → ω × List ε} {next : ω → ε → ω}

/-- An action that leaves the part alone enters nothing. -/
theorem still {x : Act τ α} (h : ∀ s, part (x s).state = part s) : Retraced part next x :=
  fun s => ⟨[], by simp [h]⟩

theorem recorded {x : Act ω α} {entry : α → ε} (h : ∀ w, next w (entry (x w).value) = (x w).state) :
    Retraced id next (Act.recorded x entry) :=
  fun s => ⟨[entry (x s.1).value], by simp [h]⟩

end Retraced

theorem Compatible.retraced {τ : Type} (part : τ → ω × List ε) (next : ω → ε → ω) :
    Compatible fun _ (x : Act τ _) (_ : Act τ _) => Retraced part next x where
  pure _ := .still fun _ => rfl
  report _ := .still fun _ => rfl
  bind {α β x y f g} hx hf := by
    intro s
    obtain ⟨first, hfirst⟩ := hx s
    obtain ⟨second, hsecond⟩ := hf (x s).value (x s).state
    refine ⟨first ++ second, ?_⟩
    rw [state_bind, hsecond, hfirst, List.foldl_append, List.append_assoc]

/-! ## What holds of every entry -/

/-- If `I` holds of the state, it holds after `x`. -/
def Keeps (I : ω → Prop) (x : Act ω α) : Prop := ∀ w, I w → I (x w).state

theorem Keeps.recorded {P : ε → Prop} {x : Act ω α} {entry : α → ε}
    (h : ∀ w, P (entry (x w).value)) :
    Keeps (fun s => ∀ e ∈ s.2, P e) (Act.recorded x entry) := by
  intro s hs e he
  rcases List.mem_append.1 he with he | he
  · exact hs e he
  · rw [List.mem_singleton.1 he]
    exact h s.1

theorem Compatible.keeps (I : ω → Prop) :
    Compatible fun _ (x : Act ω _) (_ : Act ω _) => Keeps I x where
  pure _ := fun _ h => h
  report _ := fun _ h => h
  bind hx hf := fun w h => hf _ _ (hx w h)

/-! ## What is reported -/

/-- Runs an action and keeps none of its records. -/
def muted (x : Act ω α) : Act ω α := fun w => ⟨(x w).value, (x w).state, []⟩

/-- `x` does what `y` does, and reports part of what `y` reports. -/
def Quieter (x y : Act ω α) : Prop :=
  ∀ w, (x w).value = (y w).value ∧ (x w).state = (y w).state ∧ (x w).log.Sublist (y w).log

theorem Quieter.muted (x : Act ω α) : Quieter (Act.muted x) x :=
  fun _ => ⟨rfl, rfl, List.nil_sublist _⟩

theorem Compatible.quieter : Compatible fun _ (x : Act ω _) (y : Act ω _) => Quieter x y where
  pure _ := fun _ => ⟨rfl, rfl, .refl _⟩
  report _ := fun _ => ⟨rfl, rfl, .refl _⟩
  bind {α β x y f g} hx hf := by
    intro w
    obtain ⟨hv, hs, hl⟩ := hx w
    obtain ⟨hv', hs', hl'⟩ := hf (y w).value (y w).state
    simp only [value_bind, state_bind, log_bind, hv, hs]
    exact ⟨hv', hs', hl.append hl'⟩

/-! ## States that stand for others -/

/-- From the state that stands for another one by `rep`, `x` does what `y` does from that one: with
the same value and records, to the state that stands for the new one. -/
def Simulates {τ : Type} (rep : ω → τ) (x : Act τ α) (y : Act ω α) : Prop :=
  ∀ w, x (rep w) = ⟨(y w).value, rep (y w).state, (y w).log⟩

theorem Compatible.simulates {τ : Type} (rep : ω → τ) :
    Compatible fun _ (x : Act τ _) (y : Act ω _) => Simulates rep x y where
  pure _ := fun _ => rfl
  report _ := fun _ => rfl
  bind {α β x y f g} hx hf := by
    intro w
    have hnext := hf (y w).value (y w).state
    simp only [Bind.bind, hx w, hnext]

namespace Simulates

variable {τ : Type} {rep : ω → τ}

theorem onFirst {x : Act τ α} {y : Act ω α} (h : Simulates rep x y) :
    Simulates (Prod.map rep id : ω × σ → τ × σ) (Act.onFirst x) (Act.onFirst y) := by
  rintro ⟨w, s⟩
  simp only [Act.onFirst, focus, Prod.map_apply, id_eq, h w]

end Simulates

end Hest.Act
