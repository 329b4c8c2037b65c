import Hest.Log

/-!
# Actions

An `Act ω α` works on a state of type `ω`: from a state it gives a value, the state afterwards and
the log records it reported, in order.  Actions are functions, so what an action does is read off
its result (`value`, `state`, `log`), and records can only be added.

`focus` runs an action on a part of a larger state, `withLocal` gives an action a state of its own
for as long as it runs.
-/

namespace Hest

/-- What an action leaves behind. -/
structure Effect (ω α : Type) where
  value : α
  state : ω
  log : List Log.Record

/-- An action on a state of type `ω` that gives an `α`. -/
def Act (ω α : Type) : Type := ω → Effect ω α

namespace Act

variable {ω σ α β : Type}

instance : Monad (Act ω) where
  pure a := fun w => ⟨a, w, []⟩
  bind x f := fun w =>
    let first := x w
    let second := f first.value first.state
    ⟨second.value, second.state, first.log ++ second.log⟩

@[simp] theorem pure_apply (a : α) (w : ω) : (pure a : Act ω α) w = ⟨a, w, []⟩ := rfl

@[simp] theorem value_bind (x : Act ω α) (f : α → Act ω β) (w : ω) :
    ((x >>= f) w).value = (f (x w).value (x w).state).value := rfl

@[simp] theorem state_bind (x : Act ω α) (f : α → Act ω β) (w : ω) :
    ((x >>= f) w).state = (f (x w).value (x w).state).state := rfl

@[simp] theorem log_bind (x : Act ω α) (f : α → Act ω β) (w : ω) :
    ((x >>= f) w).log = (x w).log ++ (f (x w).value (x w).state).log := rfl

/-- The state as it is. -/
def get : Act ω ω := fun w => ⟨w, w, []⟩

/-- Replaces the state. -/
def set (w : ω) : Act ω Unit := fun _ => ⟨(), w, []⟩

/-- Changes the state. -/
def modify (f : ω → ω) : Act ω Unit := fun w => ⟨(), f w, []⟩

/-- Reports records. -/
def report (records : List Log.Record) : Act ω Unit := fun w => ⟨(), w, records⟩

/-- Reports one record. -/
def say (level : Log.Level) (component : Log.Component) (message : String) : Act ω Unit :=
  report [⟨level, component, message⟩]

@[simp] theorem get_apply (w : ω) : (get : Act ω ω) w = ⟨w, w, []⟩ := rfl

@[simp] theorem set_apply (v w : ω) : set v w = ⟨(), v, []⟩ := rfl

@[simp] theorem modify_apply (f : ω → ω) (w : ω) : modify f w = ⟨(), f w, []⟩ := rfl

@[simp] theorem report_apply (records : List Log.Record) (w : ω) :
    report records w = ⟨(), w, records⟩ := rfl

@[simp] theorem say_apply (level : Log.Level) (component : Log.Component) (message : String)
    (w : ω) : say level component message w = ⟨(), w, [⟨level, component, message⟩]⟩ := rfl

/-- Runs an action on the part of the state that `part` reads and `put` replaces. -/
def focus (part : ω → σ) (put : σ → ω → ω) (x : Act σ α) : Act ω α := fun w =>
  let e := x (part w)
  ⟨e.value, put e.state w, e.log⟩

/-- Runs an action on the first of two states. -/
def onFirst (x : Act ω α) : Act (ω × σ) α := focus Prod.fst (fun w s => (w, s.2)) x

/-- Runs an action on the second of two states. -/
def onSecond (x : Act σ α) : Act (ω × σ) α := focus Prod.snd (fun w s => (s.1, w)) x

@[simp] theorem value_onFirst (x : Act ω α) (w : ω × σ) : (onFirst x w).value = (x w.1).value :=
  rfl

@[simp] theorem state_onFirst (x : Act ω α) (w : ω × σ) :
    (onFirst x w).state = ((x w.1).state, w.2) := rfl

@[simp] theorem value_onSecond (x : Act σ α) (w : ω × σ) : (onSecond x w).value = (x w.2).value :=
  rfl

@[simp] theorem state_onSecond (x : Act σ α) (w : ω × σ) :
    (onSecond x w).state = (w.1, (x w.2).state) := rfl

/-- Runs an action with one more state of its own, which begins as `start` and is given at the
end. -/
def withLocal (start : σ) (x : Act (ω × σ) α) : Act ω (α × σ) := fun w =>
  let e := x (w, start)
  ⟨(e.value, e.state.2), e.state.1, e.log⟩

@[simp] theorem value_withLocal (start : σ) (x : Act (ω × σ) α) (w : ω) :
    (withLocal start x w).value = ((x (w, start)).value, (x (w, start)).state.2) := rfl

@[simp] theorem state_withLocal (start : σ) (x : Act (ω × σ) α) (w : ω) :
    (withLocal start x w).state = (x (w, start)).state.1 := rfl

end Act

end Hest
