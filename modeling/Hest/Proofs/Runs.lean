import Hest.Act

/-!
# Runs

A run does something with each of a list of items, such as calls, in order, and gives what came of
each; the state is carried along.

`invariant_forEach` is the induction over a run: what one more item keeps, a whole run keeps.
Where only the last event of some kind counts, `latest_concat` says what one more event changes.
-/

namespace Hest.Act

variable {κ ω ε : Type} {f : κ → Act ω ε}

/-- Does something with each item in order and gives what came of each. -/
def forEach (f : κ → Act ω ε) : List κ → Act ω (List ε)
  | [] => pure []
  | x :: xs => do
    let e ← f x
    let es ← forEach f xs
    return e :: es

/-- Of two runs, one after the other, the second goes on with the state of the first. -/
theorem state_forEach_append (xs ys : List κ) (w : ω) :
    (forEach f (xs ++ ys) w).state = (forEach f ys (forEach f xs w).state).state := by
  induction xs generalizing w with
  | nil => rfl
  | cons x xs ih => exact ih _

/-- **What is kept along a run.**  `P` tells of the items so far, of what came of them and of the
state. -/
theorem invariant_forEach {P : List κ → List ε → ω → Prop}
    (hstep : ∀ {xs es w} (x : κ), P xs es w → P (xs ++ [x]) (es ++ [(f x w).value]) (f x w).state)
    {w : ω} (h : P [] [] w) (xs : List κ) :
    P xs (forEach f xs w).value (forEach f xs w).state := by
  -- the rest of a run goes on from what was kept so far
  have hrest (xs : List κ) : ∀ {ys es w}, P ys es w →
      P (ys ++ xs) (es ++ (forEach f xs w).value) (forEach f xs w).state := by
    induction xs with
    | nil => intro ys es w h; simpa [forEach] using h
    | cons x xs ih => intro ys es w h; simpa [forEach] using ih (hstep x h)
  exact hrest xs h

/-! ## The last event of a kind -/

section
variable {P Q : ε → Prop} {history : List ε} {e : ε}

/-- Some event has `P`, and none since has `Q`. -/
def Latest (P Q : ε → Prop) (history : List ε) : Prop :=
  ∃ before e after, history = before ++ e :: after ∧ P e ∧ ∀ e' ∈ after, ¬Q e'

theorem latest_concat : Latest P Q (history ++ [e]) ↔ P e ∨ (Latest P Q history ∧ ¬Q e) := by
  constructor
  · rintro ⟨before, first, after, heq, hP, hlater⟩
    -- the event with `P` is the new one, or the new one is later
    rcases List.eq_nil_or_concat after with rfl | ⟨after, last, rfl⟩
    · obtain rfl : e = first := List.singleton_inj.1 (List.append_inj' heq rfl).2
      exact .inl hP
    · have heq' : history ++ [e] = (before ++ first :: after) ++ [last] := by simpa using heq
      obtain ⟨rfl, hlast⟩ := List.append_inj' heq' rfl
      obtain rfl := List.singleton_inj.1 hlast
      exact .inr ⟨⟨before, first, after, rfl, hP, fun e' he' => hlater e' (by simp [he'])⟩,
        hlater e (by simp)⟩
  · rintro (hP | ⟨⟨before, first, after, rfl, hP, hlater⟩, hQ⟩)
    · exact ⟨history, e, [], rfl, hP, by simp⟩
    · refine ⟨before, first, after ++ [e], by simp, hP, fun e' he' => ?_⟩
      rcases List.mem_append.1 he' with hmem | hmem
      · exact hlater e' hmem
      · obtain rfl := List.mem_singleton.1 hmem
        exact hQ

end

end Hest.Act
