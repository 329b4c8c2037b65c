/-!
# Similarity of texts

The Jaro similarity of two texts, between 0 for texts that share nothing and 1 for equal texts, in
double precision.  Equal characters match if their places are less than half the longer text apart;
each character of the first text takes the first match that is still free.  The similarity is the
mean of three shares: of matches in either text, and of matches that stand in the same order in
both, where two misplaced matches count as one exchange.

`nearest?` finds the candidate that is most similar to a text, among those that are similar enough.
-/

namespace Hest.Text

/-- Marks the first unmarked place, from `first` on and before `last`, that holds `c`; the places
are numbered from `i`. -/
def claim (c : Char) (first last : Nat) :
    (i : Nat) → List (Char × Bool) → Option (List (Char × Bool))
  | _, [] => none
  | i, (d, taken) :: rest =>
    if first ≤ i ∧ i < last ∧ c = d ∧ !taken then some ((d, true) :: rest)
    else (claim c first last (i + 1) rest).map ((d, taken) :: ·)

/-- The characters of the first text, numbered from `i`, that match, and the second text with its
matches marked. -/
def matching (reach : Nat) : (i : Nat) → List Char → List (Char × Bool) →
    List Char × List (Char × Bool)
  | _, [], marked => ([], marked)
  | i, c :: cs, marked =>
    match claim c (i - reach) (i + reach + 1) 0 marked with
    | some marked' =>
      let (found, final) := matching reach (i + 1) cs marked'
      (c :: found, final)
    | none => matching reach (i + 1) cs marked

/-- The Jaro similarity of two texts. -/
def similarity (a b : List Char) : Float :=
  if a.isEmpty && b.isEmpty then 1
  else
    let reach := max a.length b.length / 2 - 1
    let (left, marked) := matching reach 0 a (b.map fun c => (c, false))
    let right := (marked.filter (·.2)).map (·.1)
    let misplaced := ((left.zip right).filter fun p => p.1 ≠ p.2).length
    let count := left.length.toFloat
    if left.isEmpty then 0
    else
      (count / a.length.toFloat + count / b.length.toFloat +
        (left.length - misplaced / 2).toFloat / count) / 3

/-- The candidate that is most similar to a text, the last of several, if any is more similar than
seven tenths. -/
def nearest? {α : Type} (name : α → String) (candidates : List α) (text : String) : Option α :=
  let scored := candidates.map fun c => (similarity text.toList (name c).toList, c)
  let best := (scored.filter fun p => p.1 > 0.7).foldl (fun best p =>
    match best with
    | none => some p
    | some q => if p.1 ≥ q.1 then some p else best) none
  best.map (·.2)

end Hest.Text
