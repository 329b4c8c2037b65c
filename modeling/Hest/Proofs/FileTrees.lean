import Hest.Files.Tree

/-!
# What is written to files

`Files.Faithful` is what a program relies on that works with files: reading changes nothing, and a
file that was written is read back, while everything else stays as it was.  Files may stand at
places of any kind, and several paths may lead to one place.

File trees are faithful (`FileTree.faithful`): a file is only put where a walk ends, so the walk
there is the same afterwards, up to the last directory (`walk_to_directory`) and in its last step
(`step_target`).
-/

namespace Hest

variable {ω ι : Type}

namespace Files

/-- From `w` to `w'` the file at a path got its content, and nothing else changed; `look` tells what
stands at a place. -/
structure Wrote (files : Files ω) (look : ω → ι → Option Node) (path : String) (content : Bytes)
    (w w' : ω) : Prop where
  read_back : (files.read path w').value = .ok content
  only : ∃ place, look w' place = some (.file content) ∧
    ∀ other, other ≠ place → look w' other = look w other

/-- Reading changes nothing, and writing changes one file. -/
structure Faithful (files : Files ω) (look : ω → ι → Option Node) : Prop where
  read_state : ∀ path w, (files.read path w).state = w
  wrote : ∀ path content w, (files.write path content w).value = .ok () →
    files.Wrote look path content w (files.write path content w).state

end Files

namespace FileTree

variable {t : FileTree}

/-! ## What a file changes -/

theorem lookup_replace (nodes : List (Place × Node)) (p q : Place) (n : Node) :
    (nodes.map fun e => if e.1 = p then (p, n) else e).lookup q =
      if q = p then (nodes.lookup p).map fun _ => n else nodes.lookup q := by
  induction nodes with
  | nil => simp
  | cons e es ih =>
    obtain ⟨k, v⟩ := e
    by_cases hk : k = p
    · subst hk
      by_cases hq : q = k
      · simp [hq]
      · simpa [List.lookup_cons, beq_false_of_ne hq, hq] using ih
    · by_cases hq : q = p
      · subst hq
        simpa [List.lookup_cons, hk, beq_false_of_ne (Ne.symm hk)] using ih
      · simp [List.lookup_cons, hk, hq, ih]

theorem find?_put {p : Place} (hp : p ≠ []) (content : Bytes) (q : Place) :
    (t.put p content).find? q = if q = p then some (.file content) else t.find? q := by
  by_cases hq : q = []
  · subst hq
    simp [find?, hp.symm]
  have hfind (u : FileTree) : u.find? q = u.nodes.lookup q := by simp [find?, hq]
  have hfind' : t.find? p = t.nodes.lookup p := by simp [find?, hp]
  rw [hfind, hfind, put]
  split <;> rename_i h <;> rw [hfind'] at h
  · obtain ⟨n, hn⟩ := Option.isSome_iff_exists.1 h
    rw [lookup_replace, hn]
    rfl
  · have hnone : t.nodes.lookup p = none := Option.not_isSome_iff_eq_none.1 h
    rw [List.lookup_append]
    by_cases hqp : q = p
    · subst hqp
      simp [hnone]
    · simp [hqp, List.lookup_cons, beq_false_of_ne hqp]

/-! ## Walks -/

theorem walk_append (s : Spot) (before behind : List String) :
    t.walk s (before ++ behind) = (t.walk s before).bind fun s' => t.walk s' behind := by
  induction before generalizing s with
  | nil => rfl
  | cons name before ih =>
    simp only [List.cons_append, walk, bind]
    cases t.step name s with
    | error e => rfl
    | ok s' => exact ih s'

/-- Where a walk ends that did not end at a directory, a file may stand. -/
def Spot.target? : Spot → Option Place
  | .directory _ => none
  | .file p _ => some p
  | .absent p => p

/-- The last step to such a place goes from a directory, and goes there too once a file stands at
it. -/
theorem step_target {name : String} {s s' : Spot} {p : Place} (h : t.step name s = .ok s')
    (hp : s'.target? = some p) : entryName name = true ∧ p ≠ [] ∧ t.find? p ≠ some .directory ∧
      (∃ d, s = .directory d) ∧ ∀ u : FileTree, ∀ content,
        u.find? p = some (.file content) → u.step name s = .ok (.file p content) := by
  cases s with
  | absent place => simp [step] at h
  | file place content => simp [step] at h
  | directory place =>
    simp only [step] at h ⊢
    split at h
    · cases h; cases hp
    rename_i hname
    split at h
    · cases h; cases hp
    rename_i hparent
    split at h
    · cases h
    rename_i hlong
    simp only [hname, hparent, hlong, if_false]
    have hentry : entryName name = true := by
      simpa [entryName, and_assoc] using And.intro (not_or.1 hname) hparent
    cases hplace : place.map (· ++ [name]) with
    | none => simp only [hplace] at h; cases h; cases hp
    | some q =>
      have hq : q ≠ [] := by
        obtain ⟨d, -, rfl⟩ := Option.map_eq_some_iff.1 hplace
        simp
      simp only [hplace] at h
      cases hfind : t.find? q with
      | none =>
        simp only [hfind] at h; cases h; cases hp
        exact ⟨hentry, hq, by simp [hfind], ⟨_, rfl⟩, fun u content hu => by simp only [hu]⟩
      | some n =>
        cases n with
        | directory => simp only [hfind] at h; cases h; cases hp
        | file content =>
          simp only [hfind] at h; cases h; cases hp
          exact ⟨hentry, hq, by simp [hfind], ⟨_, rfl⟩, fun u content hu => by simp only [hu]⟩

/-- Only a directory leads to a directory. -/
theorem walk_directory {s : Spot} {names : List String} {place : Option Place}
    (h : t.walk s names = .ok (.directory place)) : ∃ d, s = .directory d := by
  cases names with
  | nil => cases h; exact ⟨_, rfl⟩
  | cons name names =>
    cases s with
    | directory d => exact ⟨d, rfl⟩
    | file p content => simp [walk, step, bind, Except.bind] at h
    | absent p => simp [walk, step, bind, Except.bind] at h

/-- A step to a directory is the same in a tree that has the same directories. -/
theorem step_directory {u : FileTree}
    (hu : ∀ q, t.find? q = some .directory → u.find? q = some .directory) {name : String} {s : Spot}
    {place : Option Place} (h : t.step name s = .ok (.directory place)) :
    u.step name s = .ok (.directory place) := by
  cases s with
  | absent p => simp [step] at h
  | file p content => simp [step] at h
  | directory d =>
    simp only [step] at h ⊢
    split at h
    · rwa [if_pos ‹_›]
    rw [if_neg ‹_›]
    split at h
    · rwa [if_pos ‹_›]
    rw [if_neg ‹_›]
    split at h
    · cases h
    rw [if_neg ‹_›]
    cases hplace : d.map (· ++ [name]) with
    | none => simp [hplace] at h
    | some q =>
      cases hfind : t.find? q with
      | none => simp [hplace, hfind] at h
      | some n =>
        cases n with
        | file content => simp [hplace, hfind] at h
        | directory => simpa [hplace, hfind, hu q hfind] using h

/-- **A walk to a directory is the same** in a tree that has the same directories. -/
theorem walk_to_directory {u : FileTree}
    (hu : ∀ q, t.find? q = some .directory → u.find? q = some .directory) {s : Spot}
    {names : List String} {place : Option Place} (h : t.walk s names = .ok (.directory place)) :
    u.walk s names = .ok (.directory place) := by
  induction names generalizing s with
  | nil => exact h
  | cons name names ih =>
    simp only [walk, bind] at h ⊢
    cases hstep : t.step name s with
    | error e => rw [hstep] at h; cases h
    | ok s' =>
      rw [hstep] at h
      obtain ⟨d, rfl⟩ := walk_directory h
      rw [step_directory hu hstep]
      exact ih h

/-! ## Writing -/

/-- Without slashes at its end a path is not shortened. -/
theorem trimmed_of_eq_false {path : String} (h : (trimmed path).2 = false) :
    (trimmed path).1 = names path.toList := by
  have hsuffix := List.dropWhile_suffix (l := path.toList.reverse) fun c => decide (c = '/')
  have hlength : ¬(path.toList.reverse.dropWhile fun c => decide (c = '/')).length <
      path.toList.length := by
    simpa [trimmed] using h
  have hle := hsuffix.length_le
  have hkept := hsuffix.eq_of_length (by rw [List.length_reverse] at hle ⊢; omega)
  rw [trimmed, hkept, List.reverse_reverse]

/-- A file is written where the walk along the whole path ends. -/
theorem walk_target {path : String} {s : Spot} {p : Place} (h : t.target path = .ok s)
    (hp : s.target? = some p) : refusal? path = none ∧ ∃ before name parent,
      names path.toList = before ++ [name] ∧ t.walk (start path) before = .ok parent ∧
      t.step name parent = .ok s := by
  have hne : names path.toList ≠ [] := by simp [names, List.splitOn_ne_nil]
  unfold target at h
  split at h
  · cases h
  rename_i hrefusal
  refine ⟨hrefusal, ?_⟩
  simp only [bind, Except.bind] at h
  split at h
  · cases h
  rename_i parent hparent
  split at h
  · split at h <;> cases h
  rename_i hslash
  -- the name is that of an entry, so there are no slashes behind it
  obtain ⟨hentry, -⟩ := step_target h hp
  have hbare : (trimmed path).2 = false := by
    rw [hentry, Bool.and_true, Bool.not_eq_true] at hslash
    exact hslash
  rw [trimmed_of_eq_false hbare] at hparent h
  rw [List.getLastD_eq_getLast?, List.getLast?_eq_some_getLast hne] at h
  exact ⟨_, _, parent, (List.dropLast_concat_getLast hne).symm, hparent, h⟩

/-- A file that is written is put where there is no directory, and the path leads to it then. -/
theorem write_eq_put {path : String} {content : Bytes} {u : FileTree}
    (h : t.write path content = .ok u) : ∃ p, p ≠ [] ∧ u = t.put p content ∧
      u.resolve path = .ok (.file p content) := by
  have htarget : ∃ s p, t.target path = .ok s ∧ s.target? = some p ∧ u = t.put p content := by
    unfold write at h
    split at h <;> cases h
    · rename_i hs; exact ⟨_, _, hs, rfl, rfl⟩
    · rename_i hs; exact ⟨_, _, hs, rfl, rfl⟩
  obtain ⟨s, p, hs, hp, hput⟩ := htarget
  obtain ⟨hrefusal, before, name, parent, hnames, hwalk, hstep⟩ := walk_target hs hp
  obtain ⟨-, hne, hnode, ⟨d, rfl⟩, hlast⟩ := step_target hstep hp
  refine ⟨p, hne, hput, ?_⟩
  have hdirectories (q : Place) (hq : t.find? q = some .directory) :
      u.find? q = some .directory := by
    have hqp : q ≠ p := fun hqp => hnode (hqp ▸ hq)
    rw [hput, find?_put hne, if_neg hqp, hq]
  have hfile : u.find? p = some (.file content) := by rw [hput, find?_put hne, if_pos rfl]
  rw [resolve, hrefusal]
  show u.walk (start path) (names path.toList) = _
  rw [hnames, walk_append, walk_to_directory hdirectories hwalk]
  show (u.step name (.directory d)).bind (fun s => .ok s) = _
  rw [hlast u content hfile]
  rfl

/-- **What is written is read back**, and nothing else changes. -/
theorem wrote_of_write {path : String} {content : Bytes} {u : FileTree}
    (h : t.write path content = .ok u) : files.Wrote find? path content t u := by
  obtain ⟨p, hne, rfl, hresolve⟩ := write_eq_put h
  refine ⟨?_, p, by rw [find?_put hne, if_pos rfl], ?_⟩
  · show (t.put p content).read path = _
    rw [read, hresolve]
  · intro q hq
    rw [find?_put hne, if_neg hq]

/-- **File trees are faithful.** -/
theorem faithful : files.Faithful find? where
  read_state _ _ := rfl
  wrote path content t h := by
    cases hwrite : t.write path content with
    | error e => simp [files, hwrite] at h
    | ok u =>
      have hstate : (files.write path content t).state = u := by simp [files, hwrite]
      rw [hstate]
      exact wrote_of_write hwrite

end FileTree

end Hest
