import Hest.CommandLine.Reading
import Hest.Proofs.OptionValues

/-!
# Options in any order

Descriptor files and generic sources may be given any number of times, mixed with each other and
with all other options.  `Gives` relates arguments to the options that they give, whichever way
these are written, and `gathered_of_read` says what a reading makes of them: each of the two kinds
in its own order.

An option with its value apart is settled late, so at each point of a reading the options given are
those in the draft and the one that is `waiting`.
-/

namespace Hest.CommandLine

/-! ## Ways to write an option -/

/-- An argument that names an option, with its value or without. -/
inductive Names (o : Opt) : Option String → String → Prop where
  /-- `--name`. -/
  | long : Names o none ("--" ++ o.long)
  /-- `--name=value`. -/
  | longWith (value : String) : Names o (some value) ("--" ++ o.long ++ "=" ++ value)
  /-- `-n`. -/
  | short {c : Char} : o.short? = some c → Names o none (.ofList ['-', c])
  /-- `-n=value`. -/
  | shortWith {c : Char} (value : String) : o.short? = some c → o.takesValue →
      Names o (some value) (.ofList ('-' :: c :: '=' :: value.toList))
  /-- `-nvalue`. -/
  | shortGlued {c : Char} {first : Char} {more : List Char} : o.short? = some c → o.takesValue →
      first ≠ '=' → Names o (some (.ofList (first :: more))) (.ofList ('-' :: c :: first :: more))

/-- Arguments that give options their values, one after another; a value may be an argument of its
own. -/
inductive Gives : List String → List (Opt × String) → Prop where
  | nil : Gives [] []
  | joined {o value a rest given} : Names o (some value) a → o.takesValue → Gives rest given →
      Gives (a :: rest) ((o, value) :: given)
  | apart {o value a rest given} : Names o none a → o.takesValue →
      Token.ofString value = .plain value → Gives rest given →
      Gives (a :: value :: rest) ((o, value) :: given)
  | flag {o a rest given} : Names o none a → o.takesValue = false → Gives rest given →
      Gives (a :: rest) given

theorem Opt.ofLong?_long (o : Opt) : Opt.ofLong? o.long = some o := by cases o <;> decide

theorem Opt.ofShort?_short {o : Opt} {c : Char} (h : o.short? = some c) :
    Opt.ofShort? c = some o := by
  cases o <;> cases h <;> decide

theorem Opt.short_ne {o : Opt} {c : Char} (h : o.short? = some c) : c ≠ '-' := by
  cases o <;> cases h <;> decide

theorem Opt.long_plain (o : Opt) : o.long.toList ≠ [] ∧ '=' ∉ o.long.toList := by
  cases o <;> simp [Opt.long]

theorem takeWhile_name {name : List Char} (hplain : '=' ∉ name) (rest : List Char)
    (hrest : ∀ c ∈ rest.head?, c = '=') :
    (name ++ rest).takeWhile (· ≠ '=') = name ∧ (name ++ rest).dropWhile (· ≠ '=') = rest := by
  have hall : ∀ c ∈ name, decide (c ≠ '=') = true := fun c hc =>
    decide_eq_true fun h => hplain (h ▸ hc)
  rw [List.takeWhile_append_of_pos hall, List.dropWhile_append_of_pos hall]
  cases rest with
  | nil => simp
  | cons c cs =>
    obtain rfl := hrest c rfl
    simp

theorem Token.ofString_long {name : String} (hname : name.toList ≠ [])
    (hplain : '=' ∉ name.toList) : Token.ofString ("--" ++ name) = .long name none := by
  obtain ⟨htake, hdrop⟩ := takeWhile_name hplain [] nofun
  rw [List.append_nil] at htake hdrop
  have htoken : ("--" ++ name).toList = '-' :: '-' :: name.toList := by simp
  obtain ⟨c, cs, hcs⟩ := List.exists_cons_of_ne_nil hname
  rw [hcs] at htake hdrop htoken
  simp only [Token.ofString, htoken, htake, hdrop]
  rw [← hcs, String.ofList_toList]

theorem Token.ofString_longWith {name : String} (hplain : '=' ∉ name.toList) (value : String) :
    Token.ofString ("--" ++ name ++ "=" ++ value) = .long name (some value) := by
  obtain ⟨htake, hdrop⟩ := takeWhile_name hplain ('=' :: value.toList) (by simp)
  have htoken : ("--" ++ name ++ "=" ++ value).toList =
      '-' :: '-' :: (name.toList ++ '=' :: value.toList) := by simp
  have hne : name.toList ++ '=' :: value.toList ≠ [] := by simp
  obtain ⟨c, cs, hcs⟩ := List.exists_cons_of_ne_nil hne
  rw [hcs] at htake hdrop htoken
  simp only [Token.ofString, htoken, htake, hdrop, String.ofList_toList]

theorem Token.ofString_shorts {c : Char} (hc : c ≠ '-') (cs : List Char) :
    Token.ofString (.ofList ('-' :: c :: cs)) = .shorts (c :: cs) := by
  simp [Token.ofString, hc]

namespace Reading

variable {r r' : Reading} {o : Opt}

/-- Meets an option, with its value or without. -/
def meet (r : Reading) (o : Opt) : Option String → Except UsageError Reading
  | some value => r.meetWithValue o value
  | none => if o.takesValue then r.meetBare o else r.meetFlag o

/-- **The ways to write an option are read alike.** -/
theorem read_named {v : Option String} {a : String} (h : Names o v a)
    (hv : v.isSome → o.takesValue) (rest : List String) :
    r.read (a :: rest) = r.meet o v >>= fun r' => r'.read rest := by
  cases h with
  | long =>
    obtain ⟨hne, hplain⟩ := o.long_plain
    simp only [read, Token.ofString_long hne hplain, meetLong, Opt.ofLong?_long]
    rfl
  | longWith value =>
    obtain ⟨-, hplain⟩ := o.long_plain
    simp only [read, Token.ofString_longWith hplain, meetLong, Opt.ofLong?_long, hv rfl, if_true]
    rfl
  | short hc =>
    simp only [read, Token.ofString_shorts (Opt.short_ne hc), meetShorts, Opt.ofShort?_short hc,
      meet]
    split
    · rfl
    · cases r.meetFlag o <;> rfl
  | shortWith value hc ho =>
    simp only [read, Token.ofString_shorts (Opt.short_ne hc), meetShorts, Opt.ofShort?_short hc, ho,
      if_true, String.ofList_toList]
    rfl
  | @shortGlued c first more hc ho hfirst =>
    have hglued : r.meetShorts (c :: first :: more) =
        r.meetWithValue o (.ofList (first :: more)) := by
      simp only [meetShorts, Opt.ofShort?_short hc, ho, if_true]
      split
      · contradiction
      · next h => exact absurd (List.cons.inj h).1 hfirst
      · rfl
    simp only [read, Token.ofString_shorts (Opt.short_ne hc), hglued]
    rfl

/-! ## What is gathered -/

/-- The option with its value that is not settled yet. -/
def waiting (r : Reading) : List (Opt × String) :=
  match r.pending with
  | some (o, some value) => [(o, value)]
  | _ => []

end Reading

/-- The descriptor files among options, in order. -/
def filesGiven (given : List (Opt × String)) : List DescriptorFile :=
  given.filterMap fun o =>
    if o.1 = .descriptors then (DescriptorFile.read o.2.toList).toOption else none

/-- The generic sources among options, in order. -/
def sourcesGiven (given : List (Opt × String)) : List SourceEntry :=
  given.filterMap fun o => if o.1 = .ghes then (SourceEntry.read o.2.toList).toOption else none

/-- What `s'` has gathered is what `s` has, and the options given behind it. -/
structure Gathered (s : Settings) (given : List (Opt × String)) (s' : Settings) : Prop where
  files : s'.descriptors = s.descriptors ++ filesGiven given
  sources : s'.sources = s.sources ++ sourcesGiven given

theorem Gathered.refl (s : Settings) : Gathered s [] s :=
  ⟨(List.append_nil _).symm, (List.append_nil _).symm⟩

theorem Gathered.trans {s s' s'' : Settings} {given given' : List (Opt × String)}
    (h : Gathered s given s') (h' : Gathered s' given' s'') : Gathered s (given ++ given') s'' := by
  constructor
  · rw [h'.files, h.files, filesGiven, filesGiven, filesGiven, List.filterMap_append,
      List.append_assoc]
  · rw [h'.sources, h.sources, sourcesGiven, sourcesGiven, sourcesGiven, List.filterMap_append,
      List.append_assoc]

/-- **An option adds what it gives behind what was given before.** -/
theorem Draft.take_gathers {d d' : Draft} {o : Opt} {value : String}
    (h : d.take o value = .ok d') : Gathered d.rest [(o, value)] d'.rest := by
  cases o with
  | descriptors =>
    cases hread : DescriptorFile.read value.toList <;> simp only [take, hread] at h <;> cases h
    exact ⟨by simp [filesGiven, hread, Except.toOption], by simp [sourcesGiven]⟩
  | ghes =>
    cases hread : SourceEntry.read value.toList <;> simp only [take, hread] at h <;> cases h
    exact ⟨by simp [filesGiven], by simp [sourcesGiven, hread, Except.toOption]⟩
  | oemRevision =>
    cases hread : readWord value.toList <;> simp only [take, hread] at h <;> cases h
    exact ⟨by simp [filesGiven], by simp [sourcesGiven]⟩
  | output =>
    simp only [take] at h
    split at h <;> cases h
    exact ⟨by simp [filesGiven], by simp [sourcesGiven]⟩
  | oemId | oemTableId | verbose | help =>
    cases h
    exact ⟨by simp [filesGiven], by simp [sourcesGiven]⟩

namespace Reading

variable {r r' : Reading} {o : Opt}

theorem take_gathers {value : String} (h : orRefuse (r.take o value) = .ok r') :
    r'.pending = r.pending ∧ Gathered r.draft.rest [(o, value)] r'.draft.rest := by
  unfold take at h
  split at h
  · cases h
  dsimp only at h
  split at h
  · next d hd =>
    cases h
    exact ⟨rfl, Draft.take_gathers hd⟩
  · cases h
  · cases h

theorem settle_gathers (h : orRefuse r.settle = .ok r') :
    r'.pending = none ∧ Gathered r.draft.rest r.waiting r'.draft.rest := by
  unfold settle at h
  unfold waiting
  split at h
  · next hnone =>
    cases h
    rw [hnone]
    exact ⟨rfl, .refl _⟩
  · cases h
  · next o value hsome =>
    rw [hsome]
    exact take_gathers h

theorem meetWithValue_gathers {value : String} (h : r.meetWithValue o value = .ok r') :
    r'.pending = none ∧ Gathered r.draft.rest (r.waiting ++ [(o, value)]) r'.draft.rest := by
  obtain ⟨settled, hsettled, htaken⟩ := bind_eq_ok_iff.1 h
  obtain ⟨hnone, hgathered⟩ := settle_gathers hsettled
  obtain ⟨hpending, hadded⟩ := take_gathers htaken
  exact ⟨hpending.trans hnone, hgathered.trans hadded⟩

theorem meetBare_gathers (h : r.meetBare o = .ok r') :
    r'.pending = some (o, none) ∧ Gathered r.draft.rest r.waiting r'.draft.rest := by
  obtain ⟨settled, hsettled, hr'⟩ := bind_eq_ok_iff.1 h
  cases hr'
  exact ⟨rfl, (settle_gathers hsettled).2⟩

theorem meetFlag_gathers (h : r.meetFlag o = .ok r') :
    r'.pending = none ∧ Gathered r.draft.rest r.waiting r'.draft.rest := by
  obtain ⟨settled, hsettled, hflag⟩ := bind_eq_ok_iff.1 h
  obtain ⟨hnone, hgathered⟩ := settle_gathers hsettled
  split at hflag
  · cases hflag
  split at hflag
  · cases hflag
  cases hflag
  refine ⟨hnone, ?_⟩
  unfold Draft.flag
  split
  · exact ⟨hgathered.files, hgathered.sources⟩
  · exact hgathered

theorem finish_gathers {s : Settings} (h : r.finish = .ok s) :
    Gathered r.draft.rest r.waiting s := by
  obtain ⟨settled, hsettled, hs⟩ := bind_eq_ok_iff.1 h
  obtain ⟨-, hgathered⟩ := settle_gathers hsettled
  split at hs
  · next hsettings =>
    cases hs
    obtain ⟨path, -, rfl⟩ := Option.map_eq_some_iff.1 hsettings
    exact ⟨hgathered.files, hgathered.sources⟩
  · cases hs

/-- **A reading gathers what is in the draft, then what waits, then what the arguments give.** -/
theorem read_gathers {arguments : List String} {given : List (Opt × String)}
    (hgives : Gives arguments given) {s : Settings} (h : r.read arguments = .ok s) :
    Gathered r.draft.rest (r.waiting ++ given) s := by
  induction hgives generalizing r with
  | nil =>
    rw [List.append_nil]
    exact finish_gathers h
  | @joined o value a rest given ha ho _ ih =>
    rw [read_named ha fun _ => ho] at h
    obtain ⟨r', hr', hrest⟩ := bind_eq_ok_iff.1 h
    obtain ⟨hnone, hgathered⟩ := meetWithValue_gathers hr'
    have hwaiting : r'.waiting = [] := by simp [waiting, hnone]
    have hmore := ih hrest
    rw [hwaiting] at hmore
    simpa using hgathered.trans hmore
  | @apart o value a rest given ha ho hplain _ ih =>
    rw [read_named ha nofun] at h
    obtain ⟨r', hr', hvalue⟩ := bind_eq_ok_iff.1 h
    rw [meet, if_pos ho] at hr'
    obtain ⟨hpending, hgathered⟩ := meetBare_gathers hr'
    simp only [read, hplain, meetPlain, hpending] at hvalue
    have hrest : ({ r' with pending := some (o, some value) } : Reading).read rest = .ok s := hvalue
    exact hgathered.trans (ih hrest)
  | @flag o a rest given ha ho _ ih =>
    rw [read_named ha nofun] at h
    obtain ⟨r', hr', hrest⟩ := bind_eq_ok_iff.1 h
    rw [meet, if_neg (by simp [ho])] at hr'
    obtain ⟨hnone, hgathered⟩ := meetFlag_gathers hr'
    have hwaiting : r'.waiting = [] := by simp [waiting, hnone]
    have hmore := ih hrest
    rw [hwaiting] at hmore
    exact hgathered.trans hmore

end Reading

/-- **The two kinds of options do not disturb each other**: each is gathered in its own order. -/
theorem gathered_of_read {arguments : List String} {given : List (Opt × String)}
    (hgives : Gives arguments given) {s : Settings} (h : read arguments = .ok s) :
    s.descriptors = filesGiven given ∧ s.sources = sourcesGiven given := by
  obtain ⟨hfiles, hsources⟩ := Reading.read_gathers hgives h
  exact ⟨hfiles, hsources⟩

example : read ["--ghes", "5@0x8000", "-da@2", "-o", "t", "--ghes=6@0x9000", "-d=b"] =
    .ok { output := "t", descriptors := [⟨"a", 2⟩, ⟨"b", 1⟩],
          sources := [⟨5, 0x8000⟩, ⟨6, 0x9000⟩] } := by
  rfl

end Hest.CommandLine
