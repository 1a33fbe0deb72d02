/-
ModuleBundler/Proofs/Command/Redirect.lean

The same command line with an output.  A command line that names no output is read alike when an
output was named before it (`ofWords_output`): the two readings stay related by
`Reading.redirect`, which every part of the reading keeps (`Reading.Keeps`), for the only part
that could tell them apart is a second `--output`, and then the first reading would name an output.
-/
import ModuleBundler.Command.Arguments

namespace ModuleBundler.Command

namespace Reading

variable {path : String}

/-- The reading of a command line that named an output before. -/
def redirect (r : Reading) (path : String) : Reading :=
  { r with
    arguments.output := some path
    seen := r.seen ++ [.setting .output] }

/-- A part of the reading that is the same with an output, as long as no other is named. -/
def Keeps (path : String) (f : Reading → Except Stop Reading) : Prop :=
  ∀ r r', f r = .ok r' → r'.arguments.output = none →
    r.arguments.output = none ∧ f (r.redirect path) = .ok (r'.redirect path)

theorem Keeps.bind {f g : Reading → Except Stop Reading} (hf : Keeps path f)
    (hg : Keeps path g) : Keeps path fun r => f r >>= g := by
  intro r r'' h hnone
  rcases hmid : f r with e | r'
  · simp only [hmid] at h
    cases h
  · simp only [hmid] at h
    obtain ⟨hnone, hlast⟩ := hg r' r'' h hnone
    obtain ⟨hnone, hfirst⟩ := hf r r' hmid hnone
    refine ⟨hnone, ?_⟩
    simp only [hfirst]
    exact hlast

theorem Keeps.error {f : Reading → Except Stop Reading} (h : ∀ r, ∃ e, f r = .error e) :
    Keeps path f := by
  intro r r' hok
  obtain ⟨e, he⟩ := h r
  rw [he] at hok
  cases hok

theorem keeps_pure {f : Reading → Reading} (hf : ∀ r, (f r).redirect path = f (r.redirect path))
    (houtput : ∀ r, (f r).arguments.output = r.arguments.output) :
    Keeps path fun r => .ok (f r) := by
  rintro r r' h hnone
  obtain rfl := Except.ok.inj h
  exact ⟨houtput r ▸ hnone, by rw [hf]⟩

theorem keeps_once {s : Switch} (hs : s ≠ .setting .output) : Keeps path fun r => r.once s := by
  rintro r r' h hnone
  have hseen : (r.redirect path).seen.contains s = r.seen.contains s := by
    simp [redirect, hs]
  dsimp only [once] at h ⊢
  rw [hseen]
  split at h
  · cases h
  next hnew =>
    obtain rfl := Except.ok.inj h
    rw [if_neg hnew]
    exact ⟨hnone, rfl⟩

theorem output_store (a : Arguments) (value : String) {s : Setting} (hs : s ≠ .output) :
    (store a value s).output = a.output := by
  cases s <;> first | rfl | contradiction

theorem keeps_set (s : Setting) (value : String) : Keeps path fun r => r.set s value := by
  by_cases hs : s = .output
  · -- a second output would be the output of both
    subst hs
    rintro r r' h hnone
    dsimp only [set] at h
    rcases honce : r.once (.setting .output) with e | r₁
    · rw [honce] at h
      cases h
    · rw [honce] at h
      simp only [bind, Except.bind] at h
      split at h
      · cases h
      · obtain rfl := Except.ok.inj h
        cases hnone
  · refine (keeps_once (s := .setting s) (by simpa using hs)).bind ?_
    split
    next hempty => exact .error fun r => ⟨_, rfl⟩
    next =>
      refine keeps_pure (f := fun r => { r with arguments := store r.arguments value s })
        (fun r => ?_) fun r => output_store r.arguments value hs
      cases s <;> first | rfl | contradiction

theorem keeps_settle : Keeps path settle := by
  rintro r r' h hnone
  obtain ⟨arguments, seen, pending⟩ := r
  match pending with
  | none => 
    obtain rfl := Except.ok.inj h
    exact ⟨hnone, rfl⟩
  | some (s, none) => cases h
  | some (s, some value) => exact keeps_set s value ⟨arguments, seen, none⟩ r' h hnone

theorem keeps_attached (s : Setting) (value : String) : Keeps path fun r => r.attached s value :=
  keeps_settle.bind (keeps_set s value)

theorem keeps_await (s : Setting) : Keeps path fun r => r.await s :=
  keeps_settle.bind (keeps_pure (fun _ => rfl) fun _ => rfl)

theorem keeps_flag (f : Flag) : Keeps path fun r => r.flag f := by
  refine keeps_settle.bind ?_
  cases f with
  | help => exact .error fun r => ⟨_, rfl⟩
  | version => exact .error fun r => ⟨_, rfl⟩
  | verbose => exact keeps_pure (fun _ => rfl) fun _ => rfl
  | dedupeModules =>
      exact (keeps_once (by decide)).bind (keeps_pure (fun _ => rfl) fun _ => rfl)

theorem keeps_long (text : List Char) : Keeps path fun r => r.long text := by
  unfold long
  dsimp only
  split
  · exact keeps_attached _ _
  · exact keeps_await _
  · exact .error fun r => ⟨_, rfl⟩
  · exact keeps_flag _
  · exact .error fun r => ⟨_, rfl⟩

theorem keeps_letters (text : List Char) : Keeps path fun r => r.letters text := by
  induction text with
  | nil => exact keeps_pure (fun _ => rfl) fun _ => rfl
  | cons c rest ih =>
      unfold letters
      split
      · split
        · exact keeps_await _
        · exact keeps_attached _ _
        · exact keeps_attached _ _
      · exact (keeps_flag _).bind ih
      · exact .error fun r => ⟨_, rfl⟩

theorem keeps_plain (word : String) : Keeps path fun r => r.plain word := by
  rintro r r' h hnone
  dsimp only [plain] at h ⊢
  split at h
  next s hpending =>
    obtain rfl := Except.ok.inj h
    have : (r.redirect path).pending = some (s, none) := hpending
    refine ⟨hnone, ?_⟩
    simp only [this]
    rfl
  next => cases h

/-- **The rest of a command line is read alike when an output was named before it.** -/
theorem keeps_words (ws : List String) : Keeps path fun r => r.words ws := by
  induction ws with
  | nil => exact keeps_settle
  | cons word rest ih =>
      unfold words
      split
      · split
        · exact keeps_settle
        · exact .error fun r => ⟨_, rfl⟩
      · exact (keeps_long _).bind ih
      · exact (keeps_letters _).bind ih
      · exact (keeps_plain _).bind ih

theorem set_output (hpath : path ≠ "") :
    ({} : Reading).set .output path = .ok (({} : Reading).redirect path) := by
  simp [set, once, Setting.isPath, hpath, redirect, store, bind, Except.bind, pure, Except.pure]

/-- The first word of a command line names an output. -/
theorem long_output (hpath : path ≠ "") :
    ({} : Reading).long ("output=".toList ++ path.toList) =
      .ok (({} : Reading).redirect path) := by
  have hname : ("output=".toList ++ path.toList).takeWhile (· != '=') = "output".toList := by
    simp
  have hdrop : ("output=".toList ++ path.toList).drop "output".toList.length = '=' :: path.toList := by
    simp
  have hvalue : ("output=".toList ++ path.toList).drop ("output".toList.length + 1) = path.toList := by
    simp
  unfold long
  simp only [hname, hdrop, hvalue, String.ofList_toList, List.head?_cons, Option.map_some]
  exact set_output hpath

theorem words_output (hpath : path ≠ "") (ws : List String) :
    ({} : Reading).words (("--output=" ++ path) :: ws) =
      (({} : Reading).redirect path).words ws := by
  have hword : ("--output=" ++ path).toList = '-' :: '-' :: ("output=".toList ++ path.toList) := by
    simp
  have hlong := long_output hpath
  simp only [String.reduceToList, List.cons_append] at hword hlong
  simp only [words, hword, hlong]
  rfl

end Reading

/-- A command line that names no output, with one. -/
theorem ofWords_output {words : List String} {a : Arguments} {path : String}
    (h : Arguments.ofWords words = .ok a) (hnone : a.output = none) (hpath : path ≠ "") :
    Arguments.ofWords (("--output=" ++ path) :: words) = .ok { a with output := some path } := by
  unfold Arguments.ofWords at h ⊢
  rcases hwords : ({} : Reading).words words with e | r
  · rw [hwords] at h
    cases h
  · rw [hwords] at h
    obtain rfl := Except.ok.inj h
    have hredirect : (({} : Reading).redirect path).words words = .ok (r.redirect path) :=
      (Reading.keeps_words words {} r hwords hnone).2
    rw [Reading.words_output hpath, hredirect]
    rfl

end ModuleBundler.Command
