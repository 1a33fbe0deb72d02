/-
ModuleBundler/Proofs/Files/Directories.lean

Main result: `FileSystem.makeDirectories_iff`.

The directories on the way to a path.  `makeDirectories` begins at the path and goes up as far as
something is missing, then down again; what it must come to is said from the outermost directory
down, each of which is there or is made (`Paved`).  The two are the same, since a path that leads
somewhere has nothing to be made above it (`Paved.of_look`), and a path that cannot be made for
another reason than a missing directory will not be there when more directories are
(`eq_or_look_eq_of_paved`).
-/
import Mathlib.Logic.Relation
import ModuleBundler.Proofs.Files.Lookup

namespace ModuleBundler

namespace FileSystem

variable {fs made : FileSystem}

/-! ### Adding a name -/

theorem node?_put {names : List (List Char)} (hnames : names ≠ []) (node : FileNode)
    (other : List (List Char)) :
    (fs.put names node).node? other = if other = names then some node else fs.node? other := by
  unfold FileSystem.node? FileSystem.put
  rw [Table.get?_put]
  split
  next hempty =>
    rw [if_neg]
    rintro rfl
    exact hnames (List.isEmpty_iff.1 hempty)
  next => rfl

/-- A name that nothing has can be given to anything but a link. -/
theorem Grown.put {names : List (List Char)} {node : FileNode} (hnames : names ≠ [])
    (hnone : fs.node? names = none) (hlink : ∀ target, node ≠ .link target) :
    Grown fs (fs.put names node) := by
  refine ⟨rfl, rfl, fun {other found} hother => ?_, fun {other target} hother => ?_⟩
  · rw [node?_put hnames, if_neg, hother]
    rintro rfl
    rw [hnone] at hother
    cases hother
  · rw [node?_put hnames] at hother
    split at hother
    · exact absurd (Option.some.inj hother) (hlink target)
    · exact hother

/-! ### One directory -/

/-- A directory is made where nothing is. -/
theorem exists_of_makeDirectory {path : String} (h : fs.makeDirectory path = .ok made) :
    ∃ names separator, fs.look path true = .ok (.missing names separator) ∧
      fs.look path = .ok (.missing names separator) ∧ names ≠ [] ∧ fs.node? names = none ∧
      made = fs.put names .directory := by
  unfold makeDirectory at h
  rcases hlook : fs.look path true with e | spot
  · rw [hlook] at h
    cases h
  rw [hlook] at h
  rcases spot with ⟨names, node, separator⟩ | ⟨names, separator⟩
  · cases h
  · obtain ⟨hne, hnone⟩ := holds_look hlook
    have hmade : fs.put names .directory = made := by
      rcases hask : fs.ask (.add names.dropLast) with e | u
      · simp only [bind, Except.bind, hask] at h
        cases h
      · simp only [bind, Except.bind, hask] at h
        exact Except.ok.inj h
    refine ⟨names, separator, rfl, ?_, hne, hnone, hmade.symm⟩
    rcases look_itself fs path with ⟨names', target, separator', hlink⟩ | hsame
    · rw [hlook] at hlink
      cases hlink
    · rw [← hsame, hlook]

theorem Grown.of_makeDirectory {path : String} (h : fs.makeDirectory path = .ok made) :
    Grown fs made := by
  obtain ⟨names, separator, -, -, hne, hnone, rfl⟩ := exists_of_makeDirectory h
  exact .put hne hnone nofun

/-- What was made is there, and is all that is new. -/
theorem look_of_makeDirectory {path : String} (h : fs.makeDirectory path = .ok made) :
    ∃ names, made.look path = .ok (.found names .directory false) ∧
      made.node? names = some .directory ∧
      ∀ other ≠ names, made.node? other = fs.node? other := by
  have hgrown := Grown.of_makeDirectory h
  obtain ⟨names, separator, -, hlook, hne, hnone, rfl⟩ := exists_of_makeDirectory h
  have hmade : (fs.put names .directory).node? names = some .directory := by
    rw [node?_put hne, if_pos rfl]
  refine ⟨names, ?_, hmade, fun other hother => by rw [node?_put hne, if_neg hother]⟩
  rw [hgrown.look_missing hlook, spotIn, hmade]

theorem isDirectory_iff {path : String} :
    fs.isDirectory path = true ↔
      ∃ names separator, fs.look path = .ok (.found names .directory separator) := by
  unfold isDirectory
  constructor
  · intro h
    split at h
    next names separator hlook => exact ⟨names, separator, hlook⟩
    next => cases h
  · rintro ⟨names, separator, hlook⟩
    rw [hlook]

/-- Whatever a path leads to, the path itself has something. -/
theorem exists_look_itself {path : String} {names : List (List Char)} {node : FileNode}
    {separator : Bool} (h : fs.look path = .ok (.found names node separator)) :
    ∃ names node separator, fs.look path true = .ok (.found names node separator) := by
  rcases look_itself fs path with ⟨names, target, separator, hlink⟩ | hsame
  · exact ⟨names, _, separator, hlink⟩
  · exact ⟨names, node, separator, hsame.trans h⟩

theorem makeDirectory_of_isDirectory {path : String} (h : fs.isDirectory path = true) :
    fs.makeDirectory path = .error .fileExists := by
  obtain ⟨names, separator, hlook⟩ := isDirectory_iff.1 h
  obtain ⟨names, node, separator, hitself⟩ := exists_look_itself hlook
  unfold makeDirectory
  rw [hitself]
  rfl

/-! ### The way to a path -/

/-- The directories down to a path are there or are made, from the outermost on. -/
inductive Paved (fs : FileSystem) : List Char → FileSystem → Prop where
  /-- The working directory is there. -/
  | home : Paved fs [] fs
  | root {path : List Char} (hroot : parent? path = none)
      (h : fs.isDirectory (String.ofList path) = true) : Paved fs path fs
  | there {path up : List Char} {above : FileSystem} (hup : parent? path = some up)
      (habove : Paved fs up above) (h : above.isDirectory (String.ofList path) = true) :
      Paved fs path above
  | new {path up : List Char} {above made : FileSystem} (hup : parent? path = some up)
      (habove : Paved fs up above) (h : above.makeDirectory (String.ofList path) = .ok made) :
      Paved fs path made

namespace Paved

variable {path up : List Char}

theorem grown (h : Paved fs path made) : Grown fs made := by
  induction h with
  | home | root => exact .refl fs
  | there hup habove h ih => exact ih
  | new hup habove h ih => exact ih.trans (.of_makeDirectory h)

theorem contents (h : Paved fs path made) : made.contents = fs.contents := by
  induction h with
  | home | root => rfl
  | there hup habove h ih => exact ih
  | new hup habove h ih =>
      obtain ⟨names, separator, -, -, -, -, rfl⟩ := exists_of_makeDirectory h
      exact ih

/-- What is new is a directory to which a part of the path leads. -/
theorem node?_of_none (h : Paved fs path made) {names : List (List Char)}
    (hnone : fs.node? names = none) :
    made.node? names = none ∨ made.node? names = some .directory ∧
      ∃ part, Relation.ReflTransGen (fun up path => parent? path = some up) part path ∧
        made.look (String.ofList part) = .ok (.found names .directory false) := by
  induction h with
  | home | root => exact .inl hnone
  | there hup habove h ih =>
      refine ih.imp_right fun ⟨hdirectory, part, hpart, hlook⟩ => ?_
      exact ⟨hdirectory, part, hpart.tail hup, hlook⟩
  | @new path up above made hup habove h ih =>
      obtain ⟨new, hlook, hnode, hothers⟩ := look_of_makeDirectory h
      by_cases hnew : names = new
      · subst hnew
        exact .inr ⟨hnode, path, .refl, hlook⟩
      · rw [hothers names hnew]
        refine ih.imp_right fun ⟨hdirectory, part, hpart, hlook⟩ => ?_
        exact ⟨hdirectory, part, hpart.tail hup, (Grown.of_makeDirectory h).look_found hlook⟩

/-- There is one way to make the directories. -/
theorem unique {made' : FileSystem} (h : Paved fs path made) (h' : Paved fs path made') :
    made' = made := by
  induction h generalizing made' with
  | home =>
      cases h' with
      | home => rfl
      | root => rfl
      | there hup | new hup => cases hup
  | root hroot hdirectory =>
      cases h' with
      | home | root => rfl
      | there hup | new hup =>
          rw [hroot] at hup
          cases hup
  | there hup habove h ih =>
      cases h' with
      | home => cases hup
      | root hroot =>
          rw [hroot] at hup
          cases hup
      | there hup' habove' h' =>
          obtain rfl := Option.some.inj (hup.symm.trans hup')
          exact ih habove'
      | new hup' habove' h' =>
          obtain rfl := Option.some.inj (hup.symm.trans hup')
          obtain rfl := ih habove'
          rw [makeDirectory_of_isDirectory h] at h'
          cases h'
  | new hup habove h ih =>
      cases h' with
      | home => cases hup
      | root hroot =>
          rw [hroot] at hup
          cases hup
      | there hup' habove' h' =>
          obtain rfl := Option.some.inj (hup.symm.trans hup')
          obtain rfl := ih habove'
          rw [makeDirectory_of_isDirectory h'] at h
          cases h
      | new hup' habove' h' =>
          obtain rfl := Option.some.inj (hup.symm.trans hup')
          obtain rfl := ih habove'
          exact Except.ok.inj (h'.symm.trans h)

/-- Where a directory is, those above it are too. -/
theorem of_isDirectory (path : List Char) (h : fs.isDirectory (String.ofList path) = true) :
    Paved fs path fs := by
  rcases hup : parent? path with - | up
  · exact .root hup h
  · obtain ⟨names, separator, hlook⟩ := isDirectory_iff.1 h
    by_cases hne : up = []
    · exact .there hup (hne ▸ .home) h
    · have : up.length < path.length := length_parent?_lt hup
      exact .there hup (of_isDirectory up (isDirectory_parent? hlook hup hne)) h
termination_by path.length

/-- **Nothing is to be made above a path that leads somewhere.** -/
theorem of_look {itself : Bool} {spot : Spot} (h : fs.look (String.ofList path) itself = .ok spot)
    (hup : parent? path = some up) : Paved fs up fs := by
  by_cases hne : up = []
  · exact hne ▸ .home
  · exact .of_isDirectory up (isDirectory_parent? h hup hne)

end Paved

/-! ### Making them -/

/-- Where a name is missing, a path lies above. -/
theorem exists_parent?_of_look {path : List Char} {itself : Bool} {names : List (List Char)}
    {separator : Bool} (h : fs.look (String.ofList path) itself = .ok (.missing names separator)) :
    ∃ up, parent? path = some up := by
  refine exists_parent? fun hnil => ?_
  rw [look_eq fs itself (.of_look h)] at h
  have hfound : ∀ n, fs.lookThrough itself n (origin fs.home path) (Segment.split path) =
      .ok (.found (origin fs.home path) .directory false) ∨
      ∃ e, fs.lookThrough itself n (origin fs.home path) (Segment.split path) = .error e := by
    intro n
    cases n <;> exact lookFrom_of_active_eq_nil hnil
  rcases hfound linkLimit with hfound | ⟨e, hfault⟩
  · rw [hfound] at h
    cases h
  · rw [hfault] at h
    cases h

theorem paved_of_makeDirectories {n : Nat} {path : List Char}
    (h : (fs.makeDirectories n path).2 = .ok ()) : Paved fs path (fs.makeDirectories n path).1 := by
  fun_induction makeDirectories fs n path with
  | case1 => exact .home
  | case2 | case4 | case5 => cases h
  | case3 n path hne text made hmade =>
      obtain ⟨names, separator, -, hlook, -⟩ := exists_of_makeDirectory hmade
      obtain ⟨up, hup⟩ := exists_parent?_of_look hlook
      exact .new hup (.of_look hlook hup) hmade
  | case6 n path hne text hmissing up hup above habove made hmade ih =>
      rw [habove] at ih
      exact .new hup (ih rfl) hmade
  | case7 n path hne text hmissing up hup above habove e hmade ih =>
      rw [habove] at ih
      dsimp only at h ⊢
      split at h
      next hdirectory => exact .there hup (ih rfl) hdirectory
      next => cases h
  | case8 n path hne text e hmissing hmade =>
      dsimp only at h ⊢
      split at h
      next hdirectory => exact .of_isDirectory path hdirectory
      next => cases h

/-- What cannot be made for another reason than a missing directory cannot be when there are
more, or there are none. -/
theorem eq_or_look_eq_of_paved {path up : List Char} {above : FileSystem} {e : SystemError}
    (h : fs.makeDirectory (String.ofList path) = .error e) (he : e ≠ .notFound)
    (hup : parent? path = some up) (habove : Paved fs up above) :
    above = fs ∨ above.look (String.ofList path) true = .error e := by
  rcases hlook : fs.look (String.ofList path) true with e' | spot
  · unfold makeDirectory at h
    rw [hlook] at h
    obtain rfl := Except.error.inj h
    exact .inr (habove.grown.look_error hlook he)
  · exact .inl ((Paved.of_look hlook hup).unique habove)

/-- What is a directory is not made. -/
theorem snd_makeDirectories_of_isDirectory {n : Nat} {path : List Char}
    (h : fs.isDirectory (String.ofList path) = true) (hn : path.length ≤ n) :
    (fs.makeDirectories n path).2 = .ok () := by
  fun_cases makeDirectories fs n path with
  | case1 => rfl
  | case2 path hne =>
      exact absurd (List.length_eq_zero_iff.1 (Nat.le_zero.1 hn)) hne
  | case3 | case6 => rfl
  | case4 n path hne text hmissing | case5 n path hne text hmissing | case7 n path hne text hmissing =>
      rw [makeDirectory_of_isDirectory h] at hmissing
      cases hmissing
  | case8 => exact if_pos h

/-- Below directories that are made, a directory is made if it can be. -/
theorem snd_makeDirectories_of_above {n : Nat} {path up : List Char} {above : FileSystem}
    (hup : parent? path = some up) (habove : Paved fs up above)
    (hmakes : ∀ m, up.length ≤ m → (fs.makeDirectories m up).2 = .ok ())
    (hlast : above.isDirectory (String.ofList path) = true ∨
      ∃ made, above.makeDirectory (String.ofList path) = .ok made)
    (hn : path.length ≤ n) : (fs.makeDirectories n path).2 = .ok () := by
  have hlt := length_parent?_lt hup
  have hthere : ∀ e, above.makeDirectory (String.ofList path) = .error e →
      above.isDirectory (String.ofList path) = true := by
    rintro e he
    rcases hlast with hdirectory | ⟨made, hmade⟩
    · exact hdirectory
    · rw [he] at hmade
      cases hmade
  fun_cases makeDirectories fs n path with
  | case1 | case3 | case6 => rfl
  | case2 path hne => omega
  | case4 n path hne text hmissing hnone =>
      rw [hup] at hnone
      cases hnone
  | case5 n path hne text hmissing up' hup' above' e habove' =>
      obtain rfl := Option.some.inj (hup.symm.trans hup')
      have := hmakes n (by omega)
      rw [habove'] at this
      cases this
  | case7 n path hne text hmissing up' hup' above' habove' e hmade =>
      obtain rfl := Option.some.inj (hup.symm.trans hup')
      have hpaved := paved_of_makeDirectories (congrArg Prod.snd habove')
      rw [habove'] at hpaved
      obtain rfl := habove.unique hpaved
      exact if_pos (hthere e hmade)
  | case8 n path hne text e hfault hmade =>
      rcases eq_or_look_eq_of_paved hmade hfault hup habove with rfl | hlook
      · exact if_pos (hthere e hmade)
      · -- the path leads somewhere below the directories that are made
        exfalso
        rcases hlast with hdirectory | ⟨made, hok⟩
        · obtain ⟨names, separator, hfound⟩ := isDirectory_iff.1 hdirectory
          obtain ⟨names, node, separator, hitself⟩ := exists_look_itself hfound
          rw [hlook] at hitself
          cases hitself
        · obtain ⟨names, separator, hitself, -⟩ := exists_of_makeDirectory hok
          rw [hlook] at hitself
          cases hitself

/-- Directories that can be made are made. -/
theorem snd_makeDirectories_of_paved {path : List Char} (h : Paved fs path made) (n : Nat)
    (hn : path.length ≤ n) : (fs.makeDirectories n path).2 = .ok () := by
  induction h generalizing n with
  | home => cases n <;> rfl
  | root hroot hdirectory => exact snd_makeDirectories_of_isDirectory hdirectory hn
  | there hup habove hdirectory ih =>
      exact snd_makeDirectories_of_above hup habove ih (.inl hdirectory) hn
  | new hup habove hmade ih => exact snd_makeDirectories_of_above hup habove ih (.inr ⟨_, hmade⟩) hn

/-- **The directories that are made are the missing ones.** -/
theorem makeDirectories_iff {n : Nat} {path : List Char} (hn : path.length ≤ n) :
    fs.makeDirectories n path = (made, .ok ()) ↔ Paved fs path made := by
  refine ⟨fun h => ?_, fun h => ?_⟩
  · have hpaved := paved_of_makeDirectories (congrArg Prod.snd h)
    rwa [h] at hpaved
  · have hsnd := snd_makeDirectories_of_paved h n hn
    exact Prod.ext (h.unique (paved_of_makeDirectories hsnd)) hsnd

end FileSystem

end ModuleBundler
