/-
ModuleBundler/Proofs/Files/Lookup.lean

What one look-up has to do with another.

* When names are added (`Grown`), a path leads where it led, and one that led to a name that
  nothing had leads to what has the name now (`Grown.look`).
* To look for a link itself makes no difference but at a link (`look_itself`).
* What a path leads to lies in the directory that the path above leads to
  (`isDirectory_parent?`).

Each is shown for segments on the assumption that it holds of what follows a link, and from
there for any number of links (`lookThrough_induction`).
-/
import ModuleBundler.Files.System
import ModuleBundler.Proofs.Location.Parent

namespace ModuleBundler

open Segment

namespace FileSystem

variable {fs grown : FileSystem} {itself : Bool}
variable {follow follow' : List (List Char) → List (List Char) → Except SystemError Spot}
variable {names : List (List Char)} {s : List Char}

/-! ### Segments -/

/-- A segment that is looked up in a directory. -/
structure IsEntry (s : List Char) : Prop where
  nonempty : ¬s.isEmpty = true
  dot : ¬s = ['.']
  dots : ¬s = ['.', '.']

theorem lookFrom_empty (hs : s.isEmpty = true) (rest : List (List Char)) :
    fs.lookFrom itself follow names (s :: rest) = fs.lookFrom itself follow names rest := by
  rw [lookFrom, if_pos hs]

theorem lookFrom_refused (hs : ¬s.isEmpty = true) {e : SystemError}
    (hask : fs.ask (.search names) = .error e) (rest : List (List Char)) :
    fs.lookFrom itself follow names (s :: rest) = .error e := by
  rw [lookFrom, if_neg hs, hask]

section

variable (hask : fs.ask (.search names) = .ok ())
include hask

theorem lookFrom_dot (rest : List (List Char)) :
    fs.lookFrom itself follow names (['.'] :: rest) = fs.lookFrom itself follow names rest := by
  rw [lookFrom, if_neg (by decide), hask]
  rfl

theorem lookFrom_dots (rest : List (List Char)) :
    fs.lookFrom itself follow names (['.', '.'] :: rest) =
      fs.lookFrom itself follow names.dropLast rest := by
  rw [lookFrom, if_neg (by decide), hask]
  rfl

variable (hs : IsEntry s)
include hs

theorem lookFrom_long (hlong : nameLimit < bytes s) (rest : List (List Char)) :
    fs.lookFrom itself follow names (s :: rest) = .error .nameTooLong := by
  rw [lookFrom, if_neg hs.nonempty, hask]
  dsimp only
  rw [if_neg hs.dot, if_neg hs.dots, if_pos hlong]

variable (hfits : ¬nameLimit < bytes s)
include hfits

theorem lookFrom_directory (h : fs.node? (names ++ [s]) = some .directory)
    (rest : List (List Char)) :
    fs.lookFrom itself follow names (s :: rest) = fs.lookFrom itself follow (names ++ [s]) rest := by
  rw [lookFrom, if_neg hs.nonempty, hask]
  dsimp only
  rw [if_neg hs.dot, if_neg hs.dots, if_neg hfits, h]

theorem lookFrom_link {target : List Char} (h : fs.node? (names ++ [s]) = some (.link target))
    (rest : List (List Char)) :
    fs.lookFrom itself follow names (s :: rest) =
      if itself && rest.all List.isEmpty then
        .ok (.found (names ++ [s]) (.link target) !rest.isEmpty)
      else if target.isEmpty then .error .notFound
      else follow (origin names target) (split target ++ rest) := by
  rw [lookFrom, if_neg hs.nonempty, hask]
  dsimp only
  rw [if_neg hs.dot, if_neg hs.dots, if_neg hfits, h]

theorem lookFrom_last {node : FileNode} (h : fs.node? (names ++ [s]) = some node)
    (hdirectory : node ≠ .directory) (hlink : ∀ target, node ≠ .link target)
    (rest : List (List Char)) :
    fs.lookFrom itself follow names (s :: rest) =
      if rest.all List.isEmpty then .ok (.found (names ++ [s]) node !rest.isEmpty)
      else .error .notDirectory := by
  rw [lookFrom, if_neg hs.nonempty, hask]
  dsimp only
  rw [if_neg hs.dot, if_neg hs.dots, if_neg hfits, h]
  cases node with
  | directory => exact absurd rfl hdirectory
  | link target => exact absurd rfl (hlink target)
  | file | device => rfl

theorem lookFrom_none (h : fs.node? (names ++ [s]) = none) (rest : List (List Char)) :
    fs.lookFrom itself follow names (s :: rest) =
      if rest.all List.isEmpty then .ok (.missing (names ++ [s]) !rest.isEmpty)
      else .error .notFound := by
  rw [lookFrom, if_neg hs.nonempty, hask]
  dsimp only
  rw [if_neg hs.dot, if_neg hs.dots, if_neg hfits, h]

end

/-- Separators lead nowhere else. -/
theorem lookFrom_of_all_isEmpty {ss : List (List Char)} (h : ss.all List.isEmpty = true) :
    fs.lookFrom itself follow names ss = .ok (.found names .directory false) := by
  induction ss with
  | nil => rfl
  | cons s ss ih =>
      rw [List.all_cons] at h
      obtain ⟨hs, hss⟩ := Bool.and_eq_true_iff.1 h
      rw [lookFrom_empty hs, ih hss]

/-- Idle segments lead nowhere else either, if they lead anywhere. -/
theorem lookFrom_of_active_eq_nil {ss : List (List Char)} (h : active ss = []) :
    fs.lookFrom itself follow names ss = .ok (.found names .directory false) ∨
      ∃ e, fs.lookFrom itself follow names ss = .error e := by
  induction ss with
  | nil => exact .inl rfl
  | cons s ss ih =>
      have hidle := active_eq_nil_iff.1 h
      have hrest := ih (active_eq_nil_iff.2 fun t ht => hidle t (List.mem_cons_of_mem s ht))
      rcases Bool.or_eq_true_iff.1 (hidle s List.mem_cons_self) with hs | hs
      · rwa [lookFrom_empty hs]
      · obtain rfl := eq_of_beq hs
        rcases hask : fs.ask (.search names) with e | u
        · exact .inr ⟨e, lookFrom_refused (by decide) hask ss⟩
        · rwa [lookFrom_dot hask]

/-- What holds of a look-up when it holds of what follows a link, holds for any number of links. -/
theorem lookThrough_induction (fs fs' : FileSystem) (itself itself' : Bool)
    {P : (List (List Char) → List (List Char) → Except SystemError Spot) →
      (List (List Char) → List (List Char) → Except SystemError Spot) → Prop}
    (hend : P (fun _ _ => .error .tooManyLinks) fun _ _ => .error .tooManyLinks)
    (hstep : ∀ f f', P f f' → P (fs.lookFrom itself f) (fs'.lookFrom itself' f')) (n : Nat) :
    P (fs.lookThrough itself n) (fs'.lookThrough itself' n) := by
  induction n with
  | zero => exact hstep _ _ hend
  | succ n ih => exact hstep _ _ ih

/-! ### Where a look-up ends -/

/-- What is said of a spot is so: what is found is there, unless it is a directory that the
look-up went back to, and what is missing is not. -/
def Holds (fs : FileSystem) : Spot → Prop
  | .found names node _ => node = .directory ∨ fs.node? names = some node
  | .missing names _ => names ≠ [] ∧ fs.node? names = none

theorem holds_lookFrom (hfollow : ∀ names ss spot, follow names ss = .ok spot → fs.Holds spot)
    (names ss : List (List Char)) (spot : Spot)
    (h : fs.lookFrom itself follow names ss = .ok spot) : fs.Holds spot := by
  fun_induction lookFrom fs itself follow names ss with
  | case1 =>
      cases h
      exact .inl rfl
  | case2 _ _ _ _ ih | case4 _ _ _ _ ih | case5 _ _ _ _ _ ih | case7 _ _ _ _ _ _ _ _ _ ih =>
      exact ih h
  | case3 | case6 | case9 | case12 | case14 => cases h
  | case8 names s rest hs hask hdot hdots hfits ends target hnode =>
      cases h
      exact .inr hnode
  | case10 => exact hfollow _ _ _ h
  | case11 names s rest hs hask hdot hdots hfits ends node hdirectory hlink hnode =>
      cases h
      exact .inr hnode
  | case13 names s rest hs hask hdot hdots hfits ends hnode =>
      cases h
      exact ⟨by simp, hnode⟩

theorem holds_look {path : String} {spot : Spot} (h : fs.look path itself = .ok spot) :
    fs.Holds spot := by
  unfold look at h
  split at h
  · cases h
  split at h
  · cases h
  split at h
  · cases h
  refine lookThrough_induction fs fs itself itself
    (P := fun f _ => ∀ names ss spot, f names ss = .ok spot → fs.Holds spot)
    (fun _ _ _ h => nomatch h) (fun f _ hf => holds_lookFrom hf) linkLimit _ _ _ h

/-! ### With more names -/

/-- One file system is another with more names, and none of them a link. -/
structure Grown (fs grown : FileSystem) : Prop where
  home : grown.home = fs.home
  refusal : grown.refusal = fs.refusal
  kept : ∀ {names node}, fs.node? names = some node → grown.node? names = some node
  link : ∀ {names target}, grown.node? names = some (.link target) →
    fs.node? names = some (.link target)

theorem Grown.refl (fs : FileSystem) : Grown fs fs := ⟨rfl, rfl, id, id⟩

theorem Grown.trans {fs₁ fs₂ fs₃ : FileSystem} (h₁ : Grown fs₁ fs₂) (h₂ : Grown fs₂ fs₃) :
    Grown fs₁ fs₃ :=
  ⟨h₂.home.trans h₁.home, h₂.refusal.trans h₁.refusal, h₂.kept ∘ h₁.kept, h₁.link ∘ h₂.link⟩

/-- What is asked for is answered as before. -/
theorem Grown.ask_eq (h : Grown fs grown) (a : Access) : grown.ask a = fs.ask a := by
  rw [ask, ask, h.refusal]

/-- What is at a spot when there is more. -/
def spotIn (fs : FileSystem) : Spot → Spot
  | .found names node separator => .found names node separator
  | .missing names separator =>
      match fs.node? names with
      | none => .missing names separator
      | some .directory => .found names .directory false
      | some node => .found names node separator

/-- What is answered when there is more: the same, but for what was not found. -/
def Lasts (grown : FileSystem) (answer later : Except SystemError Spot) : Prop :=
  answer = .error .notFound ∨ later = answer.map grown.spotIn

theorem Grown.lookFrom (h : Grown fs grown)
    (hfollow : ∀ names ss, grown.Lasts (follow names ss) (follow' names ss))
    (names ss : List (List Char)) :
    grown.Lasts (fs.lookFrom itself follow names ss) (grown.lookFrom itself follow' names ss) := by
  fun_induction FileSystem.lookFrom fs itself follow names ss with
  | case1 => exact .inr rfl
  | case2 names s rest hs ih => rwa [lookFrom_empty hs]
  | case3 names s rest hs e hask =>
      rw [lookFrom_refused hs ((h.ask_eq _).trans hask)]
      exact .inr rfl
  | case4 names rest hask hs ih => rwa [lookFrom_dot ((h.ask_eq _).trans hask)]
  | case5 names rest hask hs hdot ih => rwa [lookFrom_dots ((h.ask_eq _).trans hask)]
  | case6 names s rest hs hask hdot hdots hlong =>
      rw [lookFrom_long ((h.ask_eq _).trans hask) ⟨hs, hdot, hdots⟩ hlong]
      exact .inr rfl
  | case7 names s rest hs hask hdot hdots hfits hnode ih =>
      rwa [lookFrom_directory ((h.ask_eq _).trans hask) ⟨hs, hdot, hdots⟩ hfits (h.kept hnode)]
  | case8 names s rest hs hask hdot hdots hfits ends target hnode hends =>
      rw [lookFrom_link ((h.ask_eq _).trans hask) ⟨hs, hdot, hdots⟩ hfits (h.kept hnode)]
      exact .inr (if_pos hends)
  | case9 => exact .inl rfl
  | case10 names s rest hs hask hdot hdots hfits ends target hnode hends hempty =>
      rw [lookFrom_link ((h.ask_eq _).trans hask) ⟨hs, hdot, hdots⟩ hfits (h.kept hnode),
        if_neg hends, if_neg hempty]
      exact hfollow _ _
  | case11 names s rest hs hask hdot hdots hfits ends node hdirectory hlink hnode hends =>
      rw [lookFrom_last ((h.ask_eq _).trans hask) ⟨hs, hdot, hdots⟩ hfits (h.kept hnode) hdirectory
        hlink]
      exact .inr (if_pos hends)
  | case12 names s rest hs hask hdot hdots hfits ends node hdirectory hlink hnode hends =>
      rw [lookFrom_last ((h.ask_eq _).trans hask) ⟨hs, hdot, hdots⟩ hfits (h.kept hnode) hdirectory
        hlink]
      exact .inr (if_neg hends)
  | case13 names s rest hs hask hdot hdots hfits ends hnode hends =>
      have hname : IsEntry s := ⟨hs, hdot, hdots⟩
      have hnow := (h.ask_eq _).trans hask
      refine .inr ?_
      rw [Except.map, spotIn]
      rcases hlater : grown.node? (names ++ [s]) with - | (number | - | target | d)
      · rw [lookFrom_none hnow hname hfits hlater]
        exact if_pos hends
      · rw [lookFrom_last hnow hname hfits hlater nofun nofun]
        exact if_pos hends
      · -- nothing but separators is left to look up in the directory
        rw [lookFrom_directory hnow hname hfits hlater, lookFrom_of_all_isEmpty hends]
      · rw [h.link hlater] at hnode
        cases hnode
      · rw [lookFrom_last hnow hname hfits hlater nofun nofun]
        exact if_pos hends
  | case14 => exact .inl rfl

/-- **When names are added, a path leads where it led, or to what is there now.** -/
theorem Grown.look (h : Grown fs grown) (itself : Bool) (path : String) :
    grown.Lasts (fs.look path itself) (grown.look path itself) := by
  unfold FileSystem.look
  rw [h.home]
  split
  · exact .inr rfl
  split
  · exact .inl rfl
  split
  · exact .inr rfl
  exact lookThrough_induction fs grown itself itself
    (P := fun f f' => ∀ names ss, grown.Lasts (f names ss) (f' names ss))
    (fun _ _ => .inr rfl) (fun f f' hf => h.lookFrom hf) linkLimit _ _

theorem Grown.look_found (h : Grown fs grown) {path : String} {node : FileNode} {separator : Bool}
    (hlook : fs.look path itself = .ok (.found names node separator)) :
    grown.look path itself = .ok (.found names node separator) := by
  rcases h.look itself path with hnone | hlater
  · rw [hlook] at hnone
    cases hnone
  · rw [hlater, hlook]
    rfl

theorem Grown.look_missing (h : Grown fs grown) {path : String} {separator : Bool}
    (hlook : fs.look path itself = .ok (.missing names separator)) :
    grown.look path itself = .ok (grown.spotIn (.missing names separator)) := by
  rcases h.look itself path with hnone | hlater
  · rw [hlook] at hnone
    cases hnone
  · rw [hlater, hlook]
    rfl

theorem Grown.look_error (h : Grown fs grown) {path : String} {e : SystemError}
    (hlook : fs.look path itself = .error e) (he : e ≠ .notFound) :
    grown.look path itself = .error e := by
  rcases h.look itself path with hnone | hlater
  · rw [hlook] at hnone
    exact absurd (Except.error.inj hnone) he
  · rw [hlater, hlook]
    rfl

/-! ### Links themselves -/

/-- An answer is of a link itself. -/
def IsOfLink (answer : Except SystemError Spot) : Prop :=
  ∃ names target separator, answer = .ok (.found names (.link target) separator)

theorem lookFrom_itself
    (hfollow : ∀ names ss, IsOfLink (follow names ss) ∨ follow names ss = follow' names ss)
    (names ss : List (List Char)) :
    IsOfLink (fs.lookFrom true follow names ss) ∨
      fs.lookFrom true follow names ss = fs.lookFrom false follow' names ss := by
  fun_induction lookFrom fs true follow names ss with
  | case1 => exact .inr rfl
  | case2 names s rest hs ih => rwa [lookFrom_empty hs]
  | case3 names s rest hs e hask => exact .inr (lookFrom_refused hs hask rest).symm
  | case4 names rest hask hs ih => rwa [lookFrom_dot hask]
  | case5 names rest hask hs hdot ih => rwa [lookFrom_dots hask]
  | case6 names s rest hs hask hdot hdots hlong =>
      exact .inr (lookFrom_long hask ⟨hs, hdot, hdots⟩ hlong rest).symm
  | case7 names s rest hs hask hdot hdots hfits hnode ih =>
      rwa [lookFrom_directory hask ⟨hs, hdot, hdots⟩ hfits hnode]
  | case8 names s rest hs hask hdot hdots hfits ends target hnode hends => exact .inl ⟨_, _, _, rfl⟩
  | case9 names s rest hs hask hdot hdots hfits ends target hnode hends hempty =>
      rw [lookFrom_link hask ⟨hs, hdot, hdots⟩ hfits hnode]
      exact .inr (if_pos hempty).symm
  | case10 names s rest hs hask hdot hdots hfits ends target hnode hends hempty =>
      rw [lookFrom_link hask ⟨hs, hdot, hdots⟩ hfits hnode, Bool.false_and,
        if_neg Bool.false_ne_true, if_neg hempty]
      exact hfollow _ _
  | case11 names s rest hs hask hdot hdots hfits ends node hdirectory hlink hnode hends =>
      rw [lookFrom_last hask ⟨hs, hdot, hdots⟩ hfits hnode hdirectory hlink]
      exact .inr (if_pos hends).symm
  | case12 names s rest hs hask hdot hdots hfits ends node hdirectory hlink hnode hends =>
      rw [lookFrom_last hask ⟨hs, hdot, hdots⟩ hfits hnode hdirectory hlink]
      exact .inr (if_neg hends).symm
  | case13 names s rest hs hask hdot hdots hfits ends hnode hends =>
      rw [lookFrom_none hask ⟨hs, hdot, hdots⟩ hfits hnode]
      exact .inr (if_pos hends).symm
  | case14 names s rest hs hask hdot hdots hfits ends hnode hends =>
      rw [lookFrom_none hask ⟨hs, hdot, hdots⟩ hfits hnode]
      exact .inr (if_neg hends).symm

/-- **To look for a link itself makes a difference at links only.** -/
theorem look_itself (fs : FileSystem) (path : String) :
    IsOfLink (fs.look path true) ∨ fs.look path true = fs.look path := by
  unfold look
  split
  · exact .inr rfl
  split
  · exact .inr rfl
  split
  · exact .inr rfl
  exact lookThrough_induction fs fs true false
    (P := fun f f' => ∀ names ss, IsOfLink (f names ss) ∨ f names ss = f' names ss)
    (fun _ _ => .inr rfl) (fun f f' hf => lookFrom_itself hf) linkLimit _ _

/-! ### The directory above -/

/-- The front of segments that lead somewhere leads to a directory, also with separators behind
it. -/
theorem lookFrom_front {rest tail : List (List Char)} (hrest : ¬rest.all List.isEmpty = true)
    (htail : tail.all List.isEmpty = true)
    (hfollow : ∀ names front spot, follow names (front ++ rest) = .ok spot →
      ∃ d, follow' names (front ++ tail) = .ok (.found d .directory false))
    (names front : List (List Char)) (spot : Spot)
    (h : fs.lookFrom itself follow names (front ++ rest) = .ok spot) :
    ∃ d, fs.lookFrom false follow' names (front ++ tail) = .ok (.found d .directory false) := by
  induction front generalizing names with
  | nil => exact ⟨names, lookFrom_of_all_isEmpty htail⟩
  | cons s front ih =>
      rw [List.cons_append] at h ⊢
      by_cases hs : s.isEmpty = true
      · rw [lookFrom_empty hs] at h ⊢
        exact ih names h
      rcases hask : fs.ask (.search names) with e | u
      · rw [lookFrom_refused hs hask] at h
        cases h
      by_cases hdot : s = ['.']
      · subst hdot
        rw [lookFrom_dot hask] at h ⊢
        exact ih _ h
      by_cases hdots : s = ['.', '.']
      · subst hdots
        rw [lookFrom_dots hask] at h ⊢
        exact ih _ h
      have hname : IsEntry s := ⟨hs, hdot, hdots⟩
      by_cases hlong : nameLimit < bytes s
      · rw [lookFrom_long hask hname hlong] at h
        cases h
      have hends : ¬(front ++ rest).all List.isEmpty = true := by
        rw [List.all_append]
        simp [hrest]
      rcases hnode : fs.node? (names ++ [s]) with - | (number | - | target | d)
      · rw [lookFrom_none hask hname hlong hnode, if_neg hends] at h
        cases h
      · rw [lookFrom_last hask hname hlong hnode nofun nofun, if_neg hends] at h
        cases h
      · rw [lookFrom_directory hask hname hlong hnode] at h ⊢
        exact ih _ h
      · rw [lookFrom_link hask hname hlong hnode] at h ⊢
        rw [Bool.false_and, if_neg Bool.false_ne_true]
        rw [if_neg fun hboth => hends (Bool.and_eq_true_iff.1 hboth).2] at h
        split at h
        · cases h
        next hempty =>
          rw [if_neg hempty]
          rw [← List.append_assoc] at h ⊢
          exact hfollow _ _ _ h
      · rw [lookFrom_last hask hname hlong hnode nofun nofun, if_neg hends] at h
        cases h

theorem bytes_le_of_isPrefix {s t : List Char} (h : s <+: t) : bytes s ≤ bytes t := by
  obtain ⟨rest, rfl⟩ := h
  unfold bytes
  rw [List.foldl_append]
  generalize s.foldl (fun n c => n + c.utf8Size) 0 = n
  induction rest generalizing n with
  | nil => exact Nat.le_refl n
  | cons c rest ih => exact Nat.le_trans (Nat.le_add_right _ _) (ih _)

/-- A path that is looked up at all. -/
structure Lookable (path : List Char) : Prop where
  plain : '\x00' ∉ path
  ne_nil : path ≠ []
  short : bytes path ≤ pathLimit

theorem look_eq (fs : FileSystem) (itself : Bool) {path : List Char} (h : Lookable path) :
    fs.look (String.ofList path) itself =
      fs.lookThrough itself linkLimit (origin fs.home path) (split path) := by
  unfold look
  rw [String.toList_ofList, if_neg (by simpa using h.plain), if_neg (by simpa using h.ne_nil),
    if_neg (Nat.not_lt.2 h.short)]

theorem Lookable.of_look {path : List Char} {spot : Spot}
    (h : fs.look (String.ofList path) itself = .ok spot) : Lookable path := by
  unfold look at h
  rw [String.toList_ofList] at h
  split at h
  · cases h
  next hplain =>
    split at h
    · cases h
    next hne =>
      split at h
      · cases h
      next hshort =>
        exact ⟨by simpa using hplain, by simpa using hne, Nat.not_lt.1 hshort⟩

/-- **What a path leads to lies in the directory that the path above leads to.** -/
theorem isDirectory_parent? {path up : List Char} {spot : Spot}
    (h : fs.look (String.ofList path) itself = .ok spot) (hup : parent? path = some up)
    (hne : up ≠ []) : fs.isDirectory (String.ofList up) = true := by
  have hpath := Lookable.of_look h
  have hbegin := parent?_isPrefix hup
  have hlookable : Lookable up :=
    ⟨fun hmem => hpath.plain (hbegin.subset hmem), hne,
      Nat.le_trans (bytes_le_of_isPrefix hbegin) hpath.short⟩
  obtain ⟨front, behind, tail, hsplit, hbehind, hup', htail⟩ := exists_split_of_parent? hup hne
  rw [look_eq fs itself hpath, hsplit] at h
  obtain ⟨d, hfront⟩ := lookThrough_induction fs fs itself false
    (P := fun f f' => ∀ names front spot, f names (front ++ behind) = .ok spot →
      ∃ d, f' names (front ++ tail) = .ok (.found d .directory false))
    (fun _ _ _ h => nomatch h) (fun f f' hf => lookFrom_front hbehind htail hf) linkLimit _ _ _ h
  have horigin : origin fs.home up = origin fs.home path := by
    unfold origin
    simp only [head?_parent? hup]
  unfold isDirectory
  rw [look_eq fs false hlookable, horigin, hup', hfront]

end FileSystem

end ModuleBundler
