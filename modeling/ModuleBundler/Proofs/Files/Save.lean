/-
ModuleBundler/Proofs/Files/Save.lean

Main results: `Command.exists_save` and `Command.save_iff_writable`.

A text is saved where a path leads when the missing directories on the way are made (`Writable`).
That is a file, by any of its names, a new file or a device.  `FileSystem.Written` says what comes
of it: what a write does is shown first (`exists_written`), and the directories that are made
before it are put in front (`Written.of_paved`).
-/
import ModuleBundler.Command.Run
import ModuleBundler.Proofs.Files.Directories

namespace ModuleBundler

/-- A path is on the way to another. -/
def IsAbove : List Char → List Char → Prop :=
  Relation.TransGen fun up path => parent? path = some up

namespace FileSystem

variable {fs saved : FileSystem} {path text : String} {sink : Sink}

/-- A path leads to something, whatever links it goes through. -/
def LeadsTo (fs : FileSystem) (path : String) (names : List (List Char)) (node : FileNode) : Prop :=
  fs.look path = .ok (.found names node false)

/-- A text can be written to what a path leads to: a file, a name that nothing has, or a device. -/
inductive Takes (fs : FileSystem) : Spot → Sink → Prop where
  | file (names : List (List Char)) {number : Nat} (h : fs.ask (.write number) = .ok ()) :
      Takes fs (.found names (.file number) false) .nowhere
  | new {names : List (List Char)} (h : fs.ask (.add names.dropLast) = .ok ()) :
      Takes fs (.missing names false) .nowhere
  | device (names : List (List Char)) {d : Device} {sink : Sink} (h : d.sink = .ok sink) :
      Takes fs (.found names (.device d) false) sink

/-- A path that a text can be written to.  The missing directories on the way to it can be made,
and then it leads to something that takes texts. -/
def Writable (fs : FileSystem) (path : String) : Prop :=
  ∃ made spot sink, fs.Paved ((parent? path.toList).getD []) made ∧ made.look path = .ok spot ∧
    made.Takes spot sink

/-- One file system is another with a text written where a path leads. -/
structure Written (fs saved : FileSystem) (path text : String) (sink : Sink) : Prop where
  /-- Nothing is gone. -/
  grown : fs.Grown saved
  /-- What is new is a directory on the way to the path, or the file that it leads to. -/
  new : ∀ {names}, fs.node? names = none → saved.node? names = none ∨
    (saved.node? names = some .directory ∧
      ∃ up, IsAbove up path.toList ∧ saved.LeadsTo (String.ofList up) names .directory) ∨
    ∃ number, saved.node? names = some (.file number) ∧ saved.LeadsTo path names (.file number) ∧
      ∀ other, fs.node? other ≠ some (.file number)
  /-- The path leads to a file that has the text, and gives it to all who may read it, whatever path
  they take; or it leads to a device that took the text. -/
  place : (∃ names number, saved.LeadsTo path names (.file number) ∧ sink = .nowhere ∧
      saved.content number = text.toUTF8 ∧
      (fs.ask (.read number) = .ok () →
        ∀ other names', saved.LeadsTo other names' (.file number) → saved.read other = .ok text)) ∨
    ∃ names d, saved.LeadsTo path names (.device d) ∧ d.sink = .ok sink
  /-- The other files hold what they held. -/
  contents : ∀ number, saved.content number = fs.content number ∨
    ∃ names, saved.LeadsTo path names (.file number)
  /-- What does not lead to that file reads as before. -/
  elsewhere : ∀ {other names node separator},
    fs.look other = .ok (.found names node separator) → saved.read other = fs.read other ∨
      ∃ number, node = .file number ∧ ∃ names, saved.LeadsTo path names (.file number)

/-! ### Numbers of files -/

theorem lt_freeNumber {names : List (List Char)} {number : Nat}
    (h : fs.node? names = some (.file number)) : number < fs.freeNumber := by
  have hmem : ∃ entry ∈ fs.nodes.entries, entry.2 = .file number := by
    unfold node? at h
    split at h
    · cases h
    · obtain ⟨entry, hfind, hnode⟩ := Option.map_eq_some_iff.1 h
      exact ⟨entry, List.mem_of_find?_eq_some hfind, hnode⟩
  obtain ⟨entry, hentry, hnode⟩ := hmem
  unfold freeNumber
  generalize fs.nodes.entries = entries at hentry
  induction entries with
  | nil => cases hentry
  | cons first rest ih =>
      rw [List.foldr_cons]
      rcases List.mem_cons.1 hentry with rfl | hrest
      · rw [hnode]
        exact Nat.lt_of_lt_of_le (Nat.lt_succ_self number) (Nat.le_max_right _ _)
      · have := ih hrest
        split
        · exact Nat.lt_of_lt_of_le this (Nat.le_max_left _ _)
        · exact this

/-! ### What is read -/

theorem content_setContent (fs : FileSystem) (number : Nat) (bytes : ByteArray) (other : Nat) :
    (fs.setContent number bytes).content other = if other = number then bytes else fs.content other := by
  unfold FileSystem.content FileSystem.setContent
  rw [Table.get?_put]
  split <;> rfl

theorem content_setContent_self (fs : FileSystem) (number : Nat) (bytes : ByteArray) :
    (fs.setContent number bytes).content number = bytes := by
  rw [content_setContent, if_pos rfl]

/-- A path that leads to the same reads the same, unless it leads to a file that holds something
else now. -/
theorem Grown.read_eq (h : Grown fs saved) {P : Nat → Prop}
    (hcontents : ∀ number, saved.content number = fs.content number ∨ P number)
    {other : String} {names : List (List Char)} {node : FileNode} {separator : Bool}
    (hlook : fs.look other = .ok (.found names node separator)) :
    saved.read other = fs.read other ∨ ∃ number, node = .file number ∧ P number := by
  have hread (hsource : saved.source node = fs.source node) : saved.read other = fs.read other := by
    unfold read
    rw [hlook, h.look_found hlook]
    cases separator
    · simp only [bind, Except.bind]
      rw [hsource]
    · rfl
  cases node with
  | file number =>
      refine (hcontents number).imp (fun hcontent => hread ?_) fun hnumber => ⟨number, rfl, hnumber⟩
      show (saved.ask _).map _ = (fs.ask _).map _
      rw [h.ask_eq, hcontent]
  | directory | link | device => exact .inl (hread rfl)

theorem read_of_content {names : List (List Char)} {number : Nat}
    (h : fs.LeadsTo path names (.file number)) (hask : fs.ask (.read number) = .ok ())
    (hcontent : fs.content number = text.toUTF8) : fs.read path = .ok text := by
  have htext : String.fromUTF8? text.toUTF8 = some text := by
    unfold String.fromUTF8?
    exact dif_pos text.isValidUTF8
  unfold LeadsTo at h
  unfold read
  simp only [h, bind, Except.bind, source, hask, Except.map, hcontent, htext]
  rfl

/-! ### Writing -/

theorem Grown.setContent (fs : FileSystem) (number : Nat) (bytes : ByteArray) :
    Grown fs (fs.setContent number bytes) :=
  ⟨rfl, rfl, id, id⟩

/-- What comes of a write to a file that is there. -/
theorem written_setContent {names : List (List Char)} {number : Nat}
    (h : fs.LeadsTo path names (.file number)) (text : String) :
    fs.Written (fs.setContent number text.toUTF8) path text .nowhere := by
  have hgrown : fs.Grown (fs.setContent number text.toUTF8) := .setContent fs number _
  have hpath : (fs.setContent number text.toUTF8).LeadsTo path names (.file number) :=
    hgrown.look_found h
  have hcontents (other : Nat) :
      (fs.setContent number text.toUTF8).content other = fs.content other ∨
        ∃ names, (fs.setContent number text.toUTF8).LeadsTo path names (.file other) := by
    by_cases heq : other = number
    · exact .inr ⟨names, heq ▸ hpath⟩
    · exact .inl (by rw [content_setContent, if_neg heq])
  refine ⟨hgrown, .inl, ?_, hcontents, hgrown.read_eq hcontents⟩
  have hcontent := content_setContent_self fs number text.toUTF8
  exact .inl ⟨names, number, hpath, rfl, hcontent,
    fun hask other names' hother => read_of_content hother hask hcontent⟩

/-- What comes of a write to a file that is not there yet. -/
theorem written_putFile {names : List (List Char)} (h : fs.look path = .ok (.missing names false))
    (text : String) : fs.Written (fs.putFile names text.toUTF8) path text .nowhere := by
  obtain ⟨hne, hnone⟩ := holds_look h
  have hput : fs.Grown (fs.put names (.file fs.freeNumber)) := .put hne hnone nofun
  have hgrown : fs.Grown (fs.putFile names text.toUTF8) := hput.trans (.setContent _ _ _)
  have hnode : (fs.putFile names text.toUTF8).node? names = some (.file fs.freeNumber) := by
    show (fs.put names (.file fs.freeNumber)).node? names = _
    rw [node?_put hne, if_pos rfl]
  have hpath : (fs.putFile names text.toUTF8).LeadsTo path names (.file fs.freeNumber) := by
    unfold LeadsTo
    rw [hgrown.look_missing h, spotIn, hnode]
  have hcontents (other : Nat) :
      (fs.putFile names text.toUTF8).content other = fs.content other ∨
        ∃ names', (fs.putFile names text.toUTF8).LeadsTo path names' (.file other) := by
    by_cases heq : other = fs.freeNumber
    · exact .inr ⟨names, heq ▸ hpath⟩
    · left
      show ((fs.put names (.file fs.freeNumber)).setContent _ _).content other = fs.content other
      rw [content_setContent, if_neg heq]
      rfl
  refine ⟨hgrown, fun {other} hother => ?_, ?_, hcontents, hgrown.read_eq hcontents⟩
  · by_cases heq : other = names
    · subst heq
      refine .inr (.inr ⟨_, hnode, hpath, fun other hold => ?_⟩)
      exact Nat.lt_irrefl _ (lt_freeNumber hold)
    · left
      show (fs.put names (.file fs.freeNumber)).node? other = _
      rw [node?_put hne, if_neg heq, hother]
  · have hcontent := content_setContent_self (fs.put names (.file fs.freeNumber)) fs.freeNumber
      text.toUTF8
    exact .inl ⟨names, _, hpath, rfl, hcontent,
      fun hask other names' hother => read_of_content hother hask hcontent⟩

/-- What comes of a write to a device. -/
theorem written_device {names : List (List Char)} {d : Device}
    (h : fs.LeadsTo path names (.device d)) (hsink : d.sink = .ok sink) (text : String) :
    fs.Written fs path text sink where
  grown := .refl fs
  new := .inl
  place := .inr ⟨names, d, h, hsink⟩
  contents _ := .inl rfl
  elsewhere _ := .inl rfl

/-- **What comes of a write.** -/
theorem exists_written {spot : Spot} (hlook : fs.look path = .ok spot) (h : fs.Takes spot sink)
    (text : String) : ∃ saved, fs.write path text = .ok (saved, sink) ∧
      fs.Written saved path text sink := by
  unfold write
  rw [hlook]
  cases h with
  | file names hask =>
      refine ⟨_, ?_, written_setContent hlook text⟩
      simp only [bind, Except.bind, hask]
      rfl
  | new hask =>
      refine ⟨_, ?_, written_putFile hlook text⟩
      simp only [bind, Except.bind, hask]
      rfl
  | @device names d _ hsink =>
      refine ⟨fs, ?_, written_device hlook hsink text⟩
      simp only [bind, Except.bind, hsink]
      rfl

/-- What was written had a place. -/
theorem exists_takes_of_write (h : fs.write path text = .ok (saved, sink)) :
    ∃ spot, fs.look path = .ok spot ∧ fs.Takes spot sink := by
  unfold write at h
  rcases hlook : fs.look path with e | spot
  · rw [hlook] at h
    cases h
  rw [hlook] at h
  refine ⟨spot, rfl, ?_⟩
  rcases spot with ⟨names, number | - | target | d, - | -⟩ | ⟨names, - | -⟩
  · rcases hask : fs.ask (.write number) with e | u
    · simp only [bind, Except.bind, hask] at h
      cases h
    · simp only [bind, Except.bind, hask] at h
      cases h
      exact .file names hask
  · cases h
  · cases h
  · cases h
  · cases h
  · cases h
  · rcases hsink : d.sink with e | sink'
    · simp only [bind, Except.bind, hsink] at h
      cases h
    · simp only [bind, Except.bind, hsink] at h
      cases h
      exact .device names hsink
  · cases h
  · rcases hask : fs.ask (.add names.dropLast) with e | u
    · simp only [bind, Except.bind, hask] at h
      cases h
    · simp only [bind, Except.bind, hask] at h
      cases h
      exact .new hask
  · cases h

/-- Directories are made before a text is written. -/
theorem Written.of_paved {made : FileSystem}
    (hpaved : fs.Paved ((parent? path.toList).getD []) made)
    (h : made.Written saved path text sink) : fs.Written saved path text sink := by
  have hgrown := hpaved.grown.trans h.grown
  have hcontents (number : Nat) : saved.content number = fs.content number ∨
      ∃ names, saved.LeadsTo path names (.file number) := by
    refine (h.contents number).imp_left fun hcontent => ?_
    rw [hcontent, content, content, hpaved.contents]
  refine ⟨hgrown, fun {names} hnone => ?_, ?_, hcontents, hgrown.read_eq hcontents⟩
  · rcases hpaved.node?_of_none hnone with hmade | ⟨hdirectory, part, hpart, hlook⟩
    · refine (h.new hmade).imp_right (Or.imp_right fun ⟨number, hnode, hpath, hothers⟩ => ?_)
      exact ⟨number, hnode, hpath, fun other hold => hothers other (hpaved.grown.kept hold)⟩
    · refine .inr (.inl ⟨h.grown.kept hdirectory, part, ?_, h.grown.look_found hlook⟩)
      rcases hup : parent? path.toList with - | up
      · -- nothing is made when nothing is above the path
        rw [hup] at hpaved
        rw [Paved.home.unique hpaved, hnone] at hdirectory
        cases hdirectory
      · rw [hup] at hpart
        exact .tail' hpart hup
  · refine h.place.imp_left fun ⟨names, number, hpath, hsink, hcontent, hread⟩ => ?_
    exact ⟨names, number, hpath, hsink, hcontent,
      fun hask => hread ((hpaved.grown.ask_eq _).trans hask)⟩

end FileSystem

namespace Command

open FileSystem

variable {fs : FileSystem} {path : String}

/-- The directories on the way to a path are prepared exactly if they can be made. -/
theorem prepare_iff {made : FileSystem} :
    prepare fs path = (made, .ok ()) ↔ fs.Paved ((parent? path.toList).getD []) made := by
  rw [← makeDirectories_iff (Nat.le_refl _)]
  unfold prepare
  dsimp only
  generalize fs.makeDirectories _ _ = result
  rcases result with ⟨above, e | u⟩
  · constructor <;> intro h <;> cases h
  · constructor <;> intro h <;> cases h <;> rfl

/-- **A text is saved at a path that can be written, and nothing else is.** -/
theorem exists_save (h : fs.Writable path) (text : String) :
    ∃ sink saved, save fs path text = (.written text sink, saved) ∧
      fs.Written saved path text sink := by
  obtain ⟨made, spot, sink, hpaved, hlook, htakes⟩ := h
  obtain ⟨saved, hwrite, hwritten⟩ := exists_written hlook htakes text
  refine ⟨sink, saved, ?_, hwritten.of_paved hpaved⟩
  unfold save
  simp only [prepare_iff.2 hpaved, hwrite]

/-- What is saved was at a path that can be written. -/
theorem writable_of_save {text : String} (h : (save fs path text).1.code = 0) :
    fs.Writable path := by
  unfold save at h
  rcases hprepare : prepare fs path with ⟨made, e | u⟩
  · rw [hprepare] at h
    cases h
  rw [hprepare] at h
  rcases hwrite : made.write path text with e | ⟨saved, sink⟩
  · simp only [hwrite] at h
    cases h
  · obtain ⟨spot, hlook, htakes⟩ := exists_takes_of_write hwrite
    exact ⟨made, spot, sink, prepare_iff.1 hprepare, hlook, htakes⟩

theorem code_written (text : String) (sink : Sink) : (Outcome.written text sink).code = 0 := by
  cases sink <;> rfl

/-- **A text is saved exactly at the paths that can be written.** -/
theorem save_iff_writable {text : String} :
    (save fs path text).1.code = 0 ↔ fs.Writable path := by
  refine ⟨writable_of_save, fun h => ?_⟩
  obtain ⟨sink, saved, hsave, -⟩ := exists_save h text
  rw [hsave]
  exact code_written text sink

/-- Where a text cannot be written, saving it fails. -/
theorem code_save_of_not_writable {text : String} (h : ¬ fs.Writable path) :
    (save fs path text).1.code = 1 := by
  have hcode : (save fs path text).1.code ≠ 0 := fun hzero => h (save_iff_writable.1 hzero)
  unfold save at hcode ⊢
  rcases hprepare : prepare fs path with ⟨made, e | u⟩
  · rfl
  rw [hprepare] at hcode
  dsimp only at hcode ⊢
  rcases hwrite : made.write path text with e | ⟨saved, sink⟩
  · rfl
  · rw [hwrite] at hcode
    exact absurd (code_written text sink) hcode

instance (fs : FileSystem) (path : String) : Decidable (fs.Writable path) :=
  decidable_of_iff ((save fs path "").1.code = 0) save_iff_writable

end Command

end ModuleBundler
