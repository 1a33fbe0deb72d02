/-
ModuleBundler/Proofs/Graph/Build.lean

What one build contributes to a search.  Number aside, the asset of a file is a
function of the path (`Project.compiled`), and the number is the next one
(`build_eq`, `numbering_build`).  As `normalize` is idempotent, the module that a path
gives is also the module of the name it goes by (`compiled_filename`), so that two
modules of one name are the same.
-/
import Mathlib.Data.List.Forall2
import ModuleBundler.Graph.Discovery
import ModuleBundler.Proofs.Location.Canonical

namespace ModuleBundler

/-! ### Compiled modules -/

/-- A compiled module, before it has a number. -/
structure CompiledModule where
  filename : String
  code : String
  dependencies : List String
deriving DecidableEq, Inhabited, Repr

namespace CompiledModule

/-- The module as an asset that is not linked yet. -/
def numbered (m : CompiledModule) (id : Nat) : UnlinkedAsset :=
  ⟨id, m.filename, m.code, m.dependencies⟩

/-- The files that the module imports, one for each of its dependencies. -/
def targets (m : CompiledModule) : List String := m.dependencies.map (resolve m.filename)

theorem normalize_of_mem_targets {m : CompiledModule} {file : String} (h : file ∈ m.targets) :
    normalize file = file := by
  obtain ⟨s, -, rfl⟩ := List.mem_map.1 h
  exact normalize_resolve _ _

end CompiledModule

/-- An asset without its number. -/
def UnlinkedAsset.content (a : UnlinkedAsset) : CompiledModule :=
  ⟨a.filename, a.code, a.dependencies⟩

/-- An asset without its number and those of its dependencies. -/
def Asset.content (a : Asset) : CompiledModule := ⟨a.filename, a.code, a.dependencies⟩

@[simp] theorem CompiledModule.content_numbered (m : CompiledModule) (id : Nat) :
    (m.numbered id).content = m := rfl

@[simp] theorem CompiledModule.id_numbered (m : CompiledModule) (id : Nat) :
    (m.numbered id).id = id := rfl

@[simp] theorem UnlinkedAsset.content_link (a : UnlinkedAsset) (mapping : Table String Nat) :
    (a.link mapping).content = a.content := rfl

@[simp] theorem UnlinkedAsset.id_link (a : UnlinkedAsset) (mapping : Table String Nat) :
    (a.link mapping).id = a.id := rfl

namespace Project

/-- Reads, accepts and compiles the module of a file. -/
def compiled (p : Project) (path : String) : Except BuildError CompiledModule :=
  match SourceModule.ofFile p.read path with
  | .error e => .error e
  | .ok m =>
      match m.compile p.target with
      | .error e => .error e
      | .ok code => .ok ⟨m.filename, code, m.dependencies⟩

variable {p : Project} {path : String}

theorem filename_of_ofFile {read : Reader} {m : SourceModule}
    (h : SourceModule.ofFile read path = .ok m) : m.filename = normalize path := by
  simp only [SourceModule.ofFile, SourceModule.ofText] at h
  split at h
  · cases h
  · split at h
    · cases h
    · cases h
      rfl

theorem ofFile_normalize (read : Reader) (path : String) :
    SourceModule.ofFile read (normalize path) = SourceModule.ofFile read path := by
  unfold SourceModule.ofFile
  rw [normalize_normalize]

theorem compiled_normalize (p : Project) (path : String) :
    p.compiled (normalize path) = p.compiled path := by
  unfold compiled
  rw [ofFile_normalize]

/-- A module goes by the normal path of its file. -/
theorem filename_of_compiled {m : CompiledModule} (h : p.compiled path = .ok m) :
    m.filename = normalize path := by
  unfold compiled at h
  split at h
  · cases h
  · split at h
    · cases h
    · rename_i hfile _ _ _
      cases h
      exact filename_of_ofFile hfile

/-- What a module is follows from the name it goes by. -/
theorem compiled_filename {m : CompiledModule} (h : p.compiled path = .ok m) :
    p.compiled m.filename = .ok m := by
  rw [filename_of_compiled h, compiled_normalize, h]

theorem eq_of_filename_eq {m m' : CompiledModule} (h : p.compiled m.filename = .ok m)
    (h' : p.compiled m'.filename = .ok m') (hname : m.filename = m'.filename) : m = m' := by
  rw [hname, h'] at h
  exact (Except.ok.inj h).symm

/-- The asset that a build gives, but for its number, does not depend on the numbers handed out
before. -/
theorem build_eq (p : Project) (path : String) (n : Numbering) :
    (p.build path n).1 = (p.compiled path).map (·.numbered n.issued) := by
  unfold build compiled
  rcases SourceModule.ofFile p.read path with e | m
  · rfl
  · simp only [Numbering.next]
    rcases m.compile p.target with e | code <;> rfl

/-- A build that succeeds hands out one number. -/
theorem numbering_build {m : CompiledModule} (h : p.compiled path = .ok m) (n : Numbering) :
    (p.build path n).2 = ⟨n.issued + 1⟩ := by
  unfold compiled at h
  unfold build
  rcases hm : SourceModule.ofFile p.read path with e | m
  · rw [hm] at h
    cases h
  · rfl

/-- Compiles files, up to the first that fails. -/
def compileAll (p : Project) (paths : List String) : Except BuildError (List CompiledModule) :=
  paths.mapM p.compiled

theorem compileAll_cons_error {e : BuildError} (h : p.compiled path = .error e)
    (paths : List String) : p.compileAll (path :: paths) = .error e := by
  simp only [compileAll, List.mapM_cons, h]
  rfl

theorem compileAll_cons_ok {m : CompiledModule} (h : p.compiled path = .ok m)
    (paths : List String) :
    p.compileAll (path :: paths) = (p.compileAll paths).map (m :: ·) := by
  simp only [compileAll, List.mapM_cons, h]
  show (do return m :: (← paths.mapM p.compiled) : Except _ _) = _
  rcases paths.mapM p.compiled with e | ms <;> rfl

/-- The modules of a list of files, file by file. -/
theorem forall₂_of_compileAll {paths : List String} {ms : List CompiledModule}
    (h : p.compileAll paths = .ok ms) :
    List.Forall₂ (fun path m => p.compiled path = .ok m) paths ms := by
  induction paths generalizing ms with
  | nil =>
      cases h
      exact .nil
  | cons path paths ih =>
      rcases hm : p.compiled path with e | m
      · rw [compileAll_cons_error hm] at h
        cases h
      · rw [compileAll_cons_ok hm] at h
        rcases hms : p.compileAll paths with e | ms'
        · rw [hms] at h
          cases h
        · rw [hms] at h
          cases h
          exact .cons hm (ih hms)

theorem compiled_of_mem_compileAll {paths : List String} {ms : List CompiledModule}
    (h : p.compileAll paths = .ok ms) {m : CompiledModule} (hm : m ∈ ms) :
    p.compiled m.filename = .ok m := by
  have hall := forall₂_of_compileAll h
  clear h
  induction hall with
  | nil => exact absurd hm List.not_mem_nil
  | cons hhead _ ih =>
      rcases List.mem_cons.1 hm with rfl | hm
      · exact compiled_filename hhead
      · exact ih hm

/-- Modules of files whose paths are normal go by these paths. -/
theorem filenames_of_compileAll {paths : List String} {ms : List CompiledModule}
    (h : p.compileAll paths = .ok ms) (hpaths : ∀ path ∈ paths, normalize path = path) :
    ms.map (·.filename) = paths := by
  have hall := forall₂_of_compileAll h
  clear h
  induction hall with
  | nil => rfl
  | cons hhead _ ih =>
      have hnormal := hpaths _ List.mem_cons_self
      rw [List.map_cons, filename_of_compiled hhead, hnormal,
        ih fun path hpath => hpaths path (List.mem_cons_of_mem _ hpath)]

/-- Some of the files that a module imports go by their paths, as those are normal. -/
theorem filenames_of_subset_targets {m : CompiledModule} {paths : List String}
    {ms : List CompiledModule} (h : p.compileAll paths = .ok ms) (hpaths : paths ⊆ m.targets) :
    ms.map (·.filename) = paths :=
  filenames_of_compileAll h fun _ hpath => CompiledModule.normalize_of_mem_targets (hpaths hpath)

end Project

end ModuleBundler
