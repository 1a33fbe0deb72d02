/-
ModuleBundler/Proofs/Graph/Renaming.lean

Two searches side by side, the second in a project whose files have other names.  A
renaming (`Project.IsRenaming`) takes each file that the entry reaches to a file that
holds the same text, keeps files apart, and takes what a specifier leads to in the one
project to what it leads to in the other.

Then the two searches go in step (`Discovery.IsRenamed`): they hand out the same
numbers and hold the same assets in their queues, by other names, and a file is known
in the one exactly if it is known by its other name in the other.  So they end alike
(`Project.IsRenaming.search`): both fail, at the same file, or both give a graph, with the
same assets up to their names.

Nothing is asked of files that are not reached.
-/
import ModuleBundler.Bundle.Render
import ModuleBundler.Proofs.Graph.Ending

namespace ModuleBundler

/-! ### Other names -/

def CompiledModule.rename (f : String → String) (m : CompiledModule) : CompiledModule :=
  { m with filename := f m.filename }

def UnlinkedAsset.rename (f : String → String) (a : UnlinkedAsset) : UnlinkedAsset :=
  { a with filename := f a.filename }

def Asset.rename (f : String → String) (a : Asset) : Asset := { a with filename := f a.filename }

/-- The graph with other names for its files. -/
def AssetGraph.rename (f : String → String) (g : AssetGraph) : AssetGraph :=
  ⟨g.assets.map (Asset.rename f)⟩

/-- A bundle does not show the names of files. -/
theorem AssetGraph.bundle?_rename (f : String → String) (g : AssetGraph) :
    (g.rename f).bundle? = g.bundle? := by
  have hempty : (g.rename f).isEmpty = g.isEmpty := List.isEmpty_map
  have hhelpers : (g.rename f).usesHelpers = g.usesHelpers := List.any_map
  have hplain : (g.rename f).plainBundle = g.plainBundle := by
    simp only [plainBundle, rename, List.map_map]
    rfl
  simp only [bundle?, hempty, hhelpers, hplain]

theorem AssetGraph.rename_id (g : AssetGraph) : g.rename id = g :=
  congrArg AssetGraph.mk (List.map_id g.assets)

namespace Project

variable {p q : Project} {f : String → String} {entry entry' file : String}

/-- The files that an entry reaches are found in another project under other names, and specifiers
lead from there to where they should. -/
structure IsRenaming (p q : Project) (f : String → String) (entry entry' : String) : Prop where
  target_eq : q.target = p.target
  entry_eq : normalize entry' = f (normalize entry)
  /-- Both files hold the same text, or neither holds one. -/
  read_eq : ∀ {file}, p.Reaches entry file → (q.read (f file)).toOption = (p.read file).toOption
  resolve_eq : ∀ {file s}, p.Reaches entry file → s ∈ p.specifiers file →
    resolve (f file) s = f (resolve file s)
  normalize_eq : ∀ {file}, p.Reaches entry file → normalize (f file) = f file
  injective : ∀ {file other}, p.Reaches entry file → p.Reaches entry other →
    f file = f other → file = other

/-- The same failure, at a file that is reached and at the file by its other name. -/
inductive FailsAlike (p q : Project) (f : String → String) (entry : String) :
    BuildError → BuildError → Prop
  | unreadable {file : String} {cause cause' : ReadError} : p.Reaches entry file →
      p.read file = .error cause → q.read (f file) = .error cause' →
      FailsAlike p q f entry (.unreadable file cause) (.unreadable (f file) cause')
  | rejected {file : String} (ds : List Diagnostic) : p.Reaches entry file →
      FailsAlike p q f entry (.rejected file ds) (.rejected (f file) ds)
  | uncompilable {file : String} (ds : List Diagnostic) : p.Reaches entry file →
      FailsAlike p q f entry (.uncompilable file ds) (.uncompilable (f file) ds)

/-- Both end in the same failure, or in results that are related. -/
inductive EndsAlike (p q : Project) (f : String → String) (entry : String) {α β : Type}
    (R : α → β → Prop) : Except BuildError α → Except BuildError β → Prop
  | failed {x y : BuildError} :
      FailsAlike p q f entry x y → EndsAlike p q f entry R (.error x) (.error y)
  | done {a : α} {b : β} : R a b → EndsAlike p q f entry R (.ok a) (.ok b)

theorem EndsAlike.exists_of_ok {α β : Type} {R : α → β → Prop} {a : α} {y : Except BuildError β}
    (h : EndsAlike p q f entry R (.ok a) y) : ∃ b, y = .ok b ∧ R a b := by
  cases h with
  | done hab => exact ⟨_, rfl, hab⟩

theorem EndsAlike.imp {α β : Type} {R S : α → β → Prop} {x : Except BuildError α}
    {y : Except BuildError β} (hxy : EndsAlike p q f entry R x y) (hRS : ∀ a b, R a b → S a b) :
    EndsAlike p q f entry S x y := by
  cases hxy with
  | failed hfail => exact .failed hfail
  | done hab => exact .done (hRS _ _ hab)

theorem EndsAlike.bind {α β γ δ : Type} {R : α → β → Prop} {S : γ → δ → Prop}
    {x : Except BuildError α} {y : Except BuildError β} {g : α → Except BuildError γ}
    {h : β → Except BuildError δ} (hxy : EndsAlike p q f entry R x y)
    (hgh : ∀ a b, R a b → EndsAlike p q f entry S (g a) (h b)) :
    EndsAlike p q f entry S (x.bind g) (y.bind h) := by
  cases hxy with
  | failed hfail => exact .failed hfail
  | done hab => exact hgh _ _ hab

theorem EndsAlike.map {α β γ δ : Type} {R : α → β → Prop} {S : γ → δ → Prop}
    {x : Except BuildError α} {y : Except BuildError β} {g : α → γ} {h : β → δ}
    (hxy : EndsAlike p q f entry R x y) (hgh : ∀ a b, x = .ok a → R a b → S (g a) (h b)) :
    EndsAlike p q f entry S (x.map g) (y.map h) := by
  cases hxy with
  | failed hfail => exact .failed hfail
  | done hab => exact .done (hgh _ _ rfl hab)

theorem compiled_eq_bind (p : Project) (path : String) :
    p.compiled path = (SourceModule.ofFile p.read path).bind fun m =>
      (m.compile p.target).map fun code => ⟨m.filename, code, m.dependencies⟩ := by
  unfold Project.compiled
  rcases SourceModule.ofFile p.read path with x | m
  · rfl
  · dsimp only [Except.bind]
    rcases m.compile p.target with x | code <;> rfl

/-- A file holds the same module, by whichever name. -/
theorem IsRenaming.ofFile (h : p.IsRenaming q f entry entry') (hfile : p.Reaches entry file) :
    EndsAlike p q f entry (fun m m' => m.filename = file ∧ m' = { m with filename := f file })
      (SourceModule.ofFile p.read file) (SourceModule.ofFile q.read (f file)) := by
  have hread := h.read_eq hfile
  simp only [SourceModule.ofFile, hfile.normalize_eq, h.normalize_eq hfile, SourceModule.ofText]
  -- both read a text or neither does; `read_eq` rules the mixed cases out
  rcases hp : p.read file with cause | source <;>
    rcases hq : q.read (f file) with cause' | source' <;> rw [hp, hq] at hread
  · exact .failed (.unreadable hfile hp hq)
  · cases hread
  · cases hread
  · cases hread
    simp only
    rcases Program.parse false source.toList with ds | parsed
    · exact .failed (.rejected ds hfile)
    · exact .done ⟨rfl, rfl⟩

theorem EndsAlike.compile {m : SourceModule} (hfile : p.Reaches entry m.filename)
    (target : Target) :
    EndsAlike p q f entry Eq (m.compile target)
      ({ m with filename := f m.filename }.compile target) := by
  unfold SourceModule.compile
  dsimp only
  rcases m.program.compile target m.text with ds | code
  · exact .failed (.uncompilable ds hfile)
  · exact .done rfl

/-- A file compiles to the same, by whichever name. -/
theorem IsRenaming.compiled (h : p.IsRenaming q f entry entry') (hfile : p.Reaches entry file) :
    EndsAlike p q f entry (fun m m' => m.filename = file ∧ m' = m.rename f)
      (p.compiled file) (q.compiled (f file)) := by
  rw [compiled_eq_bind, compiled_eq_bind, h.target_eq]
  refine (h.ofFile hfile).bind ?_
  rintro m _ ⟨rfl, rfl⟩
  refine (EndsAlike.compile hfile p.target).map ?_
  rintro code _ - rfl
  exact ⟨rfl, rfl⟩

end Project

/-! ### Searches in step -/

namespace Discovery

variable {p q : Project} {f : String → String} {entry entry' : String} {dedupe : Bool}
  {d e : Discovery}

/-- A search has gone as far as another, by other names. -/
structure IsRenamed (p : Project) (f : String → String) (entry : String) (d e : Discovery) :
    Prop where
  numbering_eq : e.numbering = d.numbering
  /-- What is reached is known in both searches or in neither, under the same number. -/
  built_eq : ∀ {file}, p.Reaches entry file → e.built.get? (f file) = d.built.get? file
  queue_eq : e.queue = d.queue.map (UnlinkedAsset.rename f)
  finished_eq : e.finished = d.finished.map (Asset.rename f)
  /-- What waits is reached, and will have its own specifiers expanded. -/
  waiting : ∀ a ∈ d.queue, p.Reaches entry a.filename ∧ a.dependencies = p.specifiers a.filename

/-- Pushing the same module by both names keeps two searches in step. -/
theorem IsRenamed.push (h : p.IsRenaming q f entry entry') (hde : IsRenamed p f entry d e)
    {m : CompiledModule} (hreach : p.Reaches entry m.filename)
    (hm : p.compiled m.filename = .ok m) :
    IsRenamed p f entry (d.push m) (e.push (m.rename f)) where
  numbering_eq := by
    show Numbering.mk (e.numbering.issued + 1) = Numbering.mk (d.numbering.issued + 1)
    rw [hde.numbering_eq]
  built_eq := by
    intro file hfile
    show (e.built.put (f m.filename) _).get? (f file) = (d.built.put m.filename _).get? file
    rw [Table.get?_put, Table.get?_put, hde.built_eq hfile, hde.numbering_eq]
    -- other files keep what they have, since none of them gets the name of the module
    by_cases hname : file = m.filename
    · rw [if_pos hname, if_pos (congrArg f hname)]
    · rw [if_neg hname, if_neg fun hf => hname (h.injective hfile hreach hf)]
  queue_eq := by
    show e.queue ++ [_] = (d.queue ++ [_]).map (UnlinkedAsset.rename f)
    rw [List.map_append, hde.queue_eq, hde.numbering_eq]
    rfl
  finished_eq := hde.finished_eq
  waiting := by
    intro a ha
    rcases List.mem_append.1 ha with ha | ha
    · exact hde.waiting a ha
    · obtain rfl := List.mem_singleton.1 ha
      exact ⟨hreach, (Project.specifiers_of_compiled hm).symm⟩

theorem IsRenamed.enqueue (h : p.IsRenaming q f entry entry') (hde : IsRenamed p f entry d e)
    {file : String} (hfile : p.Reaches entry file) :
    p.EndsAlike q f entry (fun x y => y.1 = x.1 ∧ IsRenamed p f entry x.2 y.2)
      (enqueue p file d) (enqueue q (f file) e) := by
  rw [enqueue_eq, enqueue_eq]
  refine (h.compiled hfile).map ?_
  rintro m - hm ⟨rfl, rfl⟩
  exact ⟨congrArg Numbering.issued hde.numbering_eq, hde.push h hfile hm⟩

/-- The same number is found for a file by both names. -/
theorem IsRenamed.request (h : p.IsRenaming q f entry entry') (hde : IsRenamed p f entry d e)
    {file : String} (hfile : p.Reaches entry file) :
    p.EndsAlike q f entry (fun x y => y.1 = x.1 ∧ IsRenamed p f entry x.2 y.2)
      (request p dedupe file d) (request q dedupe (f file) e) := by
  cases dedupe with
  | false => exact hde.enqueue h hfile
  | true =>
      -- a file that is known is known under the same number, so neither search builds it
      simp only [Discovery.request, if_true, hde.built_eq hfile]
      rcases d.built.get? file with _ | id
      · exact hde.enqueue h hfile
      · exact .done ⟨rfl, hde⟩

theorem expand_cons (p : Project) (dedupe : Bool) (importer : String) (mapping : Table String Nat)
    (d : Discovery) (s : String) (rest : List String) :
    expand p dedupe importer mapping d (s :: rest) =
      (request p dedupe (resolve importer s) d).bind fun x =>
        expand p dedupe importer (mapping.put s x.1) x.2 rest := by
  rw [expand]
  rcases request p dedupe (resolve importer s) d with x | x <;> rfl

theorem step_cons {a : UnlinkedAsset} {rest : List UnlinkedAsset} (hq : d.queue = a :: rest) :
    Discovery.step p dedupe d =
      (Discovery.expand p dedupe a.filename Table.empty { d with queue := rest }
        a.dependencies).map fun x =>
          { x.2 with finished := x.2.finished ++ [a.link x.1] } := by
  unfold Discovery.step
  rw [hq]
  dsimp only
  rcases Discovery.expand p dedupe a.filename Table.empty { d with queue := rest }
    a.dependencies with x | x <;> rfl

theorem IsRenamed.expand (h : p.IsRenaming q f entry entry') {importer : String}
    (himporter : p.Reaches entry importer) {specifiers : List String}
    (hspecifiers : ∀ s ∈ specifiers, s ∈ p.specifiers importer) (mapping : Table String Nat)
    (hde : IsRenamed p f entry d e) :
    p.EndsAlike q f entry (fun x y => y.1 = x.1 ∧ IsRenamed p f entry x.2 y.2)
      (expand p dedupe importer mapping d specifiers)
      (expand q dedupe (f importer) mapping e specifiers) := by
  -- on both sides the mapping grows by one entry for each specifier, and it is the same entry
  induction specifiers generalizing mapping d e with
  | nil => exact .done ⟨rfl, hde⟩
  | cons s rest ih =>
      have hs := hspecifiers s List.mem_cons_self
      rw [expand_cons, expand_cons, h.resolve_eq himporter hs]
      refine (hde.request h (himporter.resolve hs)).bind ?_
      rintro ⟨id, d'⟩ ⟨_, e'⟩ ⟨rfl, hde'⟩
      exact ih (fun t ht => hspecifiers t (List.mem_cons_of_mem _ ht)) _ hde'

/-- **A step keeps two searches in step.** -/
theorem IsRenamed.step (h : p.IsRenaming q f entry entry') (hde : IsRenamed p f entry d e) :
    p.EndsAlike q f entry (IsRenamed p f entry) (step p dedupe d) (step q dedupe e) := by
  rcases hq : d.queue with _ | ⟨a, rest⟩
  · have hq' : e.queue = [] := by
      rw [hde.queue_eq, hq]
      rfl
    rw [step_of_isEmpty hq, step_of_isEmpty hq']
    exact .done hde
  · have hq' : e.queue = a.rename f :: rest.map (UnlinkedAsset.rename f) := by
      rw [hde.queue_eq, hq, List.map_cons]
    obtain ⟨hreach, hdeps⟩ := hde.waiting a (by rw [hq]; exact List.mem_cons_self)
    -- the queue is renamed asset by asset, also without its head
    have hrest : IsRenamed p f entry { d with queue := rest }
        { e with queue := rest.map (UnlinkedAsset.rename f) } :=
      ⟨hde.numbering_eq, hde.built_eq, rfl, hde.finished_eq,
        fun b hb => hde.waiting b (by rw [hq]; exact List.mem_cons_of_mem _ hb)⟩
    rw [step_cons hq, step_cons hq']
    refine (hrest.expand h hreach (fun s hs => hdeps ▸ hs) Table.empty).map ?_
    rintro ⟨mapping, d'⟩ ⟨_, e'⟩ - ⟨rfl, hde'⟩
    refine ⟨hde'.numbering_eq, hde'.built_eq, hde'.queue_eq, ?_, hde'.waiting⟩
    show e'.finished ++ [_] = (d'.finished ++ [_]).map (Asset.rename f)
    rw [List.map_append, hde'.finished_eq]
    rfl

theorem IsRenamed.after (h : p.IsRenaming q f entry entry') (hde : IsRenamed p f entry d e)
    (n : Nat) :
    p.EndsAlike q f entry (IsRenamed p f entry) (after p dedupe n d) (after q dedupe n e) := by
  induction n generalizing d e with
  | zero => exact .done hde
  | succ n ih => exact (hde.step h).bind fun _ _ hde' => ih hde'

end Discovery

namespace Project

variable {p q : Project} {f : String → String} {entry entry' : String}

theorem IsRenaming.start (h : p.IsRenaming q f entry entry') :
    EndsAlike p q f entry (Discovery.IsRenamed p f entry) (Discovery.start p entry)
      (Discovery.start q entry') := by
  have hnothing : Discovery.IsRenamed p f entry .initial .initial :=
    ⟨rfl, fun _ => rfl, rfl, rfl, fun a ha => absurd ha List.not_mem_nil⟩
  rw [Discovery.start_eq, Discovery.start_eq, ← p.compiled_normalize entry,
    ← q.compiled_normalize entry', h.entry_eq]
  refine (h.compiled (p.reaches_entry entry)).map ?_
  rintro m - hm ⟨hname, rfl⟩
  rw [← hname] at hm
  exact hnothing.push h (hname ▸ p.reaches_entry entry) hm

/-- **Under a renaming searches end alike**, however many steps they may take. -/
theorem IsRenaming.search (h : p.IsRenaming q f entry entry') (dedupe : Bool) (n : Nat) :
    EndsAlike p q f entry (fun g g' => g' = g.map (AssetGraph.rename f))
      (p.search dedupe entry n) (q.search dedupe entry' n) := by
  have hstate : EndsAlike p q f entry (Discovery.IsRenamed p f entry) (p.state dedupe entry n)
      (q.state dedupe entry' n) := h.start.bind fun _ _ hde => hde.after h n
  rw [search_eq_state, search_eq_state]
  refine hstate.map fun d e _ hde => ?_
  have hempty : e.queue.isEmpty = d.queue.isEmpty := by
    rw [hde.queue_eq, List.isEmpty_map]
  rw [hempty, hde.finished_eq]
  by_cases hq : d.queue.isEmpty = true
  · rw [if_pos hq, if_pos hq]
    rfl
  · rw [if_neg hq, if_neg hq]
    rfl

end Project

end ModuleBundler
