/-
ModuleBundler/Proofs/Module/Reads.lean

How an imported name is read.  Going through the statements of a module, each import
declaration with bindings gets the next temporary, and each statement may give a name a
new meaning: it imports it again, or moves a name of a block to the top of the module.  So
a name is read as the last import tells that has nothing of the kind behind it
(`Program.Imports`), through the temporary of its own declaration.

Main results: `read?_ofProgram`, `bound_mem_requirements`.
-/
import Mathlib.Data.List.Induction
import ModuleBundler.Module.Link
import ModuleBundler.Module.Specifier

namespace ModuleBundler

/-! ### Imports -/

/-- What a statement imports. -/
def Stmt.specs : Stmt → List ImportSpec
  | .importDecl _ specs _ => specs.getD []
  | _ => []

/-- The names that a statement imports. -/
def Stmt.importedNames (s : Stmt) : List String := s.specs.map (·.localName.name)

/-- The statement keeps the exports of another module in a temporary. -/
def Stmt.bindsTemporary : Stmt → Bool
  | .importDecl _ specs _ => !(specs.getD []).isEmpty
  | .exportList _ _ source => source.isSome
  | .exportAll _ _ _ => true
  | _ => false

/-- The statement exports again what another module exports. -/
def Stmt.isForwarding : Stmt → Bool
  | .exportList _ _ source => source.isSome
  | .exportAll _ _ _ => true
  | _ => false

/-- A module imports a name at its top, through the temporary with the number, from the other
module, as the import tells.  The last import of a name counts, unless the name gets another meaning
behind it. -/
inductive Program.Imports (p : Program) : String → Nat → String → ImportSpec → Prop
  | intro {front back : List Stmt} {span : Span} {source : Literal} {before after : List ImportSpec}
      {spec : ImportSpec} :
      p.stmts = front ++ .importDecl span (some (before ++ spec :: after)) source :: back →
      (∀ other ∈ after, other.localName.name ≠ spec.localName.name) →
      (∀ s ∈ back, spec.localName.name ∉ s.importedNames ∧ spec.localName.name ∉ s.movedNames) →
      p.Imports spec.localName.name (front.countP (·.bindsTemporary)) source.text spec

namespace Link

/-! ### One statement -/

theorem reads_add (l : Link) (s : Stmt) :
    (l.add s).reads = (l.reads.filter fun entry => !s.movedNames.contains entry.1) ++
      s.specs.map fun spec => (spec.localName.name, readOf (temporary l.count) spec) := by
  cases s with
  | importDecl span specs source =>
      rcases specs with _ | _ | ⟨spec, specs⟩ <;> simp [add, require, bind, Stmt.specs]
  | exportList span specs source => cases source <;> simp [add, require, bind, Stmt.specs]
  | exportAll span exported source => simp [add, require, bind, Stmt.specs]
  | _ => simp [add, require, Stmt.specs]

theorem count_add (l : Link) (s : Stmt) :
    (l.add s).count = l.count + if s.bindsTemporary then 1 else 0 := by
  cases s with
  | importDecl span specs source =>
      rcases specs with _ | _ | ⟨spec, specs⟩ <;> simp [add, require, bind, Stmt.bindsTemporary]
  | exportList span specs source => cases source <;> simp [add, require, bind, Stmt.bindsTemporary]
  | _ => simp [add, require, bind, Stmt.bindsTemporary]

/-- A declaration that exports again is known by the place where it begins. -/
theorem sources_add (l : Link) (s : Stmt) : (l.add s).sources =
    l.sources ++ if s.isForwarding then [(s.span.start, l.count)] else [] := by
  cases s with
  | importDecl span specs source =>
      rcases specs with _ | _ | ⟨spec, specs⟩ <;> simp [add, require, bind, Stmt.isForwarding]
  | exportList span specs source =>
      cases source <;> simp [add, require, bind, Stmt.isForwarding, Stmt.span]
  | exportAll span exported source => simp [add, require, bind, Stmt.isForwarding, Stmt.span]
  | _ => simp [add, require, Stmt.isForwarding]

/-- The next temporary is for the dependency that the statement itself names. -/
theorem bound_mem_requirements_add (l : Link) {s : Stmt} {source : String}
    (hbinds : s.bindsTemporary = true) (hsource : s.specifier? = some source) :
    .bound l.count source ∈ (l.add s).requirements := by
  cases s with
  | importDecl span specs literal =>
      obtain rfl := Option.some.inj hsource
      rcases specs with _ | _ | ⟨spec, specs⟩
      · cases hbinds
      · cases hbinds
      · simp [add, require, bind]
  | exportList span specs literal =>
      obtain ⟨literal, rfl, rfl⟩ := Option.map_eq_some_iff.1 hsource
      simp [add, require, bind]
  | exportAll span exported literal =>
      obtain rfl := Option.some.inj hsource
      cases exported <;> simp [add, require, bind]
  | _ => cases hbinds

theorem requirements_subset_add (l : Link) (s : Stmt) :
    l.requirements ⊆ (l.add s).requirements := by
  cases s with
  | importDecl span specs source =>
      rcases specs with _ | _ | ⟨spec, specs⟩ <;> simp [add, require, bind]
  | exportList span specs source => cases source <;> simp [add, require, bind]
  | exportAll span exported source => cases exported <;> simp [add, require, bind]
  | _ => exact List.Subset.refl _

/-- An import in the statement counts before all that was known, and a name that was moved is not
known any more. -/
theorem read?_add (l : Link) (s : Stmt) (name : String) :
    (l.add s).read? name =
      ((s.specs.reverse.find? (·.localName.name == name)).map (readOf (temporary l.count))).or
        (if name ∈ s.movedNames then none else l.read? name) := by
  have hspecs : ((s.specs.map fun spec =>
      (spec.localName.name, readOf (temporary l.count) spec)).reverse.find? (·.1 == name)).map (·.2) =
        (s.specs.reverse.find? (·.localName.name == name)).map (readOf (temporary l.count)) := by
    rw [← List.map_reverse, List.find?_map, Option.map_map]
    rfl
  -- a name that is moved is not read any more
  have hmoved : (((l.reads.filter fun entry => !s.movedNames.contains entry.1).reverse.find?
      (·.1 == name)).map (·.2)) = if name ∈ s.movedNames then none else l.read? name := by
    rw [← List.filter_reverse, List.find?_filter]
    by_cases h : name ∈ s.movedNames
    · rw [if_pos h, List.find?_eq_none.2 fun entry _ hentry => ?_, Option.map_none]
      simp only [Bool.not_eq_true', beq_iff_eq, decide_eq_true_eq] at hentry
      obtain ⟨hother, rfl⟩ := hentry
      simp [h] at hother
    · rw [if_neg h, read?]
      congr 2
      funext entry
      by_cases hname : entry.1 = name
      · simp [hname, h]
      · simp [hname]
  rw [read?, reads_add, List.reverse_append, List.find?_append, Option.map_or, hspecs, hmoved]

/-! ### All statements -/

theorem count_foldl_add (l : Link) (stmts : List Stmt) :
    (stmts.foldl add l).count = l.count + stmts.countP (·.bindsTemporary) := by
  induction stmts generalizing l with
  | nil => rfl
  | cons s stmts ih =>
      rw [List.foldl_cons, ih, count_add, List.countP_cons]
      omega

theorem requirements_subset_foldl_add (l : Link) (stmts : List Stmt) :
    l.requirements ⊆ (stmts.foldl add l).requirements := by
  induction stmts generalizing l with
  | nil => exact List.Subset.refl _
  | cons s stmts ih => exact List.Subset.trans (l.requirements_subset_add s) (ih _)

theorem sources_prefix_foldl_add (l : Link) (stmts : List Stmt) :
    l.sources <+: (stmts.foldl add l).sources := by
  induction stmts generalizing l with
  | nil => exact List.prefix_rfl
  | cons s stmts ih =>
      refine List.IsPrefix.trans ?_ (ih (l.add s))
      rw [sources_add]
      exact List.prefix_append _ _

/-- A name keeps its meaning where no statement gives it another one. -/
theorem read?_foldl_add {stmts : List Stmt} {name : String}
    (h : ∀ s ∈ stmts, name ∉ s.importedNames ∧ name ∉ s.movedNames) (l : Link) :
    (stmts.foldl add l).read? name = l.read? name := by
  induction stmts generalizing l with
  | nil => rfl
  | cons s stmts ih =>
      rw [List.forall_mem_cons] at h
      have hnone : s.specs.reverse.find? (·.localName.name == name) = none := by
        refine List.find?_eq_none.2 fun spec hspec hname => h.1.1 ?_
        exact List.mem_map.2 ⟨spec, List.mem_reverse.1 hspec, eq_of_beq hname⟩
      rw [List.foldl_cons, ih h.2, read?_add, hnone, Option.map_none, Option.none_or,
        if_neg h.1.2]

/-- The last import of a name, if there is one. -/
theorem find?_specs_eq_some {specs : List ImportSpec} {name : String} {spec : ImportSpec} :
    specs.reverse.find? (·.localName.name == name) = some spec ↔
      spec.localName.name = name ∧ ∃ before after, specs = before ++ spec :: after ∧
        ∀ other ∈ after, other.localName.name ≠ name := by
  rw [List.find?_eq_some_iff_append]
  constructor
  · rintro ⟨hname, as, bs, hsplit, has⟩
    refine ⟨eq_of_beq hname, bs.reverse, as.reverse, ?_, fun other hother heq => ?_⟩
    · rw [← List.reverse_reverse specs, hsplit]
      simp
    · have := has other (List.mem_reverse.1 hother)
      simp [heq] at this
  · rintro ⟨hname, before, after, rfl, hafter⟩
    refine ⟨beq_iff_eq.2 hname, after.reverse, before.reverse, by simp, fun other hother => ?_⟩
    simpa using hafter other (List.mem_reverse.1 hother)

end Link

/-- The name means an import of the statements. -/
theorem exists_imports_of_read? {p : Program} {name read : String} {stmts back : List Stmt}
    (h : (stmts.foldl Link.add .empty).read? name = some read) (hp : p.stmts = stmts ++ back)
    (hback : ∀ s ∈ back, name ∉ s.importedNames ∧ name ∉ s.movedNames) :
    ∃ k source spec, p.Imports name k source spec ∧ read = Link.readOf (temporary k) spec := by
  induction stmts using List.reverseRecOn generalizing back with
  | nil => cases h
  | append_singleton stmts s ih =>
      rw [List.foldl_append, List.foldl_cons, List.foldl_nil, Link.read?_add] at h
      rw [List.append_assoc, List.singleton_append] at hp
      rcases hfind : s.specs.reverse.find? (·.localName.name == name) with _ | spec
      · rw [hfind, Option.map_none, Option.none_or] at h
        have himported : name ∉ s.importedNames := by
          intro hmem
          obtain ⟨spec, hspec, hname⟩ := List.mem_map.1 hmem
          exact List.find?_eq_none.1 hfind spec (List.mem_reverse.2 hspec) (beq_iff_eq.2 hname)
        by_cases hmoved : name ∈ s.movedNames
        · rw [if_pos hmoved] at h
          cases h
        · rw [if_neg hmoved] at h
          exact ih h hp (List.forall_mem_cons.2 ⟨⟨himported, hmoved⟩, hback⟩)
      · rw [hfind, Option.map_some, Option.some_or, Option.some.injEq] at h
        -- the last statement that imports the name, and the last of its specifiers that does
        obtain ⟨rfl, before, after, hspecs, hafter⟩ := Link.find?_specs_eq_some.1 hfind
        obtain ⟨span, source, rfl⟩ : ∃ span source,
            s = .importDecl span (some (before ++ spec :: after)) source := by
          cases s with
          | importDecl span specs source =>
              cases specs with
              | none => cases before <;> cases hspecs
              | some specs =>
                  obtain rfl : specs = before ++ spec :: after := hspecs
                  exact ⟨span, source, rfl⟩
          | _ => cases before <;> cases hspecs
        refine ⟨_, source.text, spec, .intro hp hafter hback, ?_⟩
        rw [← h, Link.count_foldl_add]
        simp [Link.empty]

namespace Program

variable {p : Program} {name source : String} {k : Nat} {spec : ImportSpec}

/-- **A name is read as its last import tells.** -/
theorem read?_ofProgram {read : String} :
    (Link.ofProgram p).read? name = some read ↔
      ∃ k source spec, p.Imports name k source spec ∧ read = Link.readOf (temporary k) spec := by
  constructor
  · intro h
    exact exists_imports_of_read? h (List.append_nil _).symm (by simp)
  · rintro ⟨k, source, spec, @⟨front, back, span, source, before, after, _, hp, hafter, hback⟩, rfl⟩
    rw [Link.ofProgram, hp, List.foldl_append, List.foldl_cons, Link.read?_foldl_add hback,
      Link.read?_add]
    have hfind := Link.find?_specs_eq_some.2 ⟨rfl, before, after, rfl, hafter⟩
    rw [show (Stmt.importDecl span (some (before ++ spec :: after)) source).specs =
      before ++ spec :: after from rfl, hfind, Option.map_some, Option.some_or,
      Link.count_foldl_add]
    simp [Link.empty]

/-- A statement has the temporary that is numbered by those before it, and it holds the dependency
that the statement names. -/
theorem bound_mem_requirements_of_eq {front back : List Stmt} {s : Stmt}
    (hp : p.stmts = front ++ s :: back) (hbinds : s.bindsTemporary = true)
    (hsource : s.specifier? = some source) :
    .bound (front.countP (·.bindsTemporary)) source ∈ (Link.ofProgram p).requirements := by
  rw [Link.ofProgram, hp, List.foldl_append, List.foldl_cons]
  refine Link.requirements_subset_foldl_add _ back ?_
  have hcount : (front.foldl Link.add .empty).count = front.countP (·.bindsTemporary) := by
    rw [Link.count_foldl_add]
    simp [Link.empty]
  rw [← hcount]
  exact Link.bound_mem_requirements_add _ hbinds hsource

/-- **The temporary that a name is read through is the one of its own declaration.** -/
theorem bound_mem_requirements (h : p.Imports name k source spec) :
    .bound k source ∈ (Link.ofProgram p).requirements := by
  obtain @⟨front, back, span, source, before, after, _, hp, -, -⟩ := h
  exact bound_mem_requirements_of_eq hp (by cases before <;> rfl) rfl

end Program

end ModuleBundler
