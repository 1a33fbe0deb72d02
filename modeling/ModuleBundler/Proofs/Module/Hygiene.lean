/-
ModuleBundler/Proofs/Module/Hygiene.lean

What the names in a script mean.  The helpers of a script are spelled the same in every
script, and they stand among names that the author has chosen, so each of them may be
taken for something else (`Program.scriptMeaning`).

A script is hygienic (`Program.IsHygienic`) if every helper means what it should wherever it
was inserted, and every name that the author wrote means what it meant in the module.
Nothing is renamed to make it so.  It is so exactly if the author keeps to other names in
certain places (`Program.IsApart`): at the top of the module, around a name that is read
through a temporary, and where a name is used that is declared nowhere.

Main results: `isHygienic_iff_isApart` and, for the texts that are inserted,
`IsApart.means_inserted`.
-/
import ModuleBundler.Module.Compile
import ModuleBundler.Proofs.Module.Insertion

namespace ModuleBundler

variable {p : Program} {frames : List Frame} {name : String}

/-! ### Scopes -/

theorem Scope.home?_append (s t : Scope) (name : String) :
    Scope.home? (s ++ t) name = (s.home? name).or (t.home? name) :=
  List.find?_append

theorem Scope.home?_eq_none_iff {s : Scope} :
    s.home? name = none ↔ ∀ frame ∈ s, name ∉ frame.names := by
  simp [Scope.home?, List.find?_eq_none]

/-! ### Meanings -/

/-- What a name stands for. -/
inductive Meaning where
  /-- What the author declares inside a statement of the module. -/
  | inner (frame : Frame)
  /-- What the author declares at the top of the module. -/
  | top
  /-- A variable that is declared in the head of the script. -/
  | head
  /-- A parameter of the function that the script is the body of. -/
  | wrapper
  /-- What is declared nowhere. -/
  | global
deriving DecidableEq, Repr

/-- What a helper should stand for. -/
def Helper.meaning : Helper → Meaning
  | require | exports => .wrapper
  | object => .global
  | temporary _ => .head

/-- The parameters of the function that a script is the body of. -/
def wrapperNames : List String := ["require", "module", "exports"]

namespace Program

/-- The names at the top of a module that are left in its script. -/
def topNames (p : Program) : List String := bodyNames (p.stmts.filter fun s => !s.isRemoved)

/-- The variables that are declared in the head of a script. -/
def temporaries (p : Program) : List String :=
  (List.range (Link.ofProgram p).count).map temporary

/-- What a name stands for in the module. -/
def meaning (p : Program) (frames : List Frame) (name : String) : Meaning :=
  match Scope.home? frames name with
  | some frame => .inner frame
  | none => if name ∈ bodyNames p.stmts then .top else .global

/-- What a name stands for in the script.  The frames inside the module are the same there, and the
head is in one scope with what is left of the top of the module. -/
def scriptMeaning (p : Program) (frames : List Frame) (name : String) : Meaning :=
  match Scope.home? frames name with
  | some frame => .inner frame
  | none =>
      if name ∈ p.topNames then .top
      else if name ∈ p.temporaries then .head
      else if name ∈ wrapperNames then .wrapper
      else .global

theorem temporary_ne {k : Nat} (h : name.toList.head? ≠ some '_') : temporary k ≠ name := by
  rintro rfl
  refine h ?_
  rw [temporary, String.toList_append]
  rfl

theorem notMem_temporaries (h : name.toList.head? ≠ some '_') : name ∉ p.temporaries := by
  intro hmem
  obtain ⟨k, -, hk⟩ := List.mem_map.1 hmem
  exact temporary_ne h hk

theorem scriptMeaning_of_home? {frame : Frame} (h : Scope.home? frames name = some frame) :
    p.scriptMeaning frames name = .inner frame := by
  rw [scriptMeaning, h]

theorem scriptMeaning_of_mem_topNames (h : Scope.home? frames name = none)
    (htop : name ∈ p.topNames) :
    p.scriptMeaning frames name = .top := by
  simp only [scriptMeaning, h, if_pos htop]

theorem scriptMeaning_eq_head_iff : p.scriptMeaning frames name = .head ↔
    Scope.home? frames name = none ∧ name ∉ p.topNames ∧ name ∈ p.temporaries := by
  unfold scriptMeaning
  rcases Scope.home? frames name with _ | frame
  · by_cases htop : name ∈ p.topNames
    · simp [htop]
    · by_cases htemporary : name ∈ p.temporaries
      · simp [htop, htemporary]
      · by_cases hwrapper : name ∈ wrapperNames <;> simp [htop, htemporary, hwrapper]
  · simp

/-- A helper means what it should if no declaration of the author has its name around it. -/
theorem scriptMeaning_eq_iff {h : Helper}
    (hcount : ∀ k, h = .temporary k → k < (Link.ofProgram p).count) :
    p.scriptMeaning frames h.name = h.meaning ↔
      Scope.home? frames h.name = none ∧ h.name ∉ p.topNames := by
  rcases hhome : Scope.home? frames h.name with _ | frame
  · by_cases htop : h.name ∈ p.topNames
    · rw [scriptMeaning_of_mem_topNames hhome htop]
      simp only [htop, not_true, and_false, iff_false]
      cases h <;> simp [Helper.meaning]
    · simp only [scriptMeaning, hhome, htop, if_false, not_false_iff, and_self, iff_true]
      cases h with
      | temporary k =>
          have hmem : (Helper.temporary k).name ∈ p.temporaries :=
            List.mem_map_of_mem (List.mem_range.2 (hcount k rfl))
          rw [if_pos hmem]
          rfl
      | require => rw [if_neg (notMem_temporaries (by decide))]; rfl
      | exports => rw [if_neg (notMem_temporaries (by decide))]; rfl
      | object => rw [if_neg (notMem_temporaries (by decide))]; rfl
  · rw [scriptMeaning_of_home? hhome]
    cases h <;> simp [Helper.meaning]

/-! ### Hygiene -/

/-- Every name in the script of a module means what it should. -/
structure IsHygienic (p : Program) : Prop where
  /-- What was inserted. -/
  inserted : ∀ frames h, p.Inserts frames h → p.scriptMeaning frames h.name = h.meaning
  /-- What the author wrote and is left: it keeps its meaning, and it is never a temporary. -/
  written : ∀ frames r, (frames, r) ∈ p.occurrences →
    (∀ k source spec, ¬ p.Resolves (r.within (frames ++ p.scope)) k source spec) →
    (p.meaning frames r.id.name ≠ .global →
      p.scriptMeaning frames r.id.name = p.meaning frames r.id.name) ∧
    p.scriptMeaning frames r.id.name ≠ .head

/-- The author keeps to names that no helper has, where it matters. -/
structure IsApart (p : Program) : Prop where
  /-- What is left of the top of the module declares no helper that the script has. -/
  object : p.isModule = true → "Object" ∉ p.topNames
  exports : p.isModule = true → "exports" ∉ p.topNames
  require : (∃ r ∈ (Link.ofProgram p).requirements, r.specifier? ≠ none) → "require" ∉ p.topNames
  temporary : ∀ k < (Link.ofProgram p).count, ModuleBundler.temporary k ∉ p.topNames
  /-- Around a reference to an import nothing has the name of its temporary. -/
  inner : ∀ frames r k source spec, (frames, r) ∈ p.occurrences →
    p.Resolves (r.within (frames ++ p.scope)) k source spec →
    ∀ frame ∈ frames, ModuleBundler.temporary k ∉ frame.names
  /-- No name that is declared nowhere is that of a temporary. -/
  free : ∀ frames r, (frames, r) ∈ p.occurrences → p.meaning frames r.id.name = .global →
    ∀ k < (Link.ofProgram p).count, r.id.name ≠ ModuleBundler.temporary k

end Program

/-! ### What is left at the top -/

/-- A statement that is taken out declares nothing but what it imports. -/
theorem Stmt.bindings_of_isRemoved {s : Stmt} (h : s.isRemoved = true) :
    s.bindings = s.importedNames.map .lexical := by
  cases s with
  | importDecl span specs source =>
      show (specs.getD []).map (fun s => Binding.lexical s.localName.name) = _
      rw [importedNames, List.map_map]
      rfl
  | exportDecl span d =>
      cases d with
      | typeDecl place => rfl
      | _ => cases h
  | exportList | exportAll => rfl
  | _ => cases h

theorem Stmt.mem_names_of_mem_movedNames {s : Stmt} (h : name ∈ s.movedNames) :
    name ∈ s.bindings.map (·.name) := by
  obtain ⟨b, hb, hmoved⟩ := List.mem_filterMap.1 h
  refine List.mem_map.2 ⟨b, hb, ?_⟩
  unfold Binding.moved? at hmoved
  split at hmoved
  · cases hmoved
    rfl
  · cases hmoved

theorem mem_bodyNames_iff {stmts : List Stmt} :
    name ∈ bodyNames stmts ↔ ∃ s ∈ stmts, name ∈ s.bindings.map (·.name) := by
  unfold bodyNames
  induction stmts with
  | nil => simp [Stmt.allBindings]
  | cons s stmts ih =>
      rw [Stmt.allBindings, List.map_append, List.mem_append, ih]
      simp

/-- An imported name is read, unless it gets another meaning. -/
theorem exists_read? {stmts : List Stmt} {s : Stmt} (hs : s ∈ stmts)
    (himported : name ∈ s.importedNames) (hmoved : ∀ t ∈ stmts, name ∉ t.movedNames) :
    ∃ read, (stmts.foldl Link.add .empty).read? name = some read := by
  induction stmts using List.reverseRecOn with
  | nil => exact absurd hs List.not_mem_nil
  | append_singleton stmts t ih =>
      rw [List.foldl_append, List.foldl_cons, List.foldl_nil, Link.read?_add,
        if_neg (hmoved t (by simp))]
      rcases hfind : t.specs.reverse.find? (·.localName.name == name) with _ | spec
      · rw [hfind, Option.map_none, Option.none_or]
        refine ih ?_ fun u hu => hmoved u (List.mem_append_left _ hu)
        rcases List.mem_append.1 hs with hs | hs
        · exact hs
        · obtain rfl := List.mem_singleton.1 hs
          obtain ⟨spec, hspec, hname⟩ := List.mem_map.1 himported
          exact absurd (beq_iff_eq.2 hname)
            (List.find?_eq_none.1 hfind spec (List.mem_reverse.2 hspec))
      · rw [hfind, Option.map_some, Option.some_or]
        exact ⟨_, rfl⟩

namespace Program

/-- A name of the module that is not read as an import is left at the top. -/
theorem mem_topNames_of_read? (hname : name ∈ bodyNames p.stmts)
    (hread : (Link.ofProgram p).read? name = none) : name ∈ p.topNames := by
  -- otherwise every statement that declares the name is taken out, so it is imported and nothing
  -- gives it another meaning
  by_contra htop
  have hkept : ∀ s ∈ p.stmts, s.isRemoved = false → name ∉ s.bindings.map (·.name) := by
    intro s hs hkept hmem
    exact htop (mem_bodyNames_iff.2 ⟨s, List.mem_filter.2 ⟨hs, by rw [hkept]; rfl⟩, hmem⟩)
  have hmoved : ∀ s ∈ p.stmts, name ∉ s.movedNames := by
    intro s hs hmem
    cases hremoved : s.isRemoved with
    | false => exact hkept s hs hremoved (Stmt.mem_names_of_mem_movedNames hmem)
    | true =>
        rw [Stmt.movedNames, Stmt.bindings_of_isRemoved hremoved] at hmem
        simp [Binding.moved?] at hmem
  obtain ⟨s, hs, hname⟩ := mem_bodyNames_iff.1 hname
  cases hremoved : s.isRemoved with
  | false => exact hkept s hs hremoved hname
  | true =>
      rw [Stmt.bindings_of_isRemoved hremoved, List.map_map] at hname
      have himported : name ∈ s.importedNames := by
        simpa [Function.comp_def, Binding.name] using hname
      obtain ⟨read, hsome⟩ := exists_read? hs himported hmoved
      rw [Link.ofProgram, hsome] at hread
      cases hread

/-! ### When a script is hygienic -/

/-- A name that is bound nowhere inside a statement stands for what is at the top, or for
nothing. -/
theorem home?_scope (hhome : Scope.home? frames name = none) :
    Scope.home? (frames ++ p.scope) name =
      if name ∈ bodyNames p.stmts then some (bodyFrame .program 0 p.stmts) else none := by
  rw [Scope.home?_append, hhome, Option.none_or]
  by_cases hname : name ∈ bodyNames p.stmts
  · rw [if_pos hname, home?_scope_of_mem hname]
  · rw [if_neg hname, Scope.home?_eq_none_iff]
    intro frame hframe
    obtain rfl := List.mem_singleton.1 hframe
    exact hname

/-- A reference that is bound nowhere in the module resolves to no import. -/
theorem not_resolves_of_global {r : Reference} {k : Nat} {source : String} {spec : ImportSpec}
    (h : p.meaning frames r.id.name = .global) :
    ¬ p.Resolves (r.within (frames ++ p.scope)) k source spec := by
  rintro ⟨⟨frame, hhome, -⟩, himports⟩
  have hname := himports.mem_bodyNames
  unfold meaning at h
  rcases hframes : Scope.home? frames r.id.name with _ | inner
  · replace hname : r.id.name ∈ bodyNames p.stmts := hname
    simp only [hframes, if_pos hname] at h
    cases h
  · simp only [hframes] at h
    cases h

theorem Resolves.lt_count {r : Reference} {k : Nat} {source : String} {spec : ImportSpec}
    (h : p.Resolves r k source spec) : k < (Link.ofProgram p).count :=
  ((Link.numbered_ofProgram p).bound_iff k).1 ⟨source, bound_mem_requirements h.imports⟩

/-- Nothing of its name is around a helper, if the author keeps to other names. -/
theorem IsApart.free_of_inserts (hapart : p.IsApart) {h : Helper} (hi : p.Inserts frames h) :
    Scope.home? frames h.name = none ∧ h.name ∉ p.topNames := by
  -- the functions in the head of a script have one parameter among them, and it is `key`
  have htemporary : ∀ k, Scope.home? [noFrame, keyFrame] (ModuleBundler.temporary k) = none := by
    intro k
    rw [Scope.home?_eq_none_iff]
    intro frame hframe
    simp only [List.mem_cons, List.not_mem_nil, or_false] at hframe
    rcases hframe with rfl | rfl
    · exact List.not_mem_nil
    · intro hmem
      exact temporary_ne (by decide) (List.mem_singleton.1 hmem)
  cases hi.demands with
  | mark hmodule hplain hframes =>
      have htop : h.name ∉ p.topNames := by
        rcases hplain with rfl | rfl
        · exact hapart.object hmodule
        · exact hapart.exports hmodule
      refine ⟨?_, htop⟩
      rcases hplain with rfl | rfl <;> rcases hframes with rfl | rfl <;> rfl
  | require hr hspecifier => exact ⟨rfl, hapart.require ⟨_, hr, hspecifier⟩⟩
  | temporary hk hframes =>
      refine ⟨?_, hapart.temporary _ hk⟩
      rcases hframes with rfl | rfl
      · rfl
      · exact htemporary _
  | reference hoccurs hresolves =>
      refine ⟨Scope.home?_eq_none_iff.2 (hapart.inner _ _ _ _ _ hoccurs hresolves), ?_⟩
      exact hapart.temporary _ hresolves.lt_count

/-- The temporaries that are inserted are those that the head declares. -/
theorem Inserts.lt_count {k : Nat} (hi : p.Inserts frames (.temporary k)) :
    k < (Link.ofProgram p).count := by
  cases hi.demands with
  | mark _ hplain _ => rcases hplain with h | h <;> cases h
  | temporary hk _ => exact hk
  | reference _ hresolves => exact hresolves.lt_count

/-- A helper means what it should, if the author keeps to other names. -/
theorem IsApart.scriptMeaning_of_inserts (hapart : p.IsApart) {h : Helper}
    (hi : p.Inserts frames h) : p.scriptMeaning frames h.name = h.meaning :=
  (scriptMeaning_eq_iff fun _ hk => (hk ▸ hi).lt_count).2 (hapart.free_of_inserts hi)

/-- A name that the author wrote keeps its meaning, if none of the names that are free is taken. -/
theorem IsApart.written_of (hapart : p.IsApart) {r : Reference}
    (hoccurs : (frames, r) ∈ p.occurrences)
    (hkept : ∀ k source spec, ¬ p.Resolves (r.within (frames ++ p.scope)) k source spec) :
    (p.meaning frames r.id.name ≠ .global →
      p.scriptMeaning frames r.id.name = p.meaning frames r.id.name) ∧
    p.scriptMeaning frames r.id.name ≠ .head := by
  rcases hhome : Scope.home? frames r.id.name with _ | frame
  · by_cases hname : r.id.name ∈ bodyNames p.stmts
    · -- the name is found at the top and still it is no import, so it is left there
      have hread : (Link.ofProgram p).read? r.id.name = none := by
        by_contra hsome
        obtain ⟨read, hsome⟩ := Option.ne_none_iff_exists'.1 hsome
        obtain ⟨k, source, spec, himports, -⟩ := read?_ofProgram.1 hsome
        refine hkept k source spec ⟨⟨bodyFrame .program 0 p.stmts, ?_, rfl⟩, himports⟩
        show Scope.home? (frames ++ p.scope) r.id.name = _
        rw [home?_scope hhome, if_pos hname]
      have htop := mem_topNames_of_read? hname hread
      have hmeaning : p.meaning frames r.id.name = .top := by
        simp only [meaning, hhome, if_pos hname]
      rw [scriptMeaning_of_mem_topNames hhome htop, hmeaning]
      exact ⟨fun _ => rfl, by simp⟩
    · have hglobal : p.meaning frames r.id.name = .global := by
        simp only [meaning, hhome, if_neg hname]
      refine ⟨fun h => absurd hglobal h, fun hhead => ?_⟩
      obtain ⟨k, hk, hname⟩ := List.mem_map.1 (scriptMeaning_eq_head_iff.1 hhead).2.2
      exact hapart.free frames r hoccurs hglobal k (List.mem_range.1 hk) hname.symm
  · have hmeaning : p.meaning frames r.id.name = .inner frame := by
      simp only [meaning, hhome]
    rw [scriptMeaning_of_home? hhome, hmeaning]
    exact ⟨fun _ => rfl, by simp⟩

/-- **A script is hygienic exactly if the author keeps to names that no helper has.** -/
theorem isHygienic_iff_isApart (p : Program) : p.IsHygienic ↔ p.IsApart := by
  constructor
  · intro h
    -- no helper should mean what the author declares, so none of its names is in the way
    have hfree : ∀ {frames : List Frame} {helper : Helper}, p.Inserts frames helper →
        Scope.home? frames helper.name = none ∧ helper.name ∉ p.topNames :=
      fun hi => (scriptMeaning_eq_iff fun _ hk => (hk ▸ hi).lt_count).1 (h.inserted _ _ hi)
    have hcount : ∀ k < (Link.ofProgram p).count, ModuleBundler.temporary k ∉ p.topNames :=
      fun k hk => (hfree (inserts_temporary hk)).2
    refine ⟨fun hmodule => (hfree (inserts_mark hmodule).1).2,
      fun hmodule => (hfree (inserts_mark hmodule).2).2, ?_, hcount, ?_, ?_⟩
    · rintro ⟨r, hr, hspecifier⟩
      exact (hfree (inserts_require hr hspecifier)).2
    · intro frames r k source spec hoccurs hresolves
      exact Scope.home?_eq_none_iff.1 (hfree (inserts_reference hoccurs hresolves)).1
    · intro frames r hoccurs hglobal k hk hname
      have hkept := h.written frames r hoccurs fun _ _ _ => not_resolves_of_global hglobal
      refine hkept.2 (scriptMeaning_eq_head_iff.2 ⟨?_, hname ▸ hcount k hk, ?_⟩)
      · unfold meaning at hglobal
        rcases hhome : Scope.home? frames r.id.name with _ | frame
        · rfl
        · simp only [hhome] at hglobal
          cases hglobal
      · exact hname ▸ List.mem_map_of_mem (List.mem_range.2 hk)
  · intro h
    exact ⟨fun frames helper => h.scriptMeaning_of_inserts,
      fun frames r hoccurs hkept => h.written_of hoccurs hkept⟩

/-- A module with a parameter that has the name of a temporary. -/
def shadowing : List Char := "import a from './a.js';\nexport default __parcela_dep_0 => a".toList

/-- A parameter is in the way of an import.  The module compiles, and what should be read from the
other module is read from the parameter. -/
theorem not_isHygienic_of_parameter : ∃ parsed parsed' code,
    parse false shadowing = .ok parsed ∧ ¬ parsed.program.IsHygienic ∧
    parsed.program.compile ⟨.next, []⟩ shadowing = .ok code ∧
    parse true (parsed.program.script shadowing).toList = .ok parsed' ∧
    (((parsed'.program.stmts.flatMap fun s => (Node.stmt s).references parsed'.program.scope).filter
      fun r => r.id.name == "__parcela_dep_0").map fun r => r.home.map (·.kind)) =
      [some .params] := by
  -- one evaluation gives the module, its script and what both refer to
  obtain ⟨parsed, hparse, hfacts⟩ := exists_parsed
    (a := (1, true, some [some .params]))
    (fun parsed => ((Link.ofProgram parsed.program).count,
      (parsed.program.compile ⟨.next, []⟩ shadowing).toOption.isSome &&
        parsed.program.occurrences.any fun o =>
          (Scope.home? o.1 "__parcela_dep_0").isSome && ((Link.ofProgram parsed.program).readOf?
            (o.2.within (o.1 ++ parsed.program.scope))).isSome,
      (parse true (parsed.program.script shadowing).toList).toOption.map fun parsed' =>
        ((parsed'.program.stmts.flatMap fun s =>
          (Node.stmt s).references parsed'.program.scope).filter
            fun r => r.id.name == "__parcela_dep_0").map fun r => r.home.map (·.kind)))
    false shadowing (by decide +kernel)
  simp only [Prod.mk.injEq] at hfacts
  obtain ⟨hcount, hfacts, hscript⟩ := hfacts
  obtain ⟨hcompiles, hcaptured⟩ := Bool.and_eq_true_iff.1 hfacts
  obtain ⟨parsed', hparse', hhomes⟩ := exists_parsed _ _ _ hscript
  obtain ⟨code, hcode⟩ : ∃ code, parsed.program.compile ⟨.next, []⟩ shadowing = .ok code := by
    rcases hcompile : parsed.program.compile ⟨.next, []⟩ shadowing with x | code
    · rw [hcompile] at hcompiles
      cases hcompiles
    · exact ⟨code, rfl⟩
  refine ⟨parsed, parsed', code, hparse, fun h => ?_, hcode, hparse', hhomes⟩
  obtain ⟨⟨frames, r⟩, hoccurs, hfound⟩ := List.any_eq_true.1 hcaptured
  simp only [Bool.and_eq_true] at hfound
  obtain ⟨read, hread⟩ := Option.isSome_iff_exists.1 hfound.2
  obtain ⟨k, source, spec, hresolves, -⟩ := readOf?_eq_some.1 hread
  have hi := inserts_reference hoccurs hresolves
  obtain rfl : k = 0 := by
    have hk := hi.lt_count
    rw [hcount] at hk
    exact Nat.lt_one_iff.1 hk
  obtain ⟨hhome, -, -⟩ := scriptMeaning_eq_head_iff.1 (h.inserted _ _ hi)
  -- no frame around the reference may have the name, and one has
  have hsome : (Scope.home? frames "__parcela_dep_0").isSome = true := hfound.1
  replace hhome : Scope.home? frames "__parcela_dep_0" = none := hhome
  rw [hhome] at hsome
  cases hsome

/-! ### What is inserted -/

/-- The helpers among pieces that stand in frames of the module mean what they should. -/
def Means (p : Program) (frames : List Frame) (ps : List Piece) : Prop :=
  ∀ inside h, Piece.helper inside h ∈ ps → p.scriptMeaning (inside ++ frames) h.name = h.meaning

theorem IsApart.means_of_writes (hapart : p.IsApart) {ps : List Piece} (h : p.Writes frames ps) :
    p.Means frames ps :=
  fun inside _ hmem => hapart.scriptMeaning_of_inserts ⟨frames, inside, ps, h, hmem, rfl⟩

/-- **All that is inserted into a script is helpers that mean what they should, with text between
them, if the author keeps to names that no helper has.**  That goes for the head, for the text of
every edit, and for the value of every getter that is not a name of the author. -/
theorem IsApart.means_inserted (hapart : p.IsApart) :
    (p.scriptHead = strictLine ++ (if p.isModule then Piece.joined Piece.mark else "") ++
        String.join (p.getters.map fun g => Piece.joined g.pieces ++ "\n") ++
        String.join ((Link.ofProgram p).requirements.map fun r => Piece.joined r.pieces ++ "\n") ∧
      (p.isModule = true → p.Means [] Piece.mark) ∧ (∀ g ∈ p.getters, p.Means [] g.pieces) ∧
      ∀ r ∈ (Link.ofProgram p).requirements, p.Means [] r.pieces) ∧
    (∀ g ∈ p.getters, (∃ ps, p.Means [] ps ∧ g.value = Piece.joined ps) ∨
      ∃ s ∈ p.stmts, g.value ∈ s.exportedTexts) ∧
    ∀ e ∈ p.edits, ∃ frames ps, p.Means frames ps ∧ e.text = (Piece.joined ps).toList := by
  refine ⟨⟨p.scriptHead_eq, fun hmodule => hapart.means_of_writes (.mark hmodule),
    fun g hg => hapart.means_of_writes (.getter hg),
    fun r hr => hapart.means_of_writes (.requirement hr)⟩, fun g hg => ?_, fun e he => ?_⟩
  · exact (value_of_mem_getters hg).imp_left fun ⟨ps, hwrites, hvalue⟩ =>
      ⟨ps, hapart.means_of_writes hwrites, hvalue⟩
  · obtain ⟨frames, ps, hwrites, htext⟩ := exists_writes_of_mem_edits he
    exact ⟨frames, ps, hapart.means_of_writes hwrites, htext⟩

end Program

end ModuleBundler
