/-
ModuleBundler/Proofs/Module/Conversion.lean

When a script stands for its module.  It should require what the module lists, and none
of the module's declarations should be left in it (`Program.IsConverted`).  A
declaration is left if no edit takes out the word that opens it.

A declaration at the top of the module loses its word (`Placed.exists_covers`).  A
declaration further inside is left: the word that opens it is one of the places of the
module that no edit touches (`not_removes`).

Main result: `isConverted_iff_isFlat`.
-/
import ModuleBundler.Proofs.Module.Edits
import ModuleBundler.Proofs.Module.Required
import ModuleBundler.Proofs.Syntax.Grammar.Level

namespace ModuleBundler

/-! ### Declarations -/

/-- The node itself, if it is a declaration. -/
def Node.ownDeclarations : Node → List Stmt
  | .stmt s => if s.isModuleDecl then [s] else []
  | _ => []

/-- The declarations in a part of a module, those inside namespaces aside. -/
def Node.declarations (n : Node) : List Stmt :=
  match n with
  | .stmt (.namespaceDecl _ _) => []
  | n => n.ownDeclarations ++ n.framed.attach.flatMap fun ⟨x, _⟩ => x.2.declarations
termination_by n.size
decreasing_by exact Node.size_framed (by assumption)

def Program.declarations (p : Program) : List Stmt :=
  p.stmts.flatMap fun s => (Node.stmt s).declarations

/-- The declarations in the parts of a statement, those inside namespaces aside. -/
def Stmt.nestedDeclarations (s : Stmt) : List Stmt :=
  match s with
  | .namespaceDecl _ _ => []
  | s => (Node.stmt s).framed.flatMap (·.2.declarations)

theorem Node.declarations_eq {n : Node} (h : ∀ span stmts, n ≠ .stmt (.namespaceDecl span stmts)) :
    n.declarations = n.ownDeclarations ++ n.framed.flatMap (·.2.declarations) := by
  rw [declarations]
  · exact congrArg _ (flatMap_attach _ fun x : List Frame × Node => x.2.declarations)
  · exact h

theorem declarations_stmt (s : Stmt) :
    (Node.stmt s).declarations = (Node.stmt s).ownDeclarations ++ s.nestedDeclarations := by
  cases s with
  | namespaceDecl span stmts =>
      rw [Node.declarations]
      rfl
  | _ => exact Node.declarations_eq (by rintro _ _ h; cases h)

/-- The words that open the declarations in a node are among its sites. -/
theorem Node.mem_words_of_mem_declarations {n : Node} {d : Stmt} (h : d ∈ n.declarations) :
    ⟨d.span.start, d.span.start + 6⟩ ∈ n.words := by
  unfold words
  induction n using partInduction with
  | h n ih =>
      by_cases hnamespace : ∃ span stmts, n = .stmt (.namespaceDecl span stmts)
      · -- a namespace has no declarations of the module in it
        obtain ⟨span, stmts, rfl⟩ := hnamespace
        rw [declarations] at h
        exact absurd h List.not_mem_nil
      rw [declarations_eq fun span stmts hn => hnamespace ⟨span, stmts, hn⟩] at h
      rw [descendants_eq, List.flatMap_cons, List.flatMap_assoc]
      rcases List.mem_append.1 h with hown | hparts
      · refine List.mem_append_left _ ?_
        cases n with
        | stmt s =>
            by_cases hs : s.isModuleDecl = true
            · rw [ownDeclarations, if_pos hs] at hown
              obtain rfl := List.mem_singleton.1 hown
              rw [wordSites, Stmt.keyword?, if_pos hs]
              exact List.mem_singleton_self _
            · rw [ownDeclarations, if_neg hs] at hown
              exact absurd hown List.not_mem_nil
        | _ => exact absurd hown List.not_mem_nil
      · obtain ⟨x, hx, hd⟩ := List.mem_flatMap.1 hparts
        exact List.mem_append_right _ (List.mem_flatMap.2 ⟨x, hx, ih x hx hd⟩)

/-- The words that open declarations further inside a statement stay, as far as edits of the module go. -/
theorem Stmt.mem_words_of_mem_nested {s d : Stmt} (h : d ∈ s.nestedDeclarations) :
    ⟨d.span.start, d.span.start + 6⟩ ∈ s.words := by
  -- nothing is nested in a statement that is removed
  have hkept : s.isRemoved = true → s.nestedDeclarations = [] := by
    intro hremoved
    unfold isRemoved at hremoved
    split at hremoved
    case h_4 span place =>
        simp [nestedDeclarations, Node.framed, Node.stmtParts, Node.under, declarations_stmt,
          Node.ownDeclarations, isModuleDecl]
    all_goals first | rfl | cases hremoved
  have hinner : d ∈ s.inner.declarations := by
    cases s with
    | exportDecl span x =>
        show d ∈ (Node.stmt x).declarations
        simpa [nestedDeclarations, Node.framed, Node.stmtParts, Node.under] using h
    | exportDefault span v =>
        show d ∈ (Node.value v).declarations
        simpa [nestedDeclarations, Node.framed, Node.stmtParts, Node.under] using h
    | _ =>
        refine (declarations_stmt _).symm ▸ List.mem_append_right _ h
  have hremoved : ¬ s.isRemoved = true := by
    intro hremoved
    rw [hkept hremoved] at h
    exact absurd h List.not_mem_nil
  rw [words, if_neg hremoved]
  exact Node.mem_words_of_mem_declarations hinner

/-! ### Edits -/

/-- The character at a place is not kept by an edit. -/
def Edit.Covers (e : Edit) (place : Nat) : Prop := e.span.start ≤ place ∧ place < e.span.stop

/-- The character at a place is not kept in the script. -/
def Program.Removes (p : Program) (place : Nat) : Prop := ∃ e ∈ p.edits, e.Covers place

/-- A declaration at the top of a module loses the word that opens it. -/
theorem Stmt.Placed.exists_covers {lo hi : Nat} {s : Stmt} (hs : s.Placed lo hi)
    (hdecl : s.isModuleDecl = true) (l : Link) (scope : Scope) :
    ∃ e ∈ (l.contribution scope s).edits, e.Covers s.span.start := by
  rw [edits_contribution]
  by_cases hremoved : s.isRemoved = true
  · rw [if_pos hremoved]
    exact ⟨_, List.mem_singleton_self _, Nat.le_refl _, (hs.span_within hdecl).1⟩
  rw [if_neg hremoved]
  cases s with
  | exportDecl span d =>
      have htype : ∀ place, d ≠ .typeDecl place := by
        rintro place rfl
        exact hremoved rfl
      -- the first edit takes out the words before what is exported
      exact ⟨_, List.mem_cons_self, Nat.le_refl _, (hs.fits.opens_decl rfl htype).start_lt⟩
  | exportDefault span v =>
      have hlt := (hs.fits.opens_default rfl).start_lt
      simp only [rim]
      split
      · exact ⟨_, List.mem_cons_self, Nat.le_refl _, hlt⟩
      · exact ⟨_, List.mem_cons_self, Nat.le_refl _, hlt⟩
  | importDecl | exportList | exportAll => exact absurd rfl hremoved
  | _ => cases hdecl

/-! ### The whole module -/

namespace Program

variable {p : Program}

/-- The script requires what the module lists, and the words that open the declarations of the
module are taken out. -/
structure IsConverted (p : Program) : Prop where
  required_eq : p.required = p.specifiers
  removed : ∀ d ∈ p.declarations, p.Removes d.span.start

/-- No statement at the top of the module has a declaration further inside, nor a specifier.  Those
inside namespaces are not looked at as declarations, but their specifiers are listed. -/
def IsFlat (p : Program) : Prop :=
  ∀ s ∈ p.stmts, s.nestedDeclarations = [] ∧ s.nestedSpecifiers = []

/-- A declaration at the top of the module loses the word that opens it. -/
theorem removes (hp : p.IsPlaced) {s : Stmt} (hs : s ∈ p.stmts) (hdecl : s.isModuleDecl = true) :
    p.Removes s.span.start := by
  obtain ⟨lo, -, hall⟩ := hp
  obtain ⟨lo', hi', hplaced, -⟩ := hall.exists_placed hs
  obtain ⟨e, he, hcovers⟩ := hplaced.exists_covers hdecl (.ofProgram p) p.scope
  exact ⟨e, mem_edits.2 (.inr ⟨s, hs, he⟩), hcovers⟩

/-- A declaration further inside keeps the word that opens it. -/
theorem not_removes (hp : p.IsPlaced) {s d : Stmt} (hs : s ∈ p.stmts)
    (hd : d ∈ s.nestedDeclarations) : ¬ p.Removes d.span.start := by
  rintro ⟨e, he, hstart, hstop⟩
  have hedited : e.span ∈ p.edited := p.edits_sublist_edited.subset (List.mem_map_of_mem he)
  have hword : ⟨d.span.start, d.span.start + 6⟩ ∈ p.words :=
    List.mem_flatMap.2 ⟨s, hs, Stmt.mem_words_of_mem_nested hd⟩
  have hapart := (List.pairwise_append.1 (fit_places hp).apart).2.2 _ hedited _ hword
  rcases hapart with hahead | hbehind
  · exact absurd hstop (Nat.not_lt.2 hahead.1)
  · have : d.span.start + 6 ≤ e.span.start := hbehind.1
    omega

theorem isConverted_iff_isFlat_of_isPlaced (hp : p.IsPlaced) : p.IsConverted ↔ p.IsFlat := by
  constructor
  · intro h s hs
    refine ⟨List.eq_nil_iff_forall_not_mem.2 fun d hd => ?_,
      required_eq_specifiers_iff.1 h.required_eq s hs⟩
    refine not_removes hp hs hd (h.removed d (List.mem_flatMap.2 ⟨s, hs, ?_⟩))
    rw [declarations_stmt]
    exact List.mem_append_right _ hd
  · intro h
    refine ⟨required_eq_specifiers_iff.2 fun s hs => (h s hs).2, fun d hd => ?_⟩
    obtain ⟨s, hs, hd⟩ := List.mem_flatMap.1 hd
    rw [declarations_stmt, (h s hs).1, List.append_nil] at hd
    by_cases hdecl : s.isModuleDecl = true
    · rw [Node.ownDeclarations, if_pos hdecl] at hd
      obtain rfl := List.mem_singleton.1 hd
      exact removes hp hs hdecl
    · rw [Node.ownDeclarations, if_neg hdecl] at hd
      exact absurd hd List.not_mem_nil

/-- **The script of an accepted module stands for the module exactly if no declaration is further
inside.** -/
theorem isConverted_iff_isFlat {text : List Char} {parsed : Parsed}
    (h : parse false text = .ok parsed) : parsed.program.IsConverted ↔ parsed.program.IsFlat :=
  isConverted_iff_isFlat_of_isPlaced (isPlaced_of_parse h)

/-- A module whose declarations stand at the top is converted. -/
theorem isConverted_of_top_import : ∃ parsed,
    parse false "import \x7b a \x7d from './a.js';\nexport default a".toList = .ok parsed ∧
      parsed.program.IsConverted := by
  obtain ⟨parsed, hparse, hflat⟩ := exists_parsed (a := true)
    (fun parsed => parsed.program.stmts.all fun s =>
      s.nestedDeclarations.isEmpty && s.nestedSpecifiers.isEmpty) false
    "import \x7b a \x7d from './a.js';\nexport default a".toList (by decide +kernel)
  refine ⟨parsed, hparse, (isConverted_iff_isFlat hparse).2 fun s hs => ?_⟩
  have hs' := List.all_eq_true.1 hflat s hs
  simp only [Bool.and_eq_true, List.isEmpty_iff] at hs'
  exact hs'

/-- An import in a block is listed, but it is not required. -/
theorem not_isConverted_of_nested_import : ∃ parsed,
    parse false "\x7b import './a.js' \x7d".toList = .ok parsed ∧
      parsed.program.specifiers = ["./a.js"] ∧ parsed.program.required = [] ∧
      ¬ parsed.program.IsConverted := by
  obtain ⟨parsed, hparse, hlists⟩ := exists_parsed (a := (["./a.js"], []))
    (fun parsed => (parsed.program.specifiers, parsed.program.required)) false
    "\x7b import './a.js' \x7d".toList (by decide +kernel)
  obtain ⟨hspecifiers, hrequired⟩ := Prod.mk.inj hlists
  refine ⟨parsed, hparse, hspecifiers, hrequired, fun h => ?_⟩
  have heq := h.required_eq
  rw [hspecifiers, hrequired] at heq
  cases heq

end Program

end ModuleBundler
