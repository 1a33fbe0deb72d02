/-
ModuleBundler/Proofs/Module/Exports.lean

What a script installs for the exports of its module.  The getters are read off the script
(`Program.installed`), and what they should be is said of one export declaration at a time
(`Program.Exports`): the names of a declaration in the order of the text, the entries of a
list, each as it is written or as the import that it resolves to, and whatever comes from
another module through the temporary of the very declaration.  A default export that has no
name to be read by is assigned instead.

The script installs what the declarations at the top of the module export, one after the
other in the order of the text.  A declaration further inside is not looked at.

Main result: `installs_exports`.
-/
import ModuleBundler.Proofs.Module.Conversion
import ModuleBundler.Proofs.Module.Insertion
import ModuleBundler.Proofs.Syntax.Grammar.Order

namespace ModuleBundler

/-! ### Getters -/

namespace Getter

/-! What stands before the name, before the value and behind it. -/

def opening : List Char := "Object.defineProperty(exports, ".toList

def middle : List Char := ", \x7b enumerable: true, get: function () \x7b return ".toList

def closing : List Char := "; \x7d \x7d);".toList

/-- The getter that a line of a script installs. -/
def read? (text : List Char) : Option Getter := do
  let rest ← text.dropPrefix? opening
  let (name, rest) ← Lexeme.literal? rest
  let rest ← rest.dropPrefix? middle
  let value ← rest.dropSuffix? closing
  return ⟨name, String.ofList value⟩

theorem toList_text (g : Getter) : g.text.toList =
    opening ++ (Quoted.encode g.name.toList ++ (middle ++ (g.value.toList ++ closing))) := by
  unfold text opening middle closing
  simp only [String.toList_append, String.quoted, String.toList_ofList, List.append_assoc]

/-- **A line that installs a getter is read as the getter.** -/
theorem read?_text (g : Getter) : read? g.text.toList = some g := by
  have hbegin : ∀ front back : List Char, (front ++ back).dropPrefix? front = some back :=
    fun front back => List.dropPrefix?_append_of_beq back (beq_self_eq_true front)
  have hend : (g.value.toList ++ closing).dropSuffix? closing = some g.value.toList :=
    List.dropSuffix?_eq_some_iff.2 ⟨_, rfl, beq_self_eq_true _⟩
  rw [read?, toList_text, hbegin]
  simp only [Option.bind_eq_bind, Option.bind_some, Quoted.literal?_encode, hbegin, hend,
    String.ofList_toList]
  rfl

end Getter

/-- The getters that a script installs, in the order of its lines. -/
def Program.installed (p : Program) : List Getter :=
  (p.getters.map (·.text.toList)).filterMap Getter.read?

theorem Program.installed_eq (p : Program) : p.installed = p.getters := by
  have hread : (Getter.read? ∘ fun g : Getter => g.text.toList) = some :=
    funext Getter.read?_text
  rw [installed, List.filterMap_map, hread, List.filterMap_some]

/-! ### What a declaration exports -/

/-- The statement exports. -/
def Stmt.isExport : Stmt → Bool
  | .exportDecl _ _ | .exportList _ _ _ | .exportAll _ _ _ | .exportDefault _ _ => true
  | _ => false

/-- There is no name by which the value of a default export could be read. -/
def DefaultExport.isAnonymous : DefaultExport → Bool
  | .funcDecl f => f.id.isNone
  | .classDecl c => c.id.isNone
  | .expr _ => true

/-- The statement is a default export whose value has no name. -/
def Stmt.isAnonymousDefault : Stmt → Bool
  | .exportDefault _ v => v.isAnonymous
  | _ => false

namespace Program

/-- The temporary of a statement at the top of the module: its number is that of the statements before
with a temporary, and the head of the script keeps the dependency in it. -/
structure HasTemporary (p : Program) (s : Stmt) (source : String) (k : Nat) : Prop where
  number : ∃ front back, p.stmts = front ++ s :: back ∧ k = front.countP (·.bindsTemporary)
  required : .bound k source ∈ (Link.ofProgram p).requirements

/-- The getter for an entry of an export list without a source. -/
inductive ExportsEntry (p : Program) (spec : ExportSpec) : Getter → Prop
  /-- The entry resolves to an import. -/
  | imported {k : Nat} {source : String} {i : ImportSpec} : spec.localName.quoted = false →
      p.Resolves (Node.refer p.scope .plain false ⟨spec.localName.text, spec.localName.span⟩)
        k source i →
      ExportsEntry p spec ⟨spec.exported.text, Link.readOf (temporary k) i⟩
  | own : (spec.localName.quoted = false → ∀ k source i, ¬ p.Resolves
        (Node.refer p.scope .plain false ⟨spec.localName.text, spec.localName.span⟩) k source i) →
      ExportsEntry p spec ⟨spec.exported.text, spec.localName.text⟩

/-- The getters for an export declaration, in the order of the text. -/
inductive Exports (p : Program) : Stmt → List Getter → Prop
  /-- One for each name that the declaration binds. -/
  | declaration {span : Span} {d : Stmt} {ids : List Ident} : (∀ id, id ∈ ids ↔ d.Binds id) →
      ids.Pairwise (fun a b => a.span.start < b.span.start) →
      Exports p (.exportDecl span d) (ids.map fun id => ⟨id.name, id.name⟩)
  | entries {span : Span} {specs : List ExportSpec} {gs : List Getter} :
      List.Forall₂ p.ExportsEntry specs gs → Exports p (.exportList span specs none) gs
  /-- The entries are read through the temporary of the declaration. -/
  | forwarded {span : Span} {specs : List ExportSpec} {source : Literal} {k : Nat} :
      p.HasTemporary (.exportList span specs (some source)) source.text k →
      Exports p (.exportList span specs (some source))
        (specs.map fun spec => ⟨spec.exported.text, memberText (temporary k) spec.localName.text⟩)
  /-- The temporary itself is exported. -/
  | everything {span : Span} {name : ModuleName} {source : Literal} {k : Nat} :
      p.HasTemporary (.exportAll span (some name) source) source.text k →
      Exports p (.exportAll span (some name) source) [⟨name.text, temporary k⟩]
  /-- What is exported by names that only the other module knows has no getters here. -/
  | star {span : Span} {source : Literal} : Exports p (.exportAll span none source) []
  | defaultFunction {span : Span} {f : Func} {id : Ident} : f.id = some id →
      Exports p (.exportDefault span (.funcDecl f)) [⟨"default", id.name⟩]
  | defaultClass {span : Span} {c : Class} {id : Ident} : c.id = some id →
      Exports p (.exportDefault span (.classDecl c)) [⟨"default", id.name⟩]
  | anonymous {span : Span} {v : DefaultExport} : v.isAnonymous = true →
      Exports p (.exportDefault span v) []

/-- What stands in place of `export default` before a value without a name. -/
def assignment : List Char := "exports.default = ".toList

/-- A script installs what some declarations export: one getter after the other in the order of the
declarations, and an assignment if a default export among them needs it. -/
structure Installs (p : Program) (decls : List Stmt) : Prop where
  getters : ∃ gs, List.Forall₂ p.Exports decls gs ∧ p.installed = gs.flatten
  assignments : p.edits.countP (·.text == assignment) =
    if decls.any (·.isAnonymousDefault) then 1 else 0
  /-- The assignment takes the place of what stands before the value. -/
  assigned : ∀ e ∈ p.edits, e.text = assignment → ∃ span v, .exportDefault span v ∈ decls ∧
    v.isAnonymous = true ∧ e.span = ⟨span.start, v.span.start⟩

/-- The export declarations at the top of a module. -/
def exports (p : Program) : List Stmt := p.stmts.filter (·.isExport)

/-- All export declarations of a module, those inside namespaces aside. -/
def allExports (p : Program) : List Stmt := p.declarations.filter (·.isExport)

end Program

/-! ### Temporaries of declarations -/

/-- Of two declarations at the top of a module, the first ends before the second begins. -/
theorem Stmt.AllPlaced.pairwise {lo last : Nat} {stmts : List Stmt} (h : AllPlaced last lo stmts) :
    stmts.Pairwise fun s t => s.isModuleDecl = true → t.isModuleDecl = true →
      s.span.start < s.span.stop ∧ s.span.stop ≤ t.span.start := by
  induction h with
  | nil => exact List.Pairwise.nil
  | cons hfirst hrest ih =>
      refine List.pairwise_cons.2 ⟨fun t ht hs hdecl => ?_, ih⟩
      obtain ⟨lo', hi', hplaced, hle, -⟩ := hrest.exists_placed ht
      obtain ⟨hlt, hstop⟩ := hfirst.span_within hs
      exact ⟨hlt, Nat.le_trans hstop (Nat.le_trans hle (hplaced.le_start hdecl))⟩

theorem Stmt.isModuleDecl_of_isForwarding {s : Stmt} (h : s.isForwarding = true) :
    s.isModuleDecl = true := by
  cases s with
  | exportList | exportAll => rfl
  | _ => cases h

theorem Stmt.bindsTemporary_of_isForwarding {s : Stmt} (h : s.isForwarding = true) :
    s.bindsTemporary = true := by
  cases s with
  | exportList | exportAll => exact h
  | _ => cases h

/-- Only declarations that export again are known by the place where they begin. -/
theorem Link.mem_sources_foldl_add {stmts : List Stmt} {l : Link} {entry : Nat × Nat}
    (h : entry ∈ (stmts.foldl add l).sources) : entry ∈ l.sources ∨
      ∃ s ∈ stmts, s.isForwarding = true ∧ entry.1 = s.span.start := by
  induction stmts generalizing l with
  | nil => exact .inl h
  | cons s stmts ih =>
      rcases ih h with h | ⟨t, ht, hforward⟩
      · rw [sources_add] at h
        rcases List.mem_append.1 h with h | h
        · exact .inl h
        · by_cases hforward : s.isForwarding = true
          · rw [if_pos hforward] at h
            obtain rfl := List.mem_singleton.1 h
            exact .inr ⟨s, List.mem_cons_self, hforward, rfl⟩
          · rw [if_neg hforward] at h
            exact absurd h List.not_mem_nil
      · exact .inr ⟨t, List.mem_cons_of_mem s ht, hforward⟩

namespace Program

variable {p : Program} {s : Stmt} {source : String}

/-- The temporary that is found by the place of a declaration is the one of its own. -/
theorem sourceNumber?_of_eq (hp : p.IsPlaced) {front back : List Stmt}
    (hstmts : p.stmts = front ++ s :: back) (hs : s.isForwarding = true) :
    p.sourceNumber? s.span.start = some (front.countP (·.bindsTemporary)) := by
  obtain ⟨lo, -, hall⟩ := hp
  have hpairs := hall.pairwise
  rw [hstmts] at hpairs
  -- what was recorded before begins before
  have hbefore : (front.foldl Link.add .empty).sources.find? (·.1 == s.span.start) = none := by
    refine List.find?_eq_none.2 fun entry hentry heq => ?_
    rcases Link.mem_sources_foldl_add hentry with h | ⟨t, ht, hforward, hplace⟩
    · exact absurd h List.not_mem_nil
    · obtain ⟨hlt, hle⟩ := (List.pairwise_append.1 hpairs).2.2 t ht s List.mem_cons_self
        (Stmt.isModuleDecl_of_isForwarding hforward) (Stmt.isModuleDecl_of_isForwarding hs)
      rw [hplace] at heq
      have := eq_of_beq heq
      omega
  have hcount : (front.foldl Link.add .empty).count = front.countP (·.bindsTemporary) := by
    rw [Link.count_foldl_add]
    simp [Link.empty]
  have hown : ((front.foldl Link.add .empty).add s).sources.find? (·.1 == s.span.start) =
      some (s.span.start, front.countP (·.bindsTemporary)) := by
    rw [Link.sources_add, if_pos hs, List.find?_append, hbefore, hcount]
    simp
  have hall := (Link.sources_prefix_foldl_add _ back).find?_eq_some hown
  rw [sourceNumber?, Link.ofProgram, hstmts, List.foldl_append, List.foldl_cons, hall,
    Option.map_some]

theorem exists_hasTemporary (hp : p.IsPlaced) (hs : s ∈ p.stmts) (hforward : s.isForwarding = true)
    (hsource : s.specifier? = some source) : ∃ k, p.HasTemporary s source k ∧
      (Link.ofProgram p).source? s.span.start = some (temporary k) := by
  obtain ⟨front, back, hstmts⟩ := List.append_of_mem hs
  refine ⟨_, ⟨⟨front, back, hstmts, rfl⟩, ?_⟩, ?_⟩
  · exact bound_mem_requirements_of_eq hstmts (Stmt.bindsTemporary_of_isForwarding hforward) hsource
  · rw [source?_ofProgram, sourceNumber?_of_eq hp hstmts hforward, Option.map_some]

/-! ### One declaration -/

theorem exportedNames_eq (d : Stmt) : Link.exportedNames d = d.binders.map (·.name) := by
  cases d with
  | declare span kind items =>
      rw [Link.exportedNames, declaredNames, Stmt.binders, List.map_flatMap]
      exact List.flatMap_congr fun d _ => d.target.names_eq_map_binders
  | funcDecl f => simp [Link.exportedNames, Stmt.binders]
  | classDecl c => simp [Link.exportedNames, Stmt.binders]
  | _ => rfl

/-- A declaration has a getter for each name that it binds. -/
theorem getters_exportDecl (l : Link) (scope : Scope) (span : Span) (d : Stmt) :
    (l.contribution scope (.exportDecl span d)).getters =
      d.binders.map fun id => ⟨id.name, id.name⟩ := by
  have hnames : (Link.exportedNames d).map (fun name => (⟨name, name⟩ : Getter)) =
      d.binders.map fun id => ⟨id.name, id.name⟩ := by
    rw [exportedNames_eq, List.map_map]
    rfl
  cases d with
  | typeDecl place => rfl
  | _ => exact hnames

/-- A name at the top of the module resolves to the import that it means. -/
theorem resolves_refer_iff {id : Ident} {k : Nat} {i : ImportSpec} :
    p.Resolves (Node.refer p.scope .plain false id) k source i ↔ p.Imports id.name k source i := by
  constructor
  · exact fun h => h.imports
  · exact fun h => ⟨⟨_, home?_scope_of_mem h.mem_bodyNames, rfl⟩, h⟩

theorem exportsEntry_listGetter (p : Program) (spec : ExportSpec) :
    p.ExportsEntry spec ((Link.ofProgram p).listGetter none spec) := by
  simp only [Link.listGetter]
  cases hquoted : spec.localName.quoted with
  | true => exact .own fun h => Bool.noConfusion (hquoted.symm.trans h)
  | false =>
      rcases hread : (Link.ofProgram p).read? spec.localName.text with _ | read
      · refine .own fun _ k source i hresolves => ?_
        rw [read?_ofProgram.2 ⟨k, source, i, resolves_refer_iff.1 hresolves, rfl⟩] at hread
        cases hread
      · obtain ⟨k, source, i, himports, rfl⟩ := read?_ofProgram.1 hread
        exact .imported hquoted (resolves_refer_iff.2 himports)

/-- **A declaration contributes the getters for what it exports.** -/
theorem exports_contribution (hp : p.IsPlaced)
    (hordered : ∀ span d, .exportDecl span d ∈ p.stmts →
      d.binders.Pairwise fun a b => a.span.start < b.span.start)
    (hs : s ∈ p.stmts) (hexport : s.isExport = true) :
    p.Exports s ((Link.ofProgram p).contribution p.scope s).getters := by
  cases s with
  | exportDecl span d =>
      rw [getters_exportDecl]
      exact .declaration (fun id => Stmt.mem_binders_iff) (hordered span d hs)
  | exportList span specs source =>
      cases source with
      | none =>
          refine .entries ?_
          show List.Forall₂ p.ExportsEntry specs (specs.map ((Link.ofProgram p).listGetter none))
          rw [List.forall₂_map_right_iff, List.forall₂_same]
          exact fun spec _ => p.exportsEntry_listGetter spec
      | some source =>
          obtain ⟨k, htemporary, hfound⟩ := exists_hasTemporary hp hs rfl rfl
          replace hfound : (Link.ofProgram p).source? span.start = some (temporary k) := hfound
          simp only [Link.contribution, Option.bind_some, hfound]
          exact .forwarded htemporary
  | exportAll span exported source =>
      cases exported with
      | none => exact .star
      | some name =>
          obtain ⟨k, htemporary, hfound⟩ := exists_hasTemporary hp hs rfl rfl
          replace hfound : (Link.ofProgram p).source? span.start = some (temporary k) := hfound
          simp only [Link.contribution, hfound]
          exact .everything htemporary
  | exportDefault span v =>
      cases v with
      | funcDecl f =>
          rcases hid : f.id with _ | id <;>
            simp only [Link.contribution, Link.defaultName?, hid, Option.map_none, Option.map_some]
          · exact .anonymous (by simp [DefaultExport.isAnonymous, hid])
          · exact .defaultFunction hid
      | classDecl c =>
          rcases hid : c.id with _ | id <;>
            simp only [Link.contribution, Link.defaultName?, hid, Option.map_none, Option.map_some]
          · exact .anonymous (by simp [DefaultExport.isAnonymous, hid])
          · exact .defaultClass hid
      | expr e => exact .anonymous rfl
  | _ => cases hexport

/-- Only export declarations contribute getters. -/
theorem getters_eq (p : Program) : p.getters =
    (p.exports.map fun s => ((Link.ofProgram p).contribution p.scope s).getters).flatten := by
  rw [getters, contributions, List.flatMap_map, exports, ← List.flatMap_def]
  induction p.stmts with
  | nil => rfl
  | cons s stmts ih =>
      rw [List.flatMap_cons, ih]
      cases hexport : s.isExport with
      | true => rw [List.filter_cons_of_pos hexport, List.flatMap_cons]
      | false =>
          rw [List.filter_cons_of_neg (by simp [hexport])]
          cases s with
          | exportDecl | exportList | exportAll | exportDefault => cases hexport
          | _ => rfl

/-! ### The assignment -/

/-- No reference becomes an assignment: a read begins with an underscore, what is called with a
parenthesis, and a shorthand has a colon. -/
theorem text_ne_assignment {scope : Scope} {n : Node} {e : Edit}
    (he : e ∈ (Link.ofProgram p).edits scope n) : e.text ≠ assignment := by
  obtain ⟨r, -, hedit⟩ := List.mem_filterMap.1 he
  obtain ⟨read, hread, rfl⟩ := Option.map_eq_some_iff.1 hedit
  obtain ⟨k, source, spec, -, rfl⟩ := readOf?_eq_some.1 hread
  have hread : (Link.readOf (temporary k) spec).toList.head? = some '_' := by
    rw [Link.readOf_eq, temporary, String.toList_append, String.toList_append]
    rfl
  show (r.written (Link.readOf (temporary k) spec)).toList ≠ assignment
  -- the temporary comes first, or after a parenthesis or a colon
  unfold Reference.written
  cases r.role with
  | plain =>
      intro heq
      rw [heq] at hread
      exact absurd hread (by decide)
  | shorthand =>
      intro heq
      have hcolon : ':' ∈ (r.id.name ++ ": " ++ Link.readOf (temporary k) spec).toList := by simp
      replace heq : (r.id.name ++ ": " ++ Link.readOf (temporary k) spec).toList = assignment := heq
      rw [heq] at hcolon
      exact absurd hcolon (by decide)
  | callee =>
      intro heq
      have hparen : ("(0, " ++ Link.readOf (temporary k) spec ++ ")").toList.head? = some '(' := by
        rw [String.toList_append, String.toList_append]
        rfl
      replace heq : ("(0, " ++ Link.readOf (temporary k) spec ++ ")").toList = assignment := heq
      rw [heq] at hparen
      exact absurd hparen (by decide)

theorem defaultName?_eq_none_iff {v : DefaultExport} :
    Link.defaultName? v = none ↔ v.isAnonymous = true := by
  cases v <;> simp [Link.defaultName?, DefaultExport.isAnonymous]

theorem countP_rim (s : Stmt) :
    s.rim.countP (·.text == assignment) = if s.isAnonymousDefault then 1 else 0 := by
  cases s with
  | exportDefault span v =>
      simp only [Stmt.rim, Stmt.isAnonymousDefault, ← defaultName?_eq_none_iff]
      rcases Link.defaultName? v with _ | name <;> rfl
  | _ => rfl

theorem countP_edits_contribution (scope : Scope) (s : Stmt) :
    ((Link.ofProgram p).contribution scope s).edits.countP (·.text == assignment) =
      if s.isAnonymousDefault then 1 else 0 := by
  rw [Stmt.edits_contribution]
  by_cases hremoved : s.isRemoved = true
  · rw [if_pos hremoved]
    cases s with
    | exportDefault => cases hremoved
    | _ => rfl
  · rw [if_neg hremoved, List.countP_append, countP_rim]
    have hnone : ((Link.ofProgram p).edits scope s.inner).countP (·.text == assignment) = 0 :=
      List.countP_eq_zero.2 fun e he heq => text_ne_assignment he (eq_of_beq heq)
    rw [hnone, Nat.add_zero]

/-- An assignment is inserted for each default export whose value has no name. -/
theorem countP_edits (p : Program) :
    p.edits.countP (·.text == assignment) = p.stmts.countP (·.isAnonymousDefault) := by
  have hhashbang : (p.hashbang.toList.map (Edit.ofString · "")).countP (·.text == assignment) = 0 := by
    cases p.hashbang <;> rfl
  rw [edits, List.countP_append, hhashbang, Nat.zero_add, contributions, List.flatMap_map]
  induction p.stmts with
  | nil => rfl
  | cons s stmts ih =>
      rw [List.flatMap_cons, List.countP_append, ih, countP_edits_contribution, List.countP_cons,
        Nat.add_comm]

/-- An assignment takes the place of what stands before the value of a default export. -/
theorem exists_exportDefault_of_text_eq {e : Edit} (he : e ∈ p.edits) (htext : e.text = assignment) :
    ∃ span v, .exportDefault span v ∈ p.exports ∧ v.isAnonymous = true ∧
      e.span = ⟨span.start, v.span.start⟩ := by
  rcases mem_edits.1 he with ⟨span, -, rfl⟩ | ⟨s, hs, he⟩
  · cases htext
  rw [Stmt.edits_contribution] at he
  split at he
  · obtain rfl := List.mem_singleton.1 he
    cases htext
  -- only the rim of a default export without a name has this text
  rcases List.mem_append.1 he with he | he
  · cases s with
    | exportDecl span d =>
        obtain rfl := List.mem_singleton.1 he
        cases htext
    | exportDefault span v =>
        rcases hname : Link.defaultName? v with _ | name <;> simp only [Stmt.rim, hname] at he
        · rcases List.mem_cons.1 he with rfl | he
          · exact ⟨span, v, List.mem_filter.2 ⟨hs, rfl⟩, defaultName?_eq_none_iff.1 hname, rfl⟩
          · obtain rfl := List.mem_singleton.1 he
            cases htext
        · obtain rfl := List.mem_singleton.1 he
          cases htext
    | _ => exact absurd he List.not_mem_nil
  · exact absurd htext (text_ne_assignment he)

/-- A module that exports nothing twice has one default export at most. -/
theorem sum_defaultExports_le {stmts : List Stmt} (h : duplicateExports stmts = []) :
    (stmts.map defaultExports).sum ≤ 1 := by
  have hrest := (List.append_eq_nil_iff.1 h).2
  split at hrest
  next hle => exact hle
  next => cases hrest

theorem countP_isAnonymousDefault_le {stmts : List Stmt} (h : duplicateExports stmts = []) :
    stmts.countP (·.isAnonymousDefault) ≤ 1 := by
  have hone : ∀ s : Stmt, (if s.isAnonymousDefault then 1 else 0) ≤ defaultExports s := by
    intro s
    cases s with
    | exportDefault span v =>
        show (if _ then 1 else 0) ≤ 1
        split <;> decide
    | _ => exact Nat.zero_le _
  have hsum : stmts.countP (·.isAnonymousDefault) ≤ (stmts.map defaultExports).sum := by
    clear h
    induction stmts with
    | nil => exact Nat.le_refl _
    | cons s stmts ih =>
        have := hone s
        rw [List.countP_cons, List.map_cons, List.sum_cons]
        omega
  exact hsum.trans (sum_defaultExports_le h)

/-! ### The whole module -/

theorem isModuleDecl_of_isExport (h : s.isExport = true) : s.isModuleDecl = true := by
  cases s with
  | exportDecl | exportList | exportAll | exportDefault => rfl
  | _ => cases h

theorem pairwise_exports (hp : p.IsPlaced) :
    p.exports.Pairwise fun s t => s.span.stop ≤ t.span.start := by
  obtain ⟨lo, -, hall⟩ := hp
  refine (hall.pairwise.sublist List.filter_sublist).imp_of_mem fun hs ht h => ?_
  have hdecl : ∀ {s : Stmt}, s ∈ p.exports → s.isModuleDecl = true :=
    fun hs => isModuleDecl_of_isExport (List.mem_filter.1 hs).2
  exact (h (hdecl hs) (hdecl ht)).2

/-- Where there is one default export at most, an assignment is inserted once or never. -/
theorem countP_edits_eq_ite (hle : p.stmts.countP (·.isAnonymousDefault) ≤ 1) :
    p.edits.countP (·.text == assignment) =
      if p.exports.any (·.isAnonymousDefault) then 1 else 0 := by
  have hexport : ∀ s : Stmt, s.isAnonymousDefault = true → s.isExport = true := by
    intro s h
    cases s with
    | exportDefault => rfl
    | _ => cases h
  have hany : p.exports.any (·.isAnonymousDefault) = true ↔
      0 < p.stmts.countP (·.isAnonymousDefault) := by
    rw [List.any_eq_true, List.countP_pos_iff]
    constructor
    · rintro ⟨s, hs, h⟩
      exact ⟨s, (List.mem_filter.1 hs).1, h⟩
    · rintro ⟨s, hs, h⟩
      exact ⟨s, List.mem_filter.2 ⟨hs, hexport s h⟩, h⟩
  rw [countP_edits]
  by_cases h : p.exports.any (·.isAnonymousDefault) = true
  · rw [if_pos h]
    exact Nat.le_antisymm hle (hany.1 h)
  · rw [if_neg h]
    exact Nat.eq_zero_of_not_pos fun hpos => h (hany.2 hpos)

/-- Where no export declaration is further inside, those at the top are all. -/
theorem allExports_eq (h : ∀ s ∈ p.stmts, ∀ d ∈ s.nestedDeclarations, d.isExport = false) :
    p.allExports = p.exports := by
  rw [allExports, declarations, exports, List.filter_flatMap, ← List.flatMap_singleton' p.stmts,
    List.filter_flatMap, List.flatMap_singleton']
  refine List.flatMap_congr fun s hs => ?_
  have hnested : s.nestedDeclarations.filter (·.isExport) = [] :=
    List.filter_eq_nil_iff.2 fun d hd => by simp [h s hs d hd]
  rw [declarations_stmt, List.filter_append, hnested, List.append_nil, Node.ownDeclarations]
  by_cases hdecl : s.isModuleDecl = true
  · rw [if_pos hdecl]
  · rw [if_neg hdecl, List.filter_nil, List.filter_cons_of_neg, List.filter_nil]
    exact fun hexport => hdecl (isModuleDecl_of_isExport hexport)

/-- **A script installs what the declarations at the top of its module export, in the order of the
text.**  Those are all the export declarations of the module, unless one is further inside. -/
theorem installs_exports {text : List Char} {parsed : Parsed} (h : parse false text = .ok parsed) :
    parsed.program.exports.Pairwise (fun s t => s.span.stop ≤ t.span.start) ∧
      parsed.program.Installs parsed.program.exports ∧
      ((∀ s ∈ parsed.program.stmts, ∀ d ∈ s.nestedDeclarations, d.isExport = false) →
        parsed.program.Installs parsed.program.allExports) := by
  have hp := isPlaced_of_parse h
  obtain ⟨directives, stmts, c, -, -, hunique, hprogram⟩ := exists_statements h
  have hinstalls : parsed.program.Installs parsed.program.exports := by
    refine ⟨⟨_, ?_, parsed.program.installed_eq.trans parsed.program.getters_eq⟩, ?_, ?_⟩
    · rw [List.forall₂_map_right_iff, List.forall₂_same]
      intro s hs
      obtain ⟨hs, hexport⟩ := List.mem_filter.1 hs
      exact exports_contribution hp (fun span d hd => ordered_of_parse h hd) hs hexport
    · refine countP_edits_eq_ite ?_
      rw [hprogram]
      exact countP_isAnonymousDefault_le hunique
    · exact fun e he htext => exists_exportDefault_of_text_eq he htext
  refine ⟨pairwise_exports hp, hinstalls, fun hflat => ?_⟩
  rw [allExports_eq hflat]
  exact hinstalls

/-- A module that exports in many ways. -/
def exporting : List Char :=
  ("import \x7b a \x7d from './a.js';\nexport const \x7b b, c: [d = 1, , ...e] \x7d = a, f = 2;\n" ++
    "export \x7b a as g, b as h \x7d;\nexport \x7b x as y \x7d from './x.js';\n" ++
    "export * as n from './n.js';\nexport default () => a").toList

/-- What a module exports is installed, name by name. -/
theorem installs_exports_of_exporting : ∃ parsed, parse false exporting = .ok parsed ∧
    parsed.program.Installs parsed.program.allExports ∧
    parsed.program.installed = [⟨"b", "b"⟩, ⟨"d", "d"⟩, ⟨"e", "e"⟩, ⟨"f", "f"⟩,
      ⟨"g", "__parcela_dep_0.a"⟩, ⟨"h", "b"⟩, ⟨"y", "__parcela_dep_1.x"⟩, ⟨"n", "__parcela_dep_2"⟩] ∧
    parsed.program.edits.countP (·.text == assignment) = 1 := by
  obtain ⟨parsed, hparse, hfacts⟩ := exists_parsed
    (a := ([⟨"b", "b"⟩, ⟨"d", "d"⟩, ⟨"e", "e"⟩, ⟨"f", "f"⟩, ⟨"g", "__parcela_dep_0.a"⟩, ⟨"h", "b"⟩,
      ⟨"y", "__parcela_dep_1.x"⟩, ⟨"n", "__parcela_dep_2"⟩], true, true))
    (fun parsed => (parsed.program.getters, parsed.program.exports.any (·.isAnonymousDefault),
      parsed.program.stmts.all fun s => s.nestedDeclarations.all fun d => !d.isExport))
    false exporting (by decide +kernel)
  simp only [Prod.mk.injEq] at hfacts
  obtain ⟨hgetters, hdefault, hflat⟩ := hfacts
  obtain ⟨-, hinstalls, hall⟩ := installs_exports hparse
  refine ⟨parsed, hparse, hall ?_, (installed_eq _).trans hgetters, ?_⟩
  · intro s hs d hd
    have := List.all_eq_true.1 (List.all_eq_true.1 hflat s hs) d hd
    simpa using this
  · rw [hinstalls.assignments, if_pos hdefault]

/-- A default export in a block is accepted, but nothing is installed for it. -/
theorem not_installs_of_nested_export : ∃ parsed,
    parse false "\x7b export default 1 \x7d".toList = .ok parsed ∧
      parsed.program.allExports.any (·.isAnonymousDefault) = true ∧
      ¬ parsed.program.Installs parsed.program.allExports := by
  obtain ⟨parsed, hparse, hfacts⟩ := exists_parsed (a := (true, 0))
    (fun parsed => (parsed.program.allExports.any (·.isAnonymousDefault),
      parsed.program.edits.countP (·.text == assignment))) false
    "\x7b export default 1 \x7d".toList (by decide +kernel)
  obtain ⟨hdefault, hnone⟩ := Prod.mk.inj hfacts
  refine ⟨parsed, hparse, hdefault, fun h => ?_⟩
  have hone := h.assignments
  rw [if_pos hdefault, hnone] at hone
  cases hone

end Program

end ModuleBundler
