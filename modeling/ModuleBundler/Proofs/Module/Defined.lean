/-
ModuleBundler/Proofs/Module/Defined.lean

Which properties of `exports` a script defines, and whether it can run.  The names are read
off the statements in the head of the script (`Program.definedNames`): the mark of a module
and one getter after the other.  A property that is defined is there for good.  To define it
again fails (`HeadStatement.run`), and so does an assignment to it (`Program.Runs`).

The reader of modules refuses a name that is exported twice, and a second default export,
but it knows nothing of the mark.  So the names of the getters are all different, and the one
default export has either a getter or an assignment, but a module may export something under
the very name of the mark.

Main result: `definedNames_nodup_iff`.
-/
import ModuleBundler.Proofs.Module.Exports

namespace ModuleBundler

/-! ### The statements of the head -/

/-- A statement in the head of a script. -/
inductive HeadStatement where
  /-- The strict directive. -/
  | strict
  /-- The mark that the exports are those of a module. -/
  | mark
  | getter (g : Getter)
  | requirement (r : Requirement)

namespace HeadStatement

def text : HeadStatement → String
  | strict => Program.strictLine
  | mark => Program.markLine
  | getter g => g.text ++ "\n"
  | requirement r => r.text ++ "\n"

/-- The name in a statement that begins with `Object.defineProperty(exports, name`. -/
def definedName? (text : List Char) : Option String := do
  let rest ← text.dropPrefix? Getter.opening
  let (name, _) ← Lexeme.literal? rest
  return name

/-- The name of the mark. -/
def markName : String := "__esModule"

def defines : HeadStatement → Option String
  | mark => some markName
  | getter g => some g.name
  | _ => none

theorem definedName?_append (name : String) (rest : List Char) :
    definedName? (Getter.opening ++ (Quoted.encode name.toList ++ rest)) = some name := by
  rw [definedName?, List.dropPrefix?_append_of_beq _ (beq_self_eq_true _)]
  simp only [Option.bind_eq_bind, Option.bind_some, Quoted.literal?_encode, String.ofList_toList]
  rfl

/-- A statement that begins in another way defines nothing. -/
theorem definedName?_eq_none {front : List Char} (hfront : ¬ front <+: Getter.opening)
    (hopening : ¬ Getter.opening <+: front) (rest : List Char) :
    definedName? (front ++ rest) = none := by
  rcases hdrop : (front ++ rest).dropPrefix? Getter.opening with _ | back
  · rw [definedName?, hdrop]
    rfl
  · obtain ⟨opening, htext, hopen⟩ := List.dropPrefix?_eq_some_iff.1 hdrop
    obtain rfl := eq_of_beq hopen
    rcases List.prefix_or_prefix_of_prefix (List.prefix_append front rest)
      ⟨back, htext.symm⟩ with h | h
    · exact absurd h hfront
    · exact absurd h hopening

/-- What a statement defines stands in its text. -/
theorem definedName?_text (s : HeadStatement) : definedName? s.text.toList = s.defines := by
  cases s with
  | strict => decide
  | mark => decide
  | getter g =>
      show definedName? (g.text ++ "\n").toList = some g.name
      rw [String.toList_append, Getter.toList_text, List.append_assoc, List.append_assoc]
      exact definedName?_append g.name _
  | requirement r =>
      obtain ⟨back, htext⟩ := r.exists_text_eq
      show definedName? (r.text ++ "\n").toList = none
      rw [htext, String.toList_append, String.toList_append, List.append_assoc]
      have hapart : ∀ front ∈ ["require(", "var ", "Object.keys("],
          ¬ front.toList <+: Getter.opening ∧ ¬ Getter.opening <+: front.toList := by decide
      have hmem : r.opening ∈ ["require(", "var ", "Object.keys("] := by
        cases r <;> simp [Requirement.opening]
      exact definedName?_eq_none (hapart _ hmem).1 (hapart _ hmem).2 _

/-! ### Running -/

/-- A property is defined for good. -/
def define (own : List String) (name : String) : Option (List String) :=
  if name ∈ own then none else some (own ++ [name])

/-- A key of another module is defined too, unless it is left out or the object has it. -/
def forward (own : List String) (key : String) : List String :=
  if key = "default" ∨ key = markName ∨ key ∈ own then own else own ++ [key]

/-- The names of the properties of `exports` after a statement, where `keys` are those of the modules
in the temporaries.  There is no result if a property is defined again. -/
def run (keys : Nat → List String) (own : List String) : HeadStatement → Option (List String)
  | strict => some own
  | mark => define own markName
  | getter g => define own g.name
  | requirement (.forward k) => some ((keys k).foldl forward own)
  | requirement _ => some own

variable {keys : Nat → List String} {own own' : List String} {s : HeadStatement}
  {ss : List HeadStatement}

theorem subset_foldl_forward (names own : List String) : own ⊆ names.foldl forward own := by
  induction names generalizing own with
  | nil => exact List.Subset.refl own
  | cons name names ih =>
      refine List.Subset.trans ?_ (ih (forward own name))
      rw [forward]
      split
      · exact List.Subset.refl own
      · exact List.subset_append_left own [name]

theorem default_mem_foldl_forward (names own : List String) :
    "default" ∈ names.foldl forward own ↔ "default" ∈ own := by
  induction names generalizing own with
  | nil => rfl
  | cons name names ih =>
      rw [List.foldl_cons, ih, forward]
      split
      · rfl
      · rename_i hnew
        simp only [List.mem_append, List.mem_singleton, or_iff_left_iff_imp]
        exact fun heq => absurd (.inl heq.symm) hnew

/-- A statement that defines a property defines it exactly if it is new. -/
theorem run_of_defines {name : String} (h : s.defines = some name) :
    run keys own s = define own name := by
  cases s with
  | mark | getter => cases h; rfl
  | strict | requirement => cases h

/-- Any other statement runs. -/
theorem exists_run_of_defines_none (h : s.defines = none) (keys : Nat → List String)
    (own : List String) : ∃ own', run keys own s = some own' ∧ own ⊆ own' ∧
      ("default" ∈ own' ↔ "default" ∈ own) := by
  have hsame : ∃ own', some own = some own' ∧ own ⊆ own' ∧
      ("default" ∈ own' ↔ "default" ∈ own) := ⟨own, rfl, List.Subset.refl own, Iff.rfl⟩
  cases s with
  | strict => exact hsame
  | mark | getter => cases h
  | requirement r =>
      cases r with
      | bare | bound => exact hsame
      | forward k =>
          exact ⟨_, rfl, subset_foldl_forward (keys k) own,
            default_mem_foldl_forward (keys k) own⟩

/-- What a statement that has run leaves behind. -/
theorem run_eq_some (h : run keys own s = some own') : own ⊆ own' ∧
    (∀ name, s.defines = some name → name ∉ own ∧ name ∈ own') ∧
    ("default" ∈ own' ↔ "default" ∈ own ∨ s.defines = some "default") := by
  rcases hdefines : s.defines with _ | name
  · obtain ⟨own'', hrun, hsubset, hdefault⟩ := exists_run_of_defines_none hdefines keys own
    obtain rfl := Option.some.inj (hrun.symm.trans h)
    exact ⟨hsubset, fun _ h => (by cases h), by simp [hdefault]⟩
  · rw [run_of_defines hdefines, define] at h
    split at h
    · cases h
    · rename_i hnew
      cases h
      refine ⟨List.subset_append_left own [name], ?_, ?_⟩
      · rintro _ ⟨⟩
        exact ⟨hnew, List.mem_append_right own (List.mem_singleton_self name)⟩
      · simp [eq_comm]

/-- **Statements that have run define each property once.** -/
theorem nodup_of_foldlM_run (h : ss.foldlM (run keys) own = some own') :
    (ss.filterMap defines).Nodup ∧ (∀ name ∈ ss.filterMap defines, name ∉ own) ∧
      ("default" ∈ own' ↔ "default" ∈ own ∨ "default" ∈ ss.filterMap defines) := by
  induction ss generalizing own with
  | nil =>
      cases h
      simp
  | cons s ss ih =>
      rw [List.foldlM_cons] at h
      obtain ⟨own₁, hrun, h⟩ := Option.bind_eq_some_iff.1 h
      -- a key that is there stays, so the names that come later differ from it
      obtain ⟨hsubset, hname, hdefault⟩ := run_eq_some hrun
      obtain ⟨hnodup, hnew, hrest⟩ := ih h
      rcases hdefines : s.defines with _ | name
      · rw [List.filterMap_cons_none hdefines]
        refine ⟨hnodup, fun name hmem hold => hnew name hmem (hsubset hold), ?_⟩
        rw [hrest, hdefault, hdefines]
        simp
      · obtain ⟨hfresh, hadded⟩ := hname name hdefines
        rw [List.filterMap_cons_some hdefines]
        refine ⟨List.nodup_cons.2 ⟨fun hmem => hnew name hmem hadded, hnodup⟩, ?_, ?_⟩
        · exact List.forall_mem_cons.2 ⟨hfresh, fun n hmem hold => hnew n hmem (hsubset hold)⟩
        · rw [hrest, hdefault, hdefines, List.mem_cons, Option.some_inj, or_assoc,
            eq_comm (a := name)]

/-- Definitions of properties that are new and different run. -/
theorem foldlM_run_of_nodup {names : List String} (hdefines : ss.map defines = names.map some)
    (hnodup : names.Nodup) (hnew : ∀ name ∈ names, name ∉ own) :
    ss.foldlM (run keys) own = some (own ++ names) := by
  induction ss generalizing own names with
  | nil =>
      obtain rfl := List.map_eq_nil_iff.1 hdefines.symm
      rw [List.append_nil]
      rfl
  | cons s ss ih =>
      obtain _ | ⟨name, names⟩ := names
      · cases hdefines
      obtain ⟨hfirst, hrest⟩ := List.cons.inj hdefines
      obtain ⟨hfresh, hnodup⟩ := List.nodup_cons.1 hnodup
      obtain ⟨hown, hnew⟩ := List.forall_mem_cons.1 hnew
      rw [List.foldlM_cons, run_of_defines hfirst, define, if_neg hown, Option.bind_eq_bind,
        Option.bind_some, ih hrest hnodup, List.append_assoc, List.singleton_append]
      intro n hn hmem
      rcases List.mem_append.1 hmem with hmem | hmem
      · exact hnew n hn hmem
      · exact hfresh (List.mem_singleton.1 hmem ▸ hn)

/-- Statements that define nothing run. -/
theorem exists_foldlM_run (h : ∀ s ∈ ss, s.defines = none) (keys : Nat → List String)
    (own : List String) : ∃ own', ss.foldlM (run keys) own = some own' := by
  induction ss generalizing own with
  | nil => exact ⟨own, rfl⟩
  | cons s ss ih =>
      obtain ⟨hfirst, hrest⟩ := List.forall_mem_cons.1 h
      obtain ⟨own₁, hrun, -, -⟩ := exists_run_of_defines_none hfirst keys own
      obtain ⟨own', hrun'⟩ := ih hrest own₁
      refine ⟨own', ?_⟩
      rw [List.foldlM_cons, hrun, Option.bind_eq_bind, Option.bind_some, hrun']

end HeadStatement

namespace Program

/-- The statements in the head of a script that define properties. -/
def definitions (p : Program) : List HeadStatement :=
  (if p.isModule then [.mark] else []) ++ p.getters.map .getter

def headStatements (p : Program) : List HeadStatement :=
  .strict :: p.definitions ++ (Link.ofProgram p).requirements.map .requirement

/-- The head is made of its statements. -/
theorem join_headStatements (p : Program) :
    String.join (p.headStatements.map (·.text)) = p.scriptHead := by
  rw [← String.toList_inj]
  cases hmodule : p.isModule <;>
    simp [headStatements, definitions, scriptHead, hmodule, String.toList_join, HeadStatement.text,
      Function.comp_def]

/-- The names of the properties that the statements in the head define, in their order. -/
def definedNames (p : Program) : List String :=
  p.headStatements.filterMap fun s => HeadStatement.definedName? s.text.toList

/-- The script inserts an assignment to `exports.default`. -/
def Assigns (p : Program) : Prop := ∃ e ∈ p.edits, e.text = assignment

/-- The head runs to its end, and where an assignment to `exports.default` follows, it is not to a
property that was defined. -/
def Runs (p : Program) (keys : Nat → List String) : Prop :=
  ∃ own, p.headStatements.foldlM (HeadStatement.run keys) [] = some own ∧
    (p.Assigns → "default" ∉ own)

variable {p : Program}

theorem definedNames_eq (p : Program) : p.definedNames =
    (if p.isModule then [HeadStatement.markName] else []) ++ p.installed.map (·.name) := by
  have hread : (fun s : HeadStatement => HeadStatement.definedName? s.text.toList) =
      HeadStatement.defines := funext HeadStatement.definedName?_text
  have hrequire : (Link.ofProgram p).requirements.filterMap
      (HeadStatement.defines ∘ .requirement) = [] :=
    List.filterMap_eq_nil_iff.2 fun _ _ => rfl
  have hgetters : p.getters.filterMap (HeadStatement.defines ∘ .getter) =
      p.getters.map (·.name) :=
    congrFun List.filterMap_eq_map p.getters
  rw [definedNames, hread, installed_eq, headStatements, definitions, List.cons_append,
    List.filterMap_cons_none rfl, List.filterMap_append, List.filterMap_append, List.filterMap_map,
    List.filterMap_map, hrequire, hgetters, List.append_nil]
  congr 1
  split <;> rfl

theorem map_defines_definitions (p : Program) :
    p.definitions.map HeadStatement.defines = p.definedNames.map some := by
  rw [definedNames_eq, installed_eq, definitions, List.map_append, List.map_append, List.map_map,
    List.map_map]
  congr 1
  split <;> rfl

/-- **The head runs if nothing is defined twice or assigned after it was defined.** -/
theorem runs_iff (keys : Nat → List String) :
    p.Runs keys ↔ p.definedNames.Nodup ∧ (p.Assigns → "default" ∉ p.definedNames) := by
  have hnames : p.definedNames = p.headStatements.filterMap HeadStatement.defines :=
    List.filterMap_congr fun s _ => s.definedName?_text
  constructor
  · rintro ⟨own, hrun, hassign⟩
    obtain ⟨hnodup, -, hdefault⟩ := HeadStatement.nodup_of_foldlM_run hrun
    rw [hnames]
    exact ⟨hnodup, fun h hmem => hassign h (hdefault.2 (.inr hmem))⟩
  · rintro ⟨hnodup, hassign⟩
    -- first the mark and the getters, then the rest, which defines nothing that is known here
    have hnone : ∀ s ∈ (Link.ofProgram p).requirements.map HeadStatement.requirement,
        s.defines = none := by simp [HeadStatement.defines]
    obtain ⟨own, hrest⟩ := HeadStatement.exists_foldlM_run hnone keys p.definedNames
    have hrun : p.headStatements.foldlM (HeadStatement.run keys) [] = some own := by
      rw [headStatements, List.foldlM_append, List.foldlM_cons]
      show ((List.foldlM (HeadStatement.run keys) [] _).bind _) = some own
      rw [HeadStatement.foldlM_run_of_nodup p.map_defines_definitions hnodup
        fun _ _ => List.not_mem_nil, Option.bind_some, List.nil_append, hrest]
    obtain ⟨-, -, hdefault⟩ := HeadStatement.nodup_of_foldlM_run hrun
    refine ⟨own, hrun, fun h hmem => hassign h ?_⟩
    rcases hdefault.1 hmem with hmem | hmem
    · exact absurd hmem List.not_mem_nil
    · rwa [hnames]

/-! ### What a module exports -/

theorem declaredBy_eq (d : Stmt) : declaredBy d = d.binders.map (·.name) := by
  rw [← exportedNames_eq]
  cases d <;> rfl

end Program

/-- The name of a default export whose value has a name. -/
def Stmt.defaultNames : Stmt → List String
  | .exportDefault _ v => if v.isAnonymous then [] else ["default"]
  | _ => []

namespace Program

variable {p : Program} {s : Stmt}

/-- A statement contributes a getter for each name that it exports. -/
theorem names_contribution (hp : p.IsPlaced) (hs : s ∈ p.stmts) :
    ((Link.ofProgram p).contribution p.scope s).getters.map (·.name) =
      exportedNames s ++ s.defaultNames := by
  cases s with
  | exportDecl span d =>
      rw [getters_exportDecl, List.map_map, Stmt.defaultNames, List.append_nil]
      · exact (declaredBy_eq d).symm
      · intro _ _ h
        cases h
  | exportList span specs source =>
      simp [Link.contribution, Link.listGetter, exportedNames, Stmt.defaultNames, Function.comp_def]
  | exportAll span exported source =>
      obtain ⟨k, -, hfound⟩ := exists_hasTemporary hp hs rfl rfl
      replace hfound : (Link.ofProgram p).source? span.start = some (temporary k) := hfound
      cases exported <;> simp [Link.contribution, hfound, exportedNames, Stmt.defaultNames]
  | exportDefault span v =>
      rcases hname : Link.defaultName? v with _ | name
      · simp [Link.contribution, hname, exportedNames, Stmt.defaultNames,
          defaultName?_eq_none_iff.1 hname]
      · have hnamed : v.isAnonymous = false :=
          Bool.eq_false_iff.2 fun h => by simp [defaultName?_eq_none_iff.2 h] at hname
        simp [Link.contribution, hname, exportedNames, Stmt.defaultNames, hnamed]
  | _ => rfl

theorem names_installed (hp : p.IsPlaced) : p.installed.map (·.name) =
    p.stmts.flatMap fun s => exportedNames s ++ s.defaultNames := by
  rw [installed_eq, getters, contributions, List.flatMap_map, List.map_flatMap]
  exact List.flatMap_congr fun s hs => names_contribution hp hs

theorem default_notMem_binders {d : Stmt} (h : ∀ id ∈ d.binders, id.IsBindable) :
    "default" ∉ d.binders.map (·.name) := by
  intro hmem
  obtain ⟨id, hid, hname⟩ := List.mem_map.1 hmem
  refine h id hid ?_
  rw [hname]
  decide

/-- Each way to export a default is counted. -/
theorem count_default_le (hbindable : ∀ span d, s = .exportDecl span d →
      ∀ id ∈ d.binders, id.IsBindable) :
    (exportedNames s ++ s.defaultNames).count "default" +
      (if s.isAnonymousDefault then 1 else 0) ≤ defaultExports s := by
  cases s with
  | exportDecl span d =>
      have hnone : "default" ∉ declaredBy d := by
        rw [declaredBy_eq]
        exact default_notMem_binders (hbindable span d rfl)
      simp [exportedNames, Stmt.defaultNames, Stmt.isAnonymousDefault, List.count_eq_zero.2 hnone]
  | exportList span specs source =>
      simp [exportedNames, Stmt.defaultNames, Stmt.isAnonymousDefault, defaultExports, List.count,
        List.countP_map, Function.comp_def]
  | exportAll span exported source =>
      cases exported <;>
        simp [exportedNames, Stmt.defaultNames, Stmt.isAnonymousDefault, defaultExports,
          List.count_singleton]
  | exportDefault span v =>
      cases hanonymous : v.isAnonymous <;>
        simp [exportedNames, Stmt.defaultNames, Stmt.isAnonymousDefault, defaultExports, hanonymous]
  | _ => exact Nat.le_refl 0

/-! ### No name twice -/

end Program

/-- Where no member stands in the list before, all are different. -/
theorem Grammar.nodup_of_repeated {seen names : List String} (h : repeated seen names = []) :
    names.Nodup ∧ ∀ n ∈ names, n ∉ seen := by
  induction names generalizing seen with
  | nil => exact ⟨List.nodup_nil, fun _ hn => absurd hn List.not_mem_nil⟩
  | cons n names ih =>
      rw [repeated] at h
      split at h
      · cases h
      · rename_i hseen
        obtain ⟨hnodup, hnew⟩ := ih h
        refine ⟨List.nodup_cons.2 ⟨fun hmem => hnew n hmem List.mem_cons_self, hnodup⟩, ?_⟩
        refine List.forall_mem_cons.2 ⟨fun hmem => hseen (List.contains_iff_mem.2 hmem), ?_⟩
        exact fun m hm hmem => hnew m hm (List.mem_cons_of_mem n hmem)

namespace Program

variable {p : Program} {stmts : List Stmt}

theorem nodup_exportedNames (h : duplicateExports stmts = []) :
    (stmts.flatMap exportedNames).Nodup :=
  (Grammar.nodup_of_repeated (List.map_eq_nil_iff.1 (List.append_eq_nil_iff.1 h).1)).1

/-- A default export is read by a getter, or assigned, and no more than one is counted. -/
theorem count_default_add_countP_le (hbindable : ∀ span d, .exportDecl span d ∈ stmts →
      ∀ id ∈ d.binders, id.IsBindable) :
    (stmts.flatMap fun s => exportedNames s ++ s.defaultNames).count "default" +
      stmts.countP (·.isAnonymousDefault) ≤ (stmts.map defaultExports).sum := by
  induction stmts with
  | nil => exact Nat.le_refl 0
  | cons s stmts ih =>
      have hfirst := count_default_le (s := s) fun span d hs =>
        hbindable span d (hs ▸ List.mem_cons_self)
      have hrest := ih fun span d hd => hbindable span d (List.mem_cons_of_mem s hd)
      rw [List.flatMap_cons, List.count_append, List.countP_cons, List.map_cons, List.sum_cons]
      omega

/-- Any other name is exported by declarations and lists only. -/
theorem count_eq_of_ne_default {name : String} (hne : name ≠ "default") :
    (stmts.flatMap fun s => exportedNames s ++ s.defaultNames).count name =
      (stmts.flatMap exportedNames).count name := by
  rw [List.count_flatMap, List.count_flatMap]
  refine congrArg List.sum (List.map_congr_left fun s _ => ?_)
  have hnone : name ∉ s.defaultNames := by
    cases s with
    | exportDefault span v =>
        rw [Stmt.defaultNames]
        split
        · exact List.not_mem_nil
        · exact fun hmem => hne (List.mem_singleton.1 hmem)
    | _ => exact List.not_mem_nil
  show List.count name (exportedNames s ++ s.defaultNames) = List.count name (exportedNames s)
  rw [List.count_append, List.count_eq_zero.2 hnone, Nat.add_zero]

theorem mark_mem_installed_iff (hp : p.IsPlaced) :
    HeadStatement.markName ∈ p.installed.map (·.name) ↔
      ∃ s ∈ p.stmts, HeadStatement.markName ∈ exportedNames s := by
  rw [names_installed hp, ← List.count_pos_iff, count_eq_of_ne_default (by decide),
    List.count_pos_iff, List.mem_flatMap]

/-- Where the names of the getters are different, only the mark can make a name stand twice. -/
theorem nodup_definedNames_iff (hnodup : (p.installed.map (·.name)).Nodup) :
    p.definedNames.Nodup ↔ HeadStatement.markName ∉ p.installed.map (·.name) := by
  rw [definedNames_eq]
  cases hmodule : p.isModule with
  | true =>
      rw [if_pos rfl, List.singleton_append, List.nodup_cons]
      exact and_iff_left hnodup
  | false =>
      have hnone : p.installed = [] := by
        rw [installed_eq]
        exact List.eq_nil_iff_forall_not_mem.2 fun g hg =>
          Bool.noConfusion (hmodule.symm.trans (isModule_of_mem_getters hg))
      simp [hnone]

/-- **A script defines no property of `exports` twice, and assigns none that it defines, unless the
module exports something under the name of the mark.**  Then, and only then, it cannot run. -/
theorem definedNames_nodup_iff {text : List Char} {parsed : Parsed}
    (h : parse false text = .ok parsed) :
    parsed.program.script text = String.join (parsed.program.headStatements.map (·.text)) ++
        String.ofList (parsed.program.scriptBody text) ∧
      (parsed.program.installed.map (·.name)).Nodup ∧
      (parsed.program.Assigns → "default" ∉ parsed.program.definedNames) ∧
      (parsed.program.definedNames.Nodup ↔
        ∀ s ∈ parsed.program.stmts, HeadStatement.markName ∉ exportedNames s) ∧
      ∀ keys, parsed.program.Runs keys ↔
        ∀ s ∈ parsed.program.stmts, HeadStatement.markName ∉ exportedNames s := by
  have hp := isPlaced_of_parse h
  obtain ⟨directives, stmts, c, -, -, hunique, hprogram⟩ := exists_statements h
  have hstmts : parsed.program.stmts = stmts := by rw [hprogram]
  -- a getter or an assignment defines the default export, and not both
  have hcount := (count_default_add_countP_le fun span d hd => bindable_of_parse h hd).trans
    (hstmts ▸ sum_defaultExports_le hunique)
  rw [← names_installed hp] at hcount
  have hnodup : (parsed.program.installed.map (·.name)).Nodup := by
    refine List.nodup_iff_count_le_one.2 fun name => ?_
    by_cases hname : name = "default"
    · rw [hname]
      omega
    · rw [names_installed hp, count_eq_of_ne_default hname, hstmts]
      exact List.nodup_iff_count_le_one.1 (nodup_exportedNames hunique) name
  have hassign : parsed.program.Assigns → "default" ∉ parsed.program.definedNames := by
    rintro ⟨e, he, htext⟩ hmem
    obtain ⟨span, v, hdecl, hanonymous, -⟩ := exists_exportDefault_of_text_eq he htext
    have hpos : 0 < parsed.program.stmts.countP (·.isAnonymousDefault) :=
      List.countP_pos_iff.2 ⟨_, (List.mem_filter.1 hdecl).1, hanonymous⟩
    -- then both would define it
    have hdefault : "default" ∈ parsed.program.installed.map (·.name) := by
      rw [definedNames_eq] at hmem
      rcases List.mem_append.1 hmem with hmem | hmem
      · split at hmem
        · exact absurd (List.mem_singleton.1 hmem) (by decide)
        · exact absurd hmem List.not_mem_nil
      · exact hmem
    have := List.count_pos_iff.2 hdefault
    omega
  have hiff : parsed.program.definedNames.Nodup ↔
      ∀ s ∈ parsed.program.stmts, HeadStatement.markName ∉ exportedNames s := by
    rw [nodup_definedNames_iff hnodup, mark_mem_installed_iff hp]
    simp only [not_exists, not_and]
  refine ⟨by rw [join_headStatements]; rfl, hnodup, hassign, hiff, fun keys => ?_⟩
  rw [runs_iff, hiff]
  exact and_iff_left hassign

/-- A default export is assigned, and the script runs. -/
theorem definedNames_nodup_of_assignment : ∃ parsed,
    parse false "export const a = 1; export \x7b a as b \x7d; export default a + 1".toList =
        .ok parsed ∧
      parsed.program.definedNames = ["__esModule", "a", "b"] ∧
      parsed.program.definedNames.Nodup ∧ parsed.program.Assigns ∧
      ∀ keys, parsed.program.Runs keys := by
  obtain ⟨parsed, hparse, hfacts⟩ := exists_parsed (a := (["__esModule", "a", "b"], true, true))
    (fun parsed => (parsed.program.definedNames, parsed.program.edits.any (·.text == assignment),
      parsed.program.stmts.all fun s => !(exportedNames s).contains HeadStatement.markName)) false
    "export const a = 1; export \x7b a as b \x7d; export default a + 1".toList (by decide +kernel)
  simp only [Prod.mk.injEq] at hfacts
  obtain ⟨hnames, hassigns, hmark⟩ := hfacts
  obtain ⟨-, -, -, hnodup, hruns⟩ := definedNames_nodup_iff hparse
  have hunmarked : ∀ s ∈ parsed.program.stmts, HeadStatement.markName ∉ exportedNames s := by
    intro s hs hmem
    simpa [hmem] using List.all_eq_true.1 hmark s hs
  obtain ⟨e, he, htext⟩ := List.any_eq_true.1 hassigns
  exact ⟨parsed, hparse, hnames, hnodup.2 hunmarked, ⟨e, he, eq_of_beq htext⟩,
    fun keys => (hruns keys).2 hunmarked⟩

/-- A module may export something under the name of the mark.  Its script defines that name twice,
and does not run. -/
theorem not_runs_of_exported_mark : ∃ parsed,
    parse false "const a = 1; export \x7b a as __esModule \x7d;".toList = .ok parsed ∧
      parsed.program.definedNames = ["__esModule", "__esModule"] ∧
      ¬ parsed.program.definedNames.Nodup ∧ ∀ keys, ¬ parsed.program.Runs keys := by
  obtain ⟨parsed, hparse, hnames⟩ := exists_parsed (a := ["__esModule", "__esModule"])
    (·.program.definedNames) false "const a = 1; export \x7b a as __esModule \x7d;".toList
    (by decide +kernel)
  have hdouble : ¬ parsed.program.definedNames.Nodup := by
    rw [hnames]
    decide
  exact ⟨parsed, hparse, hnames, hdouble, fun keys hruns => hdouble ((runs_iff keys).1 hruns).1⟩

end Program

end ModuleBundler
