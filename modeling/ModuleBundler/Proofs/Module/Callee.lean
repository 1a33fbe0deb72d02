/-
ModuleBundler/Proofs/Module/Callee.lean

Calls of what is imported.  A function that is called as a property is given the object as its
`this`, in parentheses or not; so where an import is called, or is the tag of a template, its read
must not stand as it is.  What is written for a callee is told to unbind the object
(`Edit.Unbinds`) if it is no property of it, whatever parentheses are taken off.

A callee that is a bare name is a reference of its call and is written `(0, read)`.  A name in
parentheses is a reference of its own, which nothing tells from any other
(`Node.refer_mem_of_callee`), and becomes the bare read.  So the object is unbound if and only if
the callee is not in parentheses (`Program.callee_becomes`).
-/
import ModuleBundler.Proofs.Module.Body
import ModuleBundler.Proofs.Module.Required

namespace ModuleBundler

/-! ### Calls -/

namespace Node

variable {s t u : Scope} {n m k : Node}

/-- What a node calls: the callee of a call, or the tag of a template. -/
def callee? : Node → Option Expr
  | expr (.call _ callee _ _ _) => some callee
  | expr (.tagged _ tag _) => some tag
  | _ => none

/-- What is walked through in a part is walked through in the whole. -/
theorem mem_walk_trans (hm : (t, m) ∈ n.walk s) (hk : (u, k) ∈ m.walk t) : (u, k) ∈ n.walk s := by
  induction n using partInduction generalizing s with
  | h n ih =>
      rw [walk_eq] at hm
      rcases List.mem_cons.1 hm with heq | hm
      · cases heq
        exact hk
      · obtain ⟨x, hx, hm⟩ := List.mem_flatMap.1 hm
        rw [walk_eq]
        exact List.mem_cons_of_mem _ (List.mem_flatMap.2 ⟨x, hx, ih x hx hm⟩)

/-- An expression that is a part of another stands in the same scope. -/
theorem mem_walk_exprParts {e : Expr} (h : m ∈ exprParts e) : (s, m) ∈ (expr e).walk s := by
  rw [walk_eq]
  refine List.mem_cons_of_mem _ (List.mem_flatMap.2 ⟨([], m), mem_under.2 ⟨rfl, h⟩, ?_⟩)
  rw [walk_eq]
  exact List.mem_cons_self

/-- The walk goes through parentheses. -/
theorem mem_walk_strip (e : Expr) (h : (t, expr e) ∈ n.walk s) : (t, expr e.strip) ∈ n.walk s := by
  fun_induction Expr.strip e with
  | case1 span e ih =>
      exact ih (mem_walk_trans h (mem_walk_exprParts (List.mem_singleton_self _)))
  | case2 => exact h

theorem mem_references {r : Reference} (hn : (t, n) ∈ m.walk s) (hr : r ∈ n.own t) :
    r ∈ m.references s := List.mem_flatMap.2 ⟨(t, n), hn, hr⟩

/-- A bare name that is called is a reference of the call. -/
theorem own_of_callee_name {id : Ident} (h : n.callee? = some (.name id)) :
    refer t .callee false id ∈ n.own t := by
  unfold callee? at h
  split at h
  · cases h
    exact List.mem_singleton_self _
  · cases h
    exact List.mem_singleton_self _
  · cases h

/-- A callee in parentheses is a part of the call. -/
theorem mem_walk_callee {span : Span} {e : Expr} (h : n.callee? = some (.paren span e)) :
    (t, expr (.paren span e)) ∈ n.walk t := by
  unfold callee? at h
  split at h
  · cases h
    exact mem_walk_exprParts (List.mem_append_left _ (List.mem_singleton_self _))
  · cases h
    exact mem_walk_exprParts (List.mem_append_left _ (List.mem_singleton_self _))
  · cases h

/-- What a name in a callee is a reference of: of the call, or, in parentheses, of itself. -/
def calleeRole : Expr → Role
  | .name _ => .callee
  | _ => .plain

/-- The name that is called, in any number of parentheses, is a reference. -/
theorem refer_mem_of_callee {callee : Expr} {id : Ident} (hn : (t, n) ∈ m.walk s)
    (hcallee : n.callee? = some callee) (hid : callee.strip = .name id) :
    refer t (calleeRole callee) false id ∈ m.references s := by
  cases callee with
  | name other =>
      obtain rfl : other = id := Expr.name.inj hid
      exact mem_references hn (own_of_callee_name hcallee)
  | paren span e =>
      have hname := mem_walk_strip _ (mem_walk_trans hn (mem_walk_callee hcallee))
      rw [hid] at hname
      exact mem_references hname (List.mem_singleton_self _)
  | _ => cases hid

/-- A statement that is taken out calls nothing. -/
theorem isRemoved_eq_false_of_callee {st : Stmt} {callee : Expr}
    (hn : (t, n) ∈ (Node.stmt st).walk s) (h : n.callee? = some callee) : st.isRemoved = false := by
  refine Bool.eq_false_iff.2 fun hremoved => ?_
  -- nothing is called in a statement without parts
  have hleaf : ∀ st : Stmt, stmtParts st = [] → (t, n) ∈ (Node.stmt st).walk s → False := by
    intro st hst hn
    rw [walk_eq, framed, hst] at hn
    cases List.mem_singleton.1 hn
    cases h
  cases st with
  | importDecl | exportList | exportAll => exact hleaf _ rfl hn
  | exportDecl span d =>
      cases d with
      | typeDecl span' =>
          rw [walk_eq] at hn
          rcases List.mem_cons.1 hn with heq | hn
          · cases heq
            cases h
          · obtain ⟨x, hx, hn⟩ := List.mem_flatMap.1 hn
            obtain rfl := List.mem_singleton.1 hx
            exact hleaf _ rfl hn
      | _ => cases hremoved
  | _ => cases hremoved

end Node

theorem Expr.eq_name_or_of_strip {e : Expr} {id : Ident} (h : e.strip = .name id) :
    e = .name id ∨ ∃ span inner, e = .paren span inner := by
  cases e with
  | name other => exact .inl h
  | paren span inner => exact .inr ⟨span, inner, rfl⟩
  | _ => cases h

/-! ### Texts that are called -/

namespace Edit

/-- What is left of a text if parentheses around it are taken off. -/
inductive Strips : List Char → List Char → Prop
  | refl (text : List Char) : Strips text text
  | paren {inner text : List Char} : Strips inner text → Strips ('(' :: (inner ++ [')'])) text

/-- The text reads a property of the object. -/
def ReadsProperty (object text : List Char) : Prop :=
  ∃ rest, text = object ++ '.' :: rest ∨ text = object ++ '[' :: rest

/-- What is called by the text is no property of the object, whatever parentheses are taken off. -/
def Unbinds (object text : List Char) : Prop :=
  ∀ inner, Strips text inner → ¬ ReadsProperty object inner

/-- A span becomes one text only. -/
theorem Becomes.eq {es : List Edit} {text piece other : List Char} {span : Span}
    (h : Becomes es text span piece) (h' : Becomes es text span other) : piece = other :=
  List.append_cancel_left (List.append_cancel_right (h.symm.trans h'))

theorem not_readsProperty {k : Nat} {c : Char} {text : List Char} (hc : c ≠ '_') :
    ¬ ReadsProperty (temporary k).toList (c :: text) := by
  have hhead : ∃ more, (temporary k).toList = '_' :: more :=
    ⟨"_parcela_dep_".toList ++ (toString k).toList, by
      show ("__parcela_dep_" ++ toString k).toList = _
      rw [String.toList_append]
      rfl⟩
  obtain ⟨more, hmore⟩ := hhead
  rintro ⟨rest, h | h⟩
  · rw [hmore] at h
    exact hc (List.cons.inj h).1
  · rw [hmore] at h
    exact hc (List.cons.inj h).1

theorem Strips.eq_of_ne {c : Char} {text inner : List Char} (h : Strips (c :: text) inner)
    (hc : c ≠ '(') : inner = c :: text := by
  generalize hfull : c :: text = full at h
  cases h with
  | refl => rfl
  | paren h => exact absurd (List.cons.inj hfull).1 hc

theorem Strips.eq_or {body inner : List Char} (h : Strips ('(' :: (body ++ [')'])) inner) :
    inner = '(' :: (body ++ [')']) ∨ Strips body inner := by
  generalize hfull : '(' :: (body ++ [')']) = full at h
  cases h with
  | refl => exact .inl rfl
  | paren h => exact .inr (List.append_cancel_right (List.cons.inj hfull).2 ▸ h)

/-- The value of a sequence is no property of anything. -/
theorem unbinds_sequence (k : Nat) (read : String) :
    Unbinds (temporary k).toList ("(0, " ++ read ++ ")").toList := by
  have htext : ("(0, " ++ read ++ ")").toList =
      '(' :: ('0' :: ',' :: ' ' :: read.toList ++ [')']) := by
    simp
  intro inner hinner
  rw [htext] at hinner
  rcases hinner.eq_or with rfl | hinner
  · exact not_readsProperty (by decide)
  · rw [hinner.eq_of_ne (by decide)]
    exact not_readsProperty (by decide)

theorem readsProperty_memberText (object name : String) :
    ReadsProperty object.toList (memberText object name).toList := by
  unfold memberText
  split
  · exact ⟨name.toList, .inl (by simp)⟩
  · exact ⟨name.quoted.toList ++ [']'], .inr (by simp)⟩

end Edit

/-! ### Calls of imports -/

/-- In a module something is called that is imported: the callee is, in any number of parentheses,
a name that resolves to one export of a dependency. -/
structure Program.CallsImport (p : Program) (callee : Expr) (id : Ident) (k : Nat)
    (source : String) (spec : ImportSpec) : Prop where
  called : ∃ scope n, (scope, n) ∈ p.walk ∧ n.callee? = some callee ∧
    p.Resolves (Node.refer scope .plain false id) k source spec
  strip : callee.strip = .name id
  single : ∀ place, spec ≠ .all place

namespace Program

variable {text : List Char} {parsed : Parsed} {p : Program} {callee : Expr} {id : Ident} {k : Nat}
  {source : String} {spec : ImportSpec}

/-- The text that is written for a callee: a sequence, or in parentheses the bare read. -/
def calleeText (callee : Expr) (read : String) : String :=
  match callee with
  | .name _ => "(0, " ++ read ++ ")"
  | _ => read

/-- The name that is called becomes the text of its callee. -/
theorem CallsImport.becomes (h : parse false text = .ok parsed)
    (hcall : parsed.program.CallsImport callee id k source spec) :
    Edit.Becomes parsed.program.edits text id.span
      (calleeText callee (Link.readOf (temporary k) spec)).toList := by
  obtain ⟨scope, n, hwalk, hcallee, hresolves⟩ := hcall.called
  obtain ⟨s, hs, hn⟩ := List.mem_flatMap.1 hwalk
  have hkept := Node.isRemoved_eq_false_of_callee hn hcallee
  have hmem := Node.refer_mem_of_callee hn hcallee hcall.strip
  have hread : (Link.ofProgram parsed.program).readOf?
      (Node.refer scope (Node.calleeRole callee) false id) = some (Link.readOf (temporary k) spec) :=
    readOf?_eq_some.2 ⟨k, source, spec, ⟨hresolves.home, hresolves.imports⟩, rfl⟩
  have hedit : (Link.ofProgram parsed.program).edit?
      (Node.refer scope (Node.calleeRole callee) false id) =
        some (.ofString id.span (calleeText callee (Link.readOf (temporary k) spec))) := by
    rw [Link.edit?, hread]
    cases callee <;> rfl
  refine (fit_edits (isPlaced_of_parse h)).becomes_of_mem
    (e := .ofString id.span (calleeText callee (Link.readOf (temporary k) spec))) ?_
  refine mem_edits.2 (.inr ⟨s, hs, ?_⟩)
  rw [Stmt.edits_contribution, hkept]
  rw [← s.references_inner] at hmem
  exact List.mem_append_right _ (List.mem_filterMap.2 ⟨_, hmem, hedit⟩)

/-- One export of a dependency is read as a property of the temporary. -/
theorem CallsImport.readsProperty (hcall : p.CallsImport callee id k source spec) :
    Edit.ReadsProperty (temporary k).toList (Link.readOf (temporary k) spec).toList := by
  cases spec with
  | named imported place => exact Edit.readsProperty_memberText _ imported.text
  | standard place => exact Edit.readsProperty_memberText _ "default"
  | all place => exact absurd rfl (hcall.single place)

/-- Only the text of a callee without parentheses unbinds the temporary. -/
theorem CallsImport.unbinds_iff (hcall : p.CallsImport callee id k source spec) :
    Edit.Unbinds (temporary k).toList (calleeText callee (Link.readOf (temporary k) spec)).toList ↔
      callee = .name id := by
  rcases Expr.eq_name_or_of_strip hcall.strip with rfl | ⟨span, e, rfl⟩
  · exact iff_of_true (Edit.unbinds_sequence k _) rfl
  · exact iff_of_false (fun hunbinds => hunbinds _ (.refl _) hcall.readsProperty) nofun

/-- **A function that is imported is called without its exports as `this` exactly if the callee is
not in parentheses.**  The name in the callee becomes one text, and that is no property of the
temporary, whatever parentheses are taken off it, if and only if the callee is the bare name. -/
theorem callee_becomes (h : parse false text = .ok parsed)
    (hcall : parsed.program.CallsImport callee id k source spec) :
    ∃ written, (∀ other, Edit.Becomes parsed.program.edits text id.span other ↔ other = written) ∧
      (Edit.Unbinds (temporary k).toList written ↔ callee = .name id) := by
  refine ⟨_, fun other => ⟨fun hother => hother.eq (hcall.becomes h), ?_⟩, hcall.unbinds_iff⟩
  rintro rfl
  exact hcall.becomes h

/-! ### Modules with calls -/

/-- The calls of imports in a module: what is called, and how the import is read. -/
def importCalls (p : Program) : List (Expr × String) :=
  p.walk.filterMap fun (scope, n) => do
    let callee ← n.callee?
    let id ← callee.strip.name?
    let read ← (Link.ofProgram p).readOf? (Node.refer scope .plain false id)
    return (callee, read)

theorem name?_eq_some {e : Expr} : e.name? = some id ↔ e = .name id := by
  cases e <;> simp [Expr.name?]

theorem exists_callsImport {read : String} (h : (callee, read) ∈ p.importCalls)
    (hread : '.' ∈ read.toList) : ∃ id k source spec,
      p.CallsImport callee id k source spec ∧ read = Link.readOf (temporary k) spec := by
  obtain ⟨⟨scope, n⟩, hwalk, hcall⟩ := List.mem_filterMap.1 h
  obtain ⟨callee', hcallee, hcall⟩ := Option.bind_eq_some_iff.1 hcall
  obtain ⟨id, hid, hcall⟩ := Option.bind_eq_some_iff.1 hcall
  obtain ⟨read', hresolved, hcall⟩ := Option.bind_eq_some_iff.1 hcall
  cases hcall
  obtain ⟨k, source, spec, hresolves, rfl⟩ := readOf?_eq_some.1 hresolved
  refine ⟨id, k, source, spec, ?_, rfl⟩
  refine ⟨⟨scope, n, hwalk, hcallee, hresolves⟩, name?_eq_some.1 hid, ?_⟩
  -- the exports as a whole are read by the temporary alone
  rintro place rfl
  exact notMem_temporary (by decide) (by decide) k hread

/-- In a module with one call of an import, the call is found. -/
theorem exists_call_of_importCalls (text : List Char) (bare : Bool) (read : String)
    (h : (parse false text).toOption.map (fun parsed =>
      parsed.program.importCalls.map fun c => (c.1.name?.isSome, c.2)) = some [(bare, read)])
    (hread : '.' ∈ read.toList) : ∃ parsed callee id k source spec,
      parse false text = .ok parsed ∧ parsed.program.CallsImport callee id k source spec ∧
        callee.name?.isSome = bare ∧ Link.readOf (temporary k) spec = read := by
  obtain ⟨parsed, hparse, hcalls⟩ := exists_parsed _ false text h
  obtain ⟨⟨callee, read'⟩, hmem, hcall⟩ := List.mem_map.1 (hcalls ▸ List.mem_singleton_self _)
  obtain ⟨hbare, rfl⟩ := Prod.mk.inj hcall
  obtain ⟨id, k, source, spec, himport, heq⟩ := exists_callsImport hmem hread
  exact ⟨parsed, callee, id, k, source, spec, hparse, himport, hbare, heq.symm⟩

/-- In `f(1)` the imported function is called without the exports of its module. -/
theorem callee_becomes_of_bare : ∃ parsed callee id k source spec,
    parse false "import \x7b f \x7d from './f.js';\nf(1)".toList = .ok parsed ∧
      parsed.program.CallsImport callee id k source spec ∧
      ∃ written, (∀ other, Edit.Becomes parsed.program.edits
          "import \x7b f \x7d from './f.js';\nf(1)".toList id.span other ↔ other = written) ∧
        Edit.Unbinds (temporary k).toList written := by
  obtain ⟨parsed, callee, id, k, source, spec, hparse, hcall, hbare, -⟩ :=
    exists_call_of_importCalls "import \x7b f \x7d from './f.js';\nf(1)".toList true
      "__parcela_dep_0.f" (by decide +kernel) (by decide)
  obtain ⟨written, hbecomes, hunbinds⟩ := callee_becomes hparse hcall
  refine ⟨parsed, callee, id, k, source, spec, hparse, hcall, written, hbecomes, hunbinds.2 ?_⟩
  rcases Expr.eq_name_or_of_strip hcall.strip with hname | ⟨span, e, rfl⟩
  · exact hname
  · cases hbare

/-- In `(f)()` the imported function is called as a property of the exports of its module. -/
theorem callee_stays_bound_of_parentheses : ∃ parsed callee id k source spec,
    parse false "import \x7b f \x7d from './f.js';\n(f)();".toList = .ok parsed ∧
      parsed.program.CallsImport callee id k source spec ∧
      Edit.Becomes parsed.program.edits
        "import \x7b f \x7d from './f.js';\n(f)();".toList id.span "__parcela_dep_0.f".toList ∧
      Edit.ReadsProperty (temporary k).toList "__parcela_dep_0.f".toList := by
  obtain ⟨parsed, callee, id, k, source, spec, hparse, hcall, hbare, hread⟩ :=
    exists_call_of_importCalls "import \x7b f \x7d from './f.js';\n(f)();".toList false
      "__parcela_dep_0.f" (by decide +kernel) (by decide)
  have hbecomes := hcall.becomes hparse
  have hreads := hcall.readsProperty
  rw [hread] at hbecomes hreads
  refine ⟨parsed, callee, id, k, source, spec, hparse, hcall, ?_, hreads⟩
  rcases Expr.eq_name_or_of_strip hcall.strip with rfl | ⟨span, e, rfl⟩
  · cases hbare
  · exact hbecomes

end Program

end ModuleBundler
