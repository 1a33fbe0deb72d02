/-
ModuleBundler/Proofs/Module/Insertion.lean

What is written into a script that the author of its module has not written.  A script has
names that the module does not have: `require` and `exports`, which are parameters of
the function that the script is the body of, the global `Object`, and a temporary for each
dependency (`Helper`).  The text that is inserted is made of pieces, in which these names
are told from what stands between them (`Piece`), and each such text stands somewhere in
the frames of the module (`Program.Writes`).

Nothing else is inserted: the head of a script is made of pieces (`scriptHead_eq`), and so is
the text of every edit (`exists_writes_of_mem_edits`); the value of a getter is so too,
unless it is a name that the author exports (`value_of_mem_getters`).

Dependencies are numbered in the order of their declarations, and no other temporaries
are read (`Link.Numbered`).
-/
import ModuleBundler.Proofs.Module.Body

namespace ModuleBundler

/-! ### Names and the frames around them -/

namespace Node

/-- The nodes of a walk stand in the frames that open on the way, whatever the scope around. -/
theorem walk_append (s t : Scope) (n : Node) :
    n.walk (s ++ t) = (n.walk s).map fun x => (x.1 ++ t, x.2) := by
  induction n using partInduction generalizing s with
  | h n ih =>
      rw [walk_eq, walk_eq, List.map_cons, List.map_flatMap]
      refine congrArg _ (List.flatMap_congr fun x hx => ?_)
      rw [← List.append_assoc, ih x hx]

/-- The scope that the names of a node itself are used in. -/
def ownScope (s : Scope) : Node → Scope
  | classNode bindsSelf c => classFrame bindsSelf c :: s
  | _ => s

/-- The references in a part of a program, each with the frames that open around it. -/
def occurrences (n : Node) : List (List Frame × Reference) :=
  (n.walk []).flatMap fun (frames, m) => (m.own frames).map fun r => (m.ownScope frames, r)

end Node

/-- The reference as it stands in a scope. -/
def Reference.within (s : Scope) (r : Reference) : Reference :=
  { r with home := s.home? r.id.name }

namespace Node

theorem own_append (frames : List Frame) (s : Scope) (n : Node) :
    n.own (frames ++ s) = (n.own frames).map (·.within (n.ownScope frames ++ s)) := by
  unfold own
  split
  -- classes are the only nodes that open a frame around their own names
  case h_8 bindsSelf c =>
      rw [List.map_filterMap]
      refine List.filterMap_congr fun piece _ => ?_
      cases piece <;> rfl
  case h_9 specs =>
      rw [List.map_map]
      rfl
  all_goals rfl

/-- Around a part of a program the references of the part are resolved as in their frames and then
in what is around. -/
theorem references_eq_map (s : Scope) (n : Node) :
    n.references s = n.occurrences.map fun (frames, r) => r.within (frames ++ s) := by
  have hwalk := walk_append [] s n
  rw [List.nil_append] at hwalk
  rw [references, hwalk, List.flatMap_map, occurrences, List.map_flatMap]
  refine List.flatMap_congr fun x _ => ?_
  rw [List.map_map]
  exact own_append x.1 s x.2

end Node

/-! ### Helpers -/

/-- A name that a script has and its module does not. -/
inductive Helper where
  | require | exports | object
  | temporary (k : Nat)
deriving DecidableEq, Repr

def Helper.name : Helper → String
  | require => "require"
  | exports => "exports"
  | object => "Object"
  | temporary k => ModuleBundler.temporary k

/-- A piece of the text that is inserted: a helper, inside the frames that the inserted text opens
itself, or what stands between helpers. -/
inductive Piece where
  | text (s : String)
  | helper (frames : List Frame) (h : Helper)

namespace Piece

def spelling : Piece → String
  | text s => s
  | helper _ h => h.name

def joined : List Piece → String
  | [] => ""
  | p :: ps => p.spelling ++ joined ps

/-- The mark that the exports are those of a module. -/
def mark : List Piece :=
  [helper [] .object, text ".defineProperty(", helper [] .exports,
    text ", \"__esModule\", \x7b value: true \x7d);\n"]

theorem joined_mark : joined mark = Program.markLine := by
  decide

section

variable {inside frames : List Frame} {h k : Helper} {ps : List Piece}

@[simp] theorem helper_mem_nil : helper inside h ∉ [] := List.not_mem_nil

@[simp] theorem helper_mem_text (s : String) :
    helper inside h ∈ text s :: ps ↔ helper inside h ∈ ps := by
  rw [List.mem_cons, or_iff_right (by rintro ⟨⟩)]

@[simp] theorem helper_mem_helper : helper inside h ∈ helper frames k :: ps ↔
    (inside = frames ∧ h = k) ∨ helper inside h ∈ ps := by
  rw [List.mem_cons, helper.injEq]

end

end Piece

/-- What stands around the value of a getter; what the value is made of is another matter. -/
def Getter.pieces (g : Getter) : List Piece :=
  [.helper [] .object, .text ".defineProperty(", .helper [] .exports,
    .text (", " ++ g.name.quoted ++ ", \x7b enumerable: true, get: function () \x7b return "),
    .text g.value, .text "; \x7d \x7d);"]

/-- The frame of the function that goes through the exports of a dependency. -/
def keyFrame : Frame := ⟨.params, 0, ["key"]⟩

/-- The frame of a function without parameters. -/
def noFrame : Frame := ⟨.params, 0, []⟩

def Requirement.pieces : Requirement → List Piece
  | bare specifier => [.helper [] .require, .text ("(" ++ specifier.quoted ++ ");")]
  | bound k specifier =>
      [.text "var ", .helper [] (.temporary k), .text " = ", .helper [] .require,
        .text ("(" ++ specifier.quoted ++ ");")]
  | forward k =>
      [.helper [] .object, .text ".keys(", .helper [] (.temporary k),
        .text ").forEach(function (key) \x7b\n",
        .text "  if (key === \"default\" || key === \"__esModule\" || ",
        .helper [keyFrame] .object, .text ".prototype.hasOwnProperty.call(",
        .helper [keyFrame] .exports, .text ", key)) return;\n",
        .text "  ", .helper [keyFrame] .object, .text ".defineProperty(",
        .helper [keyFrame] .exports,
        .text ", key, \x7b enumerable: true, get: function () \x7b return ",
        .helper [noFrame, keyFrame] (.temporary k), .text "[key]; \x7d \x7d);\n", .text "\x7d);"]

theorem Getter.joined_pieces (g : Getter) : Piece.joined g.pieces = g.text := by
  have hfront : "Object.defineProperty(exports, " =
      "Object" ++ (".defineProperty(" ++ ("exports" ++ ", ")) := by decide
  unfold text
  rw [hfront]
  simp only [pieces, Piece.joined, Piece.spelling, Helper.name, String.append_assoc,
    String.append_empty]

theorem Requirement.joined_pieces (r : Requirement) : Piece.joined r.pieces = r.text := by
  cases r with
  | bare specifier =>
      have hfront : "require(" = "require" ++ "(" := by decide
      unfold text
      rw [hfront]
      simp only [pieces, Piece.joined, Piece.spelling, Helper.name, String.append_assoc,
        String.append_empty]
  | bound k specifier =>
      have hfront : " = require(" = " = " ++ ("require" ++ "(") := by decide
      unfold text
      rw [hfront]
      simp only [pieces, Piece.joined, Piece.spelling, Helper.name, String.append_assoc,
        String.append_empty]
  | forward k =>
      have hkeys : "Object.keys(" = "Object" ++ ".keys(" := by decide
      have hown : "Object.prototype.hasOwnProperty.call(exports, key)) return;\n" =
          "Object" ++ (".prototype.hasOwnProperty.call(" ++
            ("exports" ++ ", key)) return;\n")) := by
        decide
      have hdefine :
          "  Object.defineProperty(exports, key, \x7b enumerable: true, get: function () \x7b return " =
          "  " ++ ("Object" ++ (".defineProperty(" ++ ("exports" ++
            ", key, \x7b enumerable: true, get: function () \x7b return "))) := by
        decide
      unfold text
      rw [hkeys, hown, hdefine]
      simp only [pieces, Piece.joined, Piece.spelling, Helper.name, String.append_assoc,
        String.append_empty]

/-- What follows an object where a property is read does not depend on the object. -/
theorem memberText_eq (object name : String) :
    memberText object name = object ++ memberText "" name := by
  unfold memberText
  split <;> simp [String.append_assoc]

theorem Link.readOf_eq (object : String) (spec : ImportSpec) :
    Link.readOf object spec = object ++ Link.readOf "" spec := by
  cases spec with
  | named imported place => exact memberText_eq object imported.text
  | standard place => exact memberText_eq object "default"
  | all place => exact (String.append_empty).symm

/-- What is written for a reference to what the import tells, through the temporary. -/
def Reference.pieces (r : Reference) (k : Nat) (spec : ImportSpec) : List Piece :=
  let read := [.helper [] (.temporary k), .text (Link.readOf "" spec)]
  match r.role with
  | .plain => read
  | .shorthand => .text (r.id.name ++ ": ") :: read
  | .callee => .text "(0, " :: read ++ [.text ")"]

theorem Reference.joined_pieces (r : Reference) (k : Nat) (spec : ImportSpec) :
    Piece.joined (r.pieces k spec) = r.written (Link.readOf (temporary k) spec) := by
  unfold pieces written
  rw [Link.readOf_eq (temporary k)]
  cases r.role <;>
    simp only [Piece.joined, Piece.spelling, Helper.name, List.cons_append, List.nil_append,
      String.append_assoc, String.append_empty]

/-! ### Numbers of temporaries -/

namespace Link

/-- The temporaries are those that dependencies are kept in, and no others are read. -/
structure Numbered (l : Link) : Prop where
  bound_iff : ∀ k, (∃ s, .bound k s ∈ l.requirements) ↔ k < l.count
  forward_lt : ∀ k, .forward k ∈ l.requirements → k < l.count
  source_lt : ∀ entry ∈ l.sources, entry.2 < l.count

variable {l : Link}

theorem Numbered.empty : Numbered .empty where
  bound_iff := by simp [Link.empty]
  forward_lt := by simp [Link.empty]
  source_lt := by simp [Link.empty]

theorem Numbered.bind (h : l.Numbered) (specifier : String) : (l.bind specifier).Numbered where
  bound_iff := by
    intro k
    have hnew : (∃ s, Requirement.bound k s = .bound l.count specifier) ↔ k = l.count := by simp
    simp only [Link.bind, List.mem_append, List.mem_singleton, exists_or, h.bound_iff, hnew]
    omega
  forward_lt := by
    intro k hk
    have := h.forward_lt k (by simpa [Link.bind] using hk)
    show k < l.count + 1
    omega
  source_lt := fun entry hentry => Nat.lt_succ_of_lt (h.source_lt entry hentry)

/-- Requirements of no temporary change no numbers. -/
theorem Numbered.bare (h : l.Numbered) (specifier : String) :
    Numbered { l with requirements := l.requirements ++ [.bare specifier] } where
  bound_iff := by simpa using h.bound_iff
  forward_lt := by simpa using h.forward_lt
  source_lt := h.source_lt

theorem Numbered.source (h : l.Numbered) (place : Nat) {k : Nat} (hk : k < l.count) :
    Numbered { l with sources := l.sources ++ [(place, k)] } where
  bound_iff := h.bound_iff
  forward_lt := h.forward_lt
  source_lt := by
    intro entry hentry
    rcases List.mem_append.1 hentry with hentry | hentry
    · exact h.source_lt entry hentry
    · obtain rfl := List.mem_singleton.1 hentry
      exact hk

theorem Numbered.forward (h : l.Numbered) {k : Nat} (hk : k < l.count) :
    Numbered { l with requirements := l.requirements ++ [.forward k] } where
  bound_iff := by simpa using h.bound_iff
  forward_lt := by
    intro j hj
    simp only [List.mem_append, List.mem_singleton, Requirement.forward.injEq] at hj
    rcases hj with hj | rfl
    · exact h.forward_lt j hj
    · exact hk
  source_lt := h.source_lt

theorem Numbered.require (h : l.Numbered) (s : Stmt) : (l.require s).Numbered := by
  have hlast : ∀ specifier, l.count < (l.bind specifier).count := fun _ => Nat.lt_succ_self _
  cases s with
  | importDecl span specs source =>
      rcases specs with _ | _ | ⟨spec, specs⟩
      · exact h.bare source.text
      · exact h.bare source.text
      · exact ⟨(h.bind source.text).bound_iff, (h.bind source.text).forward_lt,
          (h.bind source.text).source_lt⟩
  | exportList span specs source =>
      cases source with
      | none => exact h
      | some source => exact (h.bind source.text).source span.start (hlast source.text)
  | exportAll span exported source =>
      have hbound := h.bind source.text
      cases exported with
      | none => exact (hbound.forward (hlast source.text)).source span.start (hlast source.text)
      | some exported => exact hbound.source span.start (hlast source.text)
  | _ => exact h

theorem Numbered.add (h : l.Numbered) (s : Stmt) : (l.add s).Numbered := by
  -- that a name is not read any more concerns no number
  have hkept : Numbered { l with reads := l.reads.filter fun e => !s.movedNames.contains e.1 } :=
    ⟨h.bound_iff, h.forward_lt, h.source_lt⟩
  exact hkept.require s

theorem numbered_ofProgram (p : Program) : (ofProgram p).Numbered := by
  have hfold : ∀ (stmts : List Stmt) (l : Link), l.Numbered → (stmts.foldl add l).Numbered := by
    intro stmts
    induction stmts with
    | nil => exact fun l h => h
    | cons s stmts ih => exact fun l h => ih _ (h.add s)
  exact hfold p.stmts .empty .empty

theorem exists_mem_sources {stmts : List Stmt} {s : Stmt} (hs : s ∈ stmts)
    (h : s.isForwarding = true) (l : Link) :
    ∃ k, (s.span.start, k) ∈ (stmts.foldl add l).sources := by
  induction stmts generalizing l with
  | nil => exact absurd hs List.not_mem_nil
  | cons t stmts ih =>
      rcases List.mem_cons.1 hs with rfl | hs
      · refine ⟨l.count, (sources_prefix_foldl_add _ stmts).subset ?_⟩
        rw [sources_add, if_pos h]
        exact List.mem_append_right _ (List.mem_singleton_self _)
      · exact ih hs _

end Link

/-! ### Where helpers are inserted -/

variable {p : Program}

namespace Program

/-- The references of a module, each with the frames that open around it inside the module. -/
def occurrences (p : Program) : List (List Frame × Reference) :=
  p.stmts.flatMap fun s => (Node.stmt s).occurrences

/-- The number of the temporary of the export declaration that begins at a place. -/
def sourceNumber? (p : Program) (place : Nat) : Option Nat :=
  ((Link.ofProgram p).sources.find? fun entry => entry.1 == place).map (·.2)

/-- What is written into a script that the author of the module has not written, and in which
frames of the module. -/
inductive Writes (p : Program) : List Frame → List Piece → Prop
  | mark : p.isModule = true → p.Writes [] Piece.mark
  | getter {g : Getter} : g ∈ p.getters → p.Writes [] g.pieces
  | requirement {r : Requirement} : r ∈ (Link.ofProgram p).requirements → p.Writes [] r.pieces
  /-- The value of a getter, if it is an entry of an export list with a source. -/
  | entry {span : Span} {specs : List ExportSpec} {source : Literal} {spec : ExportSpec} {k : Nat} :
      .exportList span specs (some source) ∈ p.stmts → spec ∈ specs →
      p.sourceNumber? span.start = some k →
      p.Writes [] [.helper [] (.temporary k), .text (memberText "" spec.localName.text)]
  /-- The value of a getter, if it is all that another module exports. -/
  | everything {span : Span} {exported : ModuleName} {source : Literal} {k : Nat} :
      .exportAll span (some exported) source ∈ p.stmts → p.sourceNumber? span.start = some k →
      p.Writes [] [.helper [] (.temporary k)]
  /-- What takes the place of `export default`. -/
  | assignment {span : Span} {value : DefaultExport} :
      .exportDefault span value ∈ p.stmts → Link.defaultName? value = none →
      p.Writes [] [.helper [] .exports, .text ".default = "]
  /-- What takes the place of a reference, or is the value of a getter that has the reference as an
  entry of its list. -/
  | reference {frames : List Frame} {r : Reference} {k : Nat} {source : String}
      {spec : ImportSpec} :
      (frames, r) ∈ p.occurrences → p.Resolves (r.within (frames ++ p.scope)) k source spec →
      p.Writes frames (r.pieces k spec)
  | semicolon : p.Writes [] [.text ";"]
  | nothing : p.Writes [] []

/-- A helper is inserted inside the frames. -/
def Inserts (p : Program) (frames : List Frame) (h : Helper) : Prop :=
  ∃ around inside ps, p.Writes around ps ∧ .helper inside h ∈ ps ∧ frames = inside ++ around

/-- The head of a script is made of pieces. -/
theorem scriptHead_eq (p : Program) :
    p.scriptHead = strictLine ++ (if p.isModule then Piece.joined Piece.mark else "") ++
      String.join (p.getters.map fun g => Piece.joined g.pieces ++ "\n") ++
      String.join ((Link.ofProgram p).requirements.map fun r => Piece.joined r.pieces ++ "\n") := by
  simp only [scriptHead, Piece.joined_mark, Getter.joined_pieces, Requirement.joined_pieces]

/-- Every edit writes pieces. -/
theorem exists_writes_of_mem_edits {e : Edit} (he : e ∈ p.edits) :
    ∃ frames ps, p.Writes frames ps ∧ e.text = (Piece.joined ps).toList := by
  rcases mem_edits.1 he with ⟨span, hspan, rfl⟩ | ⟨s, hs, he⟩
  · exact ⟨[], [], .nothing, rfl⟩
  rw [Stmt.edits_contribution] at he
  split at he
  · obtain rfl := List.mem_singleton.1 he
    exact ⟨[], _, .semicolon, rfl⟩
  rcases List.mem_append.1 he with he | he
  · cases s with
    | exportDecl span d =>
        obtain rfl := List.mem_singleton.1 he
        exact ⟨[], [], .nothing, rfl⟩
    | exportDefault span value =>
        simp only [Stmt.rim] at he
        rcases hname : Link.defaultName? value with _ | name <;> rw [hname] at he
        · rcases List.mem_cons.1 he with rfl | he
          · exact ⟨[], _, .assignment hs hname, by rfl⟩
          · obtain rfl := List.mem_singleton.1 he
            exact ⟨[], _, .semicolon, rfl⟩
        · obtain rfl := List.mem_singleton.1 he
          exact ⟨[], [], .nothing, rfl⟩
    | _ => exact absurd he List.not_mem_nil
  · -- a reference is edited only if it resolves to an import, and then its temporary is read
    obtain ⟨r, hr, hedit⟩ := List.mem_filterMap.1 he
    obtain ⟨read, hread, rfl⟩ := Option.map_eq_some_iff.1 hedit
    obtain ⟨k, source, spec, hresolves, rfl⟩ := readOf?_eq_some.1 hread
    rw [Stmt.references_inner, Node.references_eq_map] at hr
    obtain ⟨⟨frames, r⟩, hoccurs, rfl⟩ := List.mem_map.1 hr
    have hmem : (frames, r) ∈ p.occurrences := List.mem_flatMap.2 ⟨s, hs, hoccurs⟩
    refine ⟨frames, _, .reference hmem hresolves, ?_⟩
    rw [Reference.joined_pieces]
    rfl

end Program

/-- The names of the author that getters of a statement may give as they are. -/
def Stmt.exportedTexts : Stmt → List String
  | .exportDecl _ d => Link.exportedNames d
  | .exportList _ specs _ => specs.map (·.localName.text)
  | .exportDefault _ value => (Link.defaultName? value).toList
  | _ => []

namespace Program

theorem source?_ofProgram (p : Program) (place : Nat) :
    (Link.ofProgram p).source? place = (p.sourceNumber? place).map temporary := by
  rw [sourceNumber?, Option.map_map]
  rfl

/-- An imported name is a name of the module. -/
theorem Imports.mem_bodyNames {name source : String} {k : Nat} {spec : ImportSpec}
    (h : p.Imports name k source spec) : name ∈ bodyNames p.stmts := by
  obtain @⟨front, back, span, source, before, after, _, hp, -, -⟩ := h
  have hmem : Binding.lexical spec.localName.name ∈ Stmt.allBindings p.stmts := by
    rw [hp, Stmt.allBindings_append]
    refine List.mem_append_right _ (List.mem_append_left _ ?_)
    show Binding.lexical spec.localName.name ∈
      (before ++ spec :: after).map fun s => Binding.lexical s.localName.name
    exact List.mem_map_of_mem (List.mem_append_right before List.mem_cons_self)
  exact List.mem_map_of_mem hmem

/-- A name of the module is found at its top, if no frame is in the way. -/
theorem home?_scope_of_mem {name : String} (h : name ∈ bodyNames p.stmts) :
    p.scope.home? name = some (bodyFrame .program 0 p.stmts) := by
  refine List.find?_cons_of_pos ?_
  exact List.contains_iff_mem.2 h

/-- An entry of an export list without a source refers to what it exports. -/
theorem mem_occurrences_of_entry {span : Span} {specs : List ExportSpec} {spec : ExportSpec}
    (hs : .exportList span specs none ∈ p.stmts) (hspec : spec ∈ specs)
    (hplain : spec.localName.quoted = false) :
    ([], Node.refer [] .plain false ⟨spec.localName.text, spec.localName.span⟩) ∈
      p.occurrences := by
  refine List.mem_flatMap.2 ⟨_, hs, ?_⟩
  rw [Node.occurrences, Node.walk_eq]
  refine List.mem_append_left _ (List.mem_map.2 ⟨_, List.mem_map.2 ⟨spec, ?_, rfl⟩, rfl⟩)
  rw [List.mem_filter]
  exact ⟨hspec, by rw [hplain]; rfl⟩

theorem exists_sourceNumber? {s : Stmt} (hs : s ∈ p.stmts) (hforward : s.isForwarding = true) :
    ∃ k, p.sourceNumber? s.span.start = some k := by
  obtain ⟨k, hk⟩ := Link.exists_mem_sources hs hforward .empty
  rcases hfind : (Link.ofProgram p).sources.find? fun entry => entry.1 == s.span.start with
    _ | entry
  · exact absurd (beq_self_eq_true _) (List.find?_eq_none.1 hfind _ hk)
  · exact ⟨entry.2, by rw [sourceNumber?, hfind, Option.map_some]⟩

theorem lt_count_of_sourceNumber? {place k : Nat} (h : p.sourceNumber? place = some k) :
    k < (Link.ofProgram p).count := by
  obtain ⟨entry, hfind, rfl⟩ := Option.map_eq_some_iff.1 h
  exact (Link.numbered_ofProgram p).source_lt entry (List.mem_of_find?_eq_some hfind)

/-- What an entry of an export list gives is read from its source or is that of an import, or it is
a name that the author exports. -/
theorem value_listGetter {span : Span} {specs : List ExportSpec} {source : Option Literal}
    {spec : ExportSpec} (hs : .exportList span specs source ∈ p.stmts) (hspec : spec ∈ specs)
    {value : String} (hvalue : value = ((Link.ofProgram p).listGetter
      (source.bind fun _ => (Link.ofProgram p).source? span.start) spec).value) :
    (∃ ps, p.Writes [] ps ∧ value = Piece.joined ps) ∨
      value ∈ (Stmt.exportList span specs source).exportedTexts := by
  have hname : spec.localName.text ∈ (Stmt.exportList span specs source).exportedTexts :=
    List.mem_map_of_mem hspec
  subst hvalue
  cases source with
  | some source =>
      obtain ⟨k, hk⟩ := exists_sourceNumber? hs rfl
      replace hk : p.sourceNumber? span.start = some k := hk
      refine .inl ⟨_, .entry hs hspec hk, ?_⟩
      simp only [Link.listGetter, Option.bind_some, source?_ofProgram, hk, Option.map_some]
      rw [memberText_eq]
      simp only [Piece.joined, Piece.spelling, Helper.name, String.append_empty]
  | none =>
      simp only [Link.listGetter, Option.bind_none]
      -- a quoted name is no reference; any other is one, and it may be that of an import
      cases hquoted : spec.localName.quoted with
      | true => exact .inr hname
      | false =>
          rcases hread : (Link.ofProgram p).read? spec.localName.text with _ | read
          · exact .inr hname
          · refine .inl ?_
            obtain ⟨k, source, ispec, himports, rfl⟩ := read?_ofProgram.1 hread
            refine ⟨_, .reference (mem_occurrences_of_entry hs hspec hquoted)
              ⟨⟨_, home?_scope_of_mem himports.mem_bodyNames, rfl⟩, himports⟩, ?_⟩
            rw [Reference.joined_pieces]
            rfl

/-- The value of a getter is made of pieces, or it is a name that the author exports. -/
theorem value_of_mem_getters {g : Getter} (hg : g ∈ p.getters) :
    (∃ ps, p.Writes [] ps ∧ g.value = Piece.joined ps) ∨
      ∃ s ∈ p.stmts, g.value ∈ s.exportedTexts := by
  rw [getters, contributions, List.flatMap_map, List.mem_flatMap] at hg
  obtain ⟨s, hs, hg⟩ := hg
  cases s with
  | exportDecl span d =>
      refine .inr ⟨_, hs, ?_⟩
      have hnames : g ∈ (Link.exportedNames d).map fun name => (⟨name, name⟩ : Getter) := by
        cases d with
        | typeDecl place => exact absurd hg List.not_mem_nil
        | _ => exact hg
      obtain ⟨name, hname, rfl⟩ := List.mem_map.1 hnames
      exact hname
  | exportList span specs source =>
      obtain ⟨spec, hspec, rfl⟩ := List.mem_map.1 hg
      exact (value_listGetter hs hspec rfl).imp_right fun h => ⟨_, hs, h⟩
  | exportAll span exported source =>
      obtain ⟨name, hname, hvalue⟩ := List.mem_flatMap.1 hg
      obtain rfl := Option.mem_toList.1 hname
      obtain ⟨k, hk⟩ := exists_sourceNumber? hs rfl
      replace hk : p.sourceNumber? span.start = some k := hk
      rw [source?_ofProgram, hk] at hvalue
      obtain rfl := List.mem_singleton.1 hvalue
      exact .inl ⟨_, .everything hs hk, String.append_empty.symm⟩
  | exportDefault span value =>
      refine .inr ⟨_, hs, ?_⟩
      simp only [Link.contribution] at hg
      rcases hname : Link.defaultName? value with _ | name <;> rw [hname] at hg
      · exact absurd hg List.not_mem_nil
      · obtain rfl := List.mem_singleton.1 hg
        simp [Stmt.exportedTexts, hname]
  | _ => exact absurd hg List.not_mem_nil

/-! ### What can be inserted -/

theorem isModule_of_contribution {s : Stmt} (hs : s ∈ p.stmts)
    (h : ((Link.ofProgram p).contribution p.scope s).isModule = true) : p.isModule = true :=
  List.any_eq_true.2 ⟨_, List.mem_map_of_mem hs, h⟩

theorem isModule_of_mem_getters {g : Getter} (hg : g ∈ p.getters) : p.isModule = true := by
  rw [getters, contributions, List.flatMap_map, List.mem_flatMap] at hg
  obtain ⟨s, hs, hg⟩ := hg
  refine isModule_of_contribution hs ?_
  cases s with
  | exportDecl span d =>
      cases d with
      | typeDecl place => exact absurd hg List.not_mem_nil
      | _ => rfl
  | exportDefault span value =>
      simp only [Link.contribution]
      rcases Link.defaultName? value with _ | name <;> rfl
  | importDecl | exportList | exportAll => rfl
  | _ => exact absurd hg List.not_mem_nil

/-- Only a module has requirements. -/
theorem isModule_of_mem_requirements {r : Requirement} (hr : r ∈ (Link.ofProgram p).requirements) :
    p.isModule = true := by
  have horigin : ∀ (stmts : List Stmt) (l : Link), r ∈ (stmts.foldl Link.add l).requirements →
      r ∈ l.requirements ∨
        ∃ s ∈ stmts, ((Link.ofProgram p).contribution p.scope s).isModule = true := by
    intro stmts
    induction stmts with
    | nil => exact fun l h => .inl h
    | cons s stmts ih =>
        intro l h
        rcases ih _ h with h | ⟨t, ht, hmodule⟩
        · cases s with
          | importDecl | exportList | exportAll => exact .inr ⟨_, List.mem_cons_self, rfl⟩
          | _ => exact .inl h
        · exact .inr ⟨t, List.mem_cons_of_mem _ ht, hmodule⟩
  rcases horigin p.stmts .empty hr with h | ⟨s, hs, hmodule⟩
  · exact absurd h List.not_mem_nil
  · exact isModule_of_contribution hs hmodule

/-- What is inserted for a reference is its temporary. -/
theorem helper_mem_pieces {r : Reference} {k : Nat} {spec : ImportSpec} {inside : List Frame}
    {h : Helper} : .helper inside h ∈ r.pieces k spec ↔ inside = [] ∧ h = .temporary k := by
  unfold Reference.pieces
  cases r.role <;> simp

/-- Why a helper is inserted, and where. -/
inductive Demands (p : Program) : List Frame → Helper → Prop
  /-- The text is a module. -/
  | mark {frames : List Frame} {h : Helper} : p.isModule = true → h = .object ∨ h = .exports →
      frames = [] ∨ frames = [keyFrame] → p.Demands frames h
  /-- It has a dependency. -/
  | require {r : Requirement} : r ∈ (Link.ofProgram p).requirements → r.specifier? ≠ none →
      p.Demands [] .require
  /-- The dependency is kept. -/
  | temporary {frames : List Frame} {k : Nat} : k < (Link.ofProgram p).count →
      frames = [] ∨ frames = [noFrame, keyFrame] → p.Demands frames (.temporary k)
  /-- What is kept is read. -/
  | reference {frames : List Frame} {r : Reference} {k : Nat} {source : String}
      {spec : ImportSpec} :
      (frames, r) ∈ p.occurrences → p.Resolves (r.within (frames ++ p.scope)) k source spec →
      p.Demands frames (.temporary k)

/-- What is inserted in front of the body for a requirement. -/
theorem Demands.of_requirement {r : Requirement} (hr : r ∈ (Link.ofProgram p).requirements)
    {inside : List Frame} {h : Helper} (hmem : .helper inside h ∈ r.pieces) :
    p.Demands inside h := by
  have hmodule := isModule_of_mem_requirements hr
  have hnumbered := Link.numbered_ofProgram p
  cases r with
  | bare specifier =>
      simp only [Requirement.pieces, Piece.helper_mem_helper, Piece.helper_mem_text,
        Piece.helper_mem_nil, or_false] at hmem
      obtain ⟨rfl, rfl⟩ := hmem
      exact .require hr (Option.some_ne_none _)
  | bound k specifier =>
      simp only [Requirement.pieces, Piece.helper_mem_helper, Piece.helper_mem_text,
        Piece.helper_mem_nil, or_false] at hmem
      rcases hmem with ⟨rfl, rfl⟩ | ⟨rfl, rfl⟩
      · exact .temporary ((hnumbered.bound_iff k).1 ⟨specifier, hr⟩) (.inl rfl)
      · exact .require hr (Option.some_ne_none _)
  | forward k =>
      have hk := hnumbered.forward_lt k hr
      simp only [Requirement.pieces, Piece.helper_mem_helper, Piece.helper_mem_text,
        Piece.helper_mem_nil, or_false] at hmem
      rcases hmem with ⟨rfl, rfl⟩ | ⟨rfl, rfl⟩ | ⟨rfl, rfl⟩ | ⟨rfl, rfl⟩ | ⟨rfl, rfl⟩ |
        ⟨rfl, rfl⟩ | ⟨rfl, rfl⟩
      · exact .mark hmodule (.inl rfl) (.inl rfl)
      · exact .temporary hk (.inl rfl)
      · exact .mark hmodule (.inl rfl) (.inr rfl)
      · exact .mark hmodule (.inr rfl) (.inr rfl)
      · exact .mark hmodule (.inl rfl) (.inr rfl)
      · exact .mark hmodule (.inr rfl) (.inr rfl)
      · exact .temporary hk (.inr rfl)

theorem Inserts.demands {frames : List Frame} {h : Helper} (hi : p.Inserts frames h) :
    p.Demands frames h := by
  obtain ⟨around, inside, ps, hwrites, hmem, rfl⟩ := hi
  cases hwrites with
  | mark hmodule =>
      simp only [Piece.mark, Piece.helper_mem_helper, Piece.helper_mem_text, Piece.helper_mem_nil,
        or_false] at hmem
      rcases hmem with ⟨rfl, rfl⟩ | ⟨rfl, rfl⟩
      · exact .mark hmodule (.inl rfl) (.inl rfl)
      · exact .mark hmodule (.inr rfl) (.inl rfl)
  | getter hg =>
      simp only [Getter.pieces, Piece.helper_mem_helper, Piece.helper_mem_text,
        Piece.helper_mem_nil, or_false] at hmem
      rcases hmem with ⟨rfl, rfl⟩ | ⟨rfl, rfl⟩
      · exact .mark (isModule_of_mem_getters hg) (.inl rfl) (.inl rfl)
      · exact .mark (isModule_of_mem_getters hg) (.inr rfl) (.inl rfl)
  | requirement hr =>
      rw [List.append_nil]
      exact .of_requirement hr hmem
  | entry hs hspec hk =>
      simp only [Piece.helper_mem_helper, Piece.helper_mem_text, Piece.helper_mem_nil,
        or_false] at hmem
      obtain ⟨rfl, rfl⟩ := hmem
      exact .temporary (lt_count_of_sourceNumber? hk) (.inl rfl)
  | everything hs hk =>
      simp only [Piece.helper_mem_helper, Piece.helper_mem_nil, or_false] at hmem
      obtain ⟨rfl, rfl⟩ := hmem
      exact .temporary (lt_count_of_sourceNumber? hk) (.inl rfl)
  | @assignment span value hs hname =>
      simp only [Piece.helper_mem_helper, Piece.helper_mem_text, Piece.helper_mem_nil,
        or_false] at hmem
      obtain ⟨rfl, rfl⟩ := hmem
      refine .mark (isModule_of_contribution hs ?_) (.inr rfl) (.inl rfl)
      simp only [Link.contribution, hname]
  | reference hoccurs hresolves =>
      obtain ⟨rfl, rfl⟩ := helper_mem_pieces.1 hmem
      exact .reference hoccurs hresolves
  | semicolon => exact absurd ((Piece.helper_mem_text _).1 hmem) Piece.helper_mem_nil
  | nothing => exact absurd hmem Piece.helper_mem_nil

/-! Each demand is met. -/

theorem inserts_mark (hmodule : p.isModule = true) :
    p.Inserts [] .object ∧ p.Inserts [] .exports :=
  ⟨⟨[], [], _, .mark hmodule, by simp [Piece.mark], rfl⟩,
    ⟨[], [], _, .mark hmodule, by simp [Piece.mark], rfl⟩⟩

theorem inserts_require {r : Requirement} (hr : r ∈ (Link.ofProgram p).requirements)
    (hspecifier : r.specifier? ≠ none) : p.Inserts [] .require := by
  refine ⟨[], [], _, .requirement hr, ?_, rfl⟩
  cases r with
  | bare specifier => exact List.mem_cons_self
  | bound k specifier => simp [Requirement.pieces]
  | forward k => exact absurd rfl hspecifier

theorem inserts_temporary {k : Nat} (hk : k < (Link.ofProgram p).count) :
    p.Inserts [] (.temporary k) := by
  obtain ⟨specifier, hr⟩ := ((Link.numbered_ofProgram p).bound_iff k).2 hk
  refine ⟨[], [], _, .requirement hr, ?_, rfl⟩
  simp [Requirement.pieces]

theorem inserts_reference {frames : List Frame} {r : Reference} {k : Nat} {source : String}
    {spec : ImportSpec} (hoccurs : (frames, r) ∈ p.occurrences)
    (hresolves : p.Resolves (r.within (frames ++ p.scope)) k source spec) :
    p.Inserts frames (.temporary k) :=
  ⟨frames, [], _, .reference hoccurs hresolves, helper_mem_pieces.2 ⟨rfl, rfl⟩, rfl⟩

end Program

end ModuleBundler
