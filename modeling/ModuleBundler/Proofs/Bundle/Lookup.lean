/-
ModuleBundler/Proofs/Bundle/Lookup.lean

What a module finds under the specifiers of its imports.  A specifier is written down twice: in
the statement of the script that requires it, and as a key in the mapping of the asset.  Both are
read here with the scanner of the language, and so is the number of an entry of the table of
assets (`TableEntry.key?`, `TableEntry.mapping?`).

The literal of a statement denotes the specifier, as it is written in the script and as it is laid
out.  The mapping, as an object, has all dependencies of the asset under their numbers, each the
key of one entry, but for `__proto__`, which no object initializer makes a property of
(`lookup_of_graph?`).
-/
import ModuleBundler.Proofs.Graph.Linking
import ModuleBundler.Proofs.Module.Required
import ModuleBundler.Proofs.Text.Initializer

namespace ModuleBundler

/-! ### Entries of the table -/

namespace TableEntry

/-- The key of an entry, from its text: behind blanks, and with a colon after it. -/
def key? (text : List Char) : Option Nat :=
  match Lexeme.decimal? (text.dropWhile (· == ' ')) with
  | some (key, ':' :: _) => some key
  | _ => none

/-- What stands behind the mapping of an entry. -/
def ending : List Char := "\n  ],\n".toList

/-- The members of the mapping of an entry, from its text: all of a line but the blanks at its
head, and then the ending follows. -/
def mapping? (text : List Char) : Option (List (String × Nat)) :=
  if ending.isSuffixOf text then
    let line := ((text.reverse.drop ending.length).takeWhile (· != '\n')).reverse
    Initializer.read? (line.dropWhile (· == ' '))
  else none

theorem dropWhile_blanks {blanks rest : List Char} (hblanks : ∀ c ∈ blanks, (c == ' ') = true)
    (hrest : rest.head? ≠ some ' ') : (blanks ++ rest).dropWhile (· == ' ') = rest := by
  rw [List.dropWhile_append_of_pos hblanks]
  rcases rest with - | ⟨c, rest⟩
  · rfl
  · exact List.dropWhile_cons_of_neg (by simpa using hrest)

theorem key?_render (a : Asset) : key? a.render.toList = some a.id := by
  have hcolon : Lexeme.EndsNumber ':' := ⟨by decide, by decide, by decide⟩
  have htext : a.render.toList = "  ".toList ++ ((toString a.id).toList ++ ':' ::
      (" [\n    function (require, module, exports) \x7b\n" ++ a.code ++
        (if a.code.toList.getLast? = some '\n' then "" else "\n") ++ "    \x7d,\n    " ++
        a.mapping.json ++ "\n  ],\n").toList) := by
    have hopens : ": [\n    function (require, module, exports) \x7b\n".toList =
        ':' :: " [\n    function (require, module, exports) \x7b\n".toList := rfl
    unfold Asset.render
    simp only [String.toList_append]
    rw [hopens]
    simp only [List.append_assoc, List.cons_append]
  have hhead : ∀ rest, ((toString a.id).toList ++ ':' :: rest).head? ≠ some ' ' := by
    intro rest
    rcases hid : (toString a.id).toList with - | ⟨d, ds⟩
    · exact fun h => by cases h
    · intro h
      obtain rfl : d = ' ' := Option.some.inj h
      have hdigit := Lexeme.isDigit_of_mem_toString (hid ▸ List.mem_cons_self)
      cases hdigit
  have hblanks : ∀ c ∈ "  ".toList, (c == ' ') = true := by simp
  unfold key?
  rw [htext, dropWhile_blanks hblanks (hhead _), Lexeme.decimal?_toString a.id hcolon]
  rfl

theorem newline_notMem_escape (c : Char) : '\n' ∉ Quoted.escape c := by
  by_cases hcontrol : c.toNat < 0x20
  · obtain ⟨n, hn, rfl⟩ : ∃ n, n < 0x20 ∧ c = Char.ofNat n := ⟨c.toNat, hcontrol, by simp⟩
    interval_cases n <;> decide
  · unfold Quoted.escape
    split_ifs <;> simp_all [eq_comm]

theorem newline_notMem_member (key : String) (value : Nat) :
    '\n' ∉ (Json.member key (toString value)).toList := by
  have hdigits : '\n' ∉ (toString value).toList := fun h => by
    have hdigit := Lexeme.isDigit_of_mem_toString h
    cases hdigit
  simp only [Json.member, String.quoted, Quoted.encode, String.toList_append, String.toList_ofList,
    List.mem_append, List.mem_cons, List.mem_flatMap, not_or]
  refine ⟨⟨⟨⟨by decide, ?_⟩, by decide⟩, by decide⟩, hdigits⟩
  rintro ⟨c, -, hc⟩
  exact newline_notMem_escape c hc

theorem newline_notMem_listed (ms : List (String × Nat)) : '\n' ∉ Initializer.listed ms := by
  induction ms with
  | nil => simp [Initializer.listed]
  | cons m ms ih =>
      cases ms with
      | nil =>
          rw [Initializer.listed_singleton]
          exact newline_notMem_member _ _
      | cons m' ms =>
          rw [Initializer.listed_cons_cons, List.mem_append, List.mem_cons, not_or, not_or]
          exact ⟨newline_notMem_member _ _, by decide, ih⟩

/-- An object is written on one line. -/
theorem newline_notMem_json (t : Table String Nat) : '\n' ∉ t.json.toList := by
  rw [Initializer.json_eq, List.mem_cons, List.mem_append, not_or, not_or]
  exact ⟨by decide, newline_notMem_listed _, by decide⟩

theorem mapping?_render (a : Asset) : mapping? a.render.toList = some a.mapping.entries := by
  have hline : ∀ c ∈ ("    ".toList ++ a.mapping.json.toList).reverse, (c != '\n') = true := by
    intro c hc
    refine bne_iff_ne.2 ?_
    rintro rfl
    rcases List.mem_append.1 (List.mem_reverse.1 hc) with hc | hc
    · revert hc
      decide
    · exact newline_notMem_json _ hc
  obtain ⟨front, htext⟩ : ∃ front, a.render.toList =
      front ++ '\n' :: ("    ".toList ++ a.mapping.json.toList) ++ ending := by
    refine ⟨("  " ++ toString a.id ++ ": [\n    function (require, module, exports) \x7b\n" ++ a.code ++
      (if a.code.toList.getLast? = some '\n' then "" else "\n") ++ "    \x7d,").toList, ?_⟩
    have hopens : "    \x7d,\n    ".toList = "    \x7d,".toList ++ '\n' :: "    ".toList := rfl
    unfold Asset.render ending
    simp only [String.toList_append]
    rw [hopens]
    simp only [List.append_assoc, List.cons_append]
  -- read from its end, the entry has the line of the mapping right after its closing brackets
  have hdrop : (a.render.toList.reverse.drop ending.length) =
      ("    ".toList ++ a.mapping.json.toList).reverse ++ '\n' :: front.reverse := by
    rw [htext, List.reverse_append, List.drop_left' List.length_reverse, List.reverse_append,
      List.reverse_cons, List.append_assoc]
    rfl
  have htake : (a.render.toList.reverse.drop ending.length).takeWhile (· != '\n') =
      ("    ".toList ++ a.mapping.json.toList).reverse := by
    rw [hdrop, List.takeWhile_append_of_pos hline, List.takeWhile_cons_of_neg (by decide),
      List.append_nil]
  have hblanks : ∀ c ∈ "    ".toList, (c == ' ') = true := by simp
  unfold mapping?
  dsimp only
  rw [if_pos, htake, List.reverse_reverse, dropWhile_blanks hblanks, Initializer.read?_json]
  · rw [Initializer.json_eq]
    exact fun h => by cases h
  · rw [htext]
    exact List.isSuffixOf_iff_suffix.2 (List.suffix_append _ _)

end TableEntry

/-! ### What is found -/

namespace AssetGraph

variable {g : AssetGraph} {a : Asset}

/-- With the table as it is written, an asset finds a number under a name: the object that its
mapping initializes has the name as a property with this value, and exactly one entry of the table
has this key. -/
structure Finds (g : AssetGraph) (a : Asset) (name : String) (number : Nat) : Prop where
  property : ∃ ms, TableEntry.mapping? a.render.toList = some ms ∧
    (Initializer.properties ms).get? name = some number
  entry : (g.assets.map fun b => TableEntry.key? b.render.toList).count (some number) = 1

/-- The setter of the prototype is no property. -/
theorem not_finds_proto (number : Nat) : ¬ g.Finds a "__proto__" number := by
  rintro ⟨⟨ms, hms, hproperty⟩, -⟩
  rw [TableEntry.mapping?_render] at hms
  obtain rfl := Option.some.inj hms
  rw [Initializer.get?_properties, if_pos rfl] at hproperty
  cases hproperty

/-- Under any other name an asset finds what its mapping has. -/
theorem finds_of_ne {name : String} {number : Nat} {b : Asset}
    (hids : g.assets.map (·.id) = List.range g.assets.length)
    (hmapping : a.mapping.get? name = some number) (hb : g.get? number = some b)
    (hname : name ≠ "__proto__") : g.Finds a name number where
  property := by
    refine ⟨a.mapping.entries, TableEntry.mapping?_render a, ?_⟩
    rw [Initializer.get?_properties, if_neg hname, hmapping]
  entry := by
    have hkeys : (g.assets.map fun b => TableEntry.key? b.render.toList) =
        (List.range g.assets.length).map some := by
      rw [← hids, List.map_map]
      exact List.map_congr_left fun b _ => TableEntry.key?_render b
    rw [get?_eq_getElem? hids] at hb
    have hlt := (List.getElem?_eq_some_iff.1 hb).1
    rw [hkeys]
    exact List.count_eq_one_of_mem (List.nodup_range.map (Option.some_injective _))
      (List.mem_map_of_mem (List.mem_range.2 hlt))

/-- A graph with assets has a bundle, in which the table is the entries one after the other. -/
theorem exists_bundle? (h : g.assets ≠ []) : ∃ front back, g.bundle? = some (front ++
    Loader.opening ++ String.join (g.assets.map Asset.render) ++ Loader.closing ++ back) := by
  unfold bundle? plainBundle
  rw [if_neg (by simpa [isEmpty] using h)]
  split
  · exact ⟨HelperTable.opening, HelperTable.closing, by simp only [String.append_assoc]⟩
  · exact ⟨"", "", by simp⟩

end AssetGraph

/-- The module that an asset was compiled from. -/
theorem Project.exists_ofFile_of_compiled {p : Project} {path : String} {m : CompiledModule}
    (h : p.compiled path = .ok m) : ∃ source, SourceModule.ofFile p.read path = .ok source ∧
      source.compile p.target = .ok m.code ∧ m.dependencies = source.dependencies := by
  unfold compiled at h
  split at h
  · cases h
  next source hfile =>
    split at h
    · cases h
    next code hcode =>
      obtain rfl := Except.ok.inj h
      exact ⟨source, hfile, hcode, rfl⟩

/-- **A module finds all that it imports, but for `__proto__`.** -/
theorem lookup_of_graph? {p : Project} {dedupe : Bool} {entry : String} {g : AssetGraph}
    (h : p.graph? dedupe entry = .ok (some g)) :
    (∃ front back, g.bundle? = some (front ++ Loader.opening ++
      String.join (g.assets.map Asset.render) ++ Loader.closing ++ back)) ∧
    ∀ a ∈ g.assets,
      (∃ source, SourceModule.ofFile p.read a.filename = .ok source ∧
        source.compile p.target = .ok a.code ∧ a.dependencies = source.program.specifiers ∧
        source.program.required = source.program.stmts.filterMap Stmt.specifier? ∧
        ∀ r ∈ (Link.ofProgram source.program).requirements,
          Requirement.literal? r.text.toList = r.specifier?) ∧
      ∀ s ∈ a.dependencies,
        Lexeme.literal? (Literal.ofText s).layout.toList = some (s, []) ∧
        ∃ number b, a.mapping.get? s = some number ∧ g.get? number = some b ∧
          b.filename = resolve a.filename s ∧ (g.Finds a s number ↔ s ≠ "__proto__") := by
  have hids := ids_of_graph? h
  have hlinked := isLinked_of_graph? h
  have hget : ∀ {a}, a ∈ g.assets → ∃ id, g.get? id = some a := by
    intro a ha
    obtain ⟨i, hi⟩ := List.getElem?_of_mem ha
    exact ⟨i, (AssetGraph.get?_eq_getElem? hids i).trans hi⟩
  refine ⟨AssetGraph.exists_bundle? ?_, fun a ha => ⟨?_, fun s hs => ⟨?_, ?_⟩⟩⟩
  · obtain ⟨a, ha, -⟩ := hlinked.entry_eq
    exact List.ne_nil_of_mem (List.mem_of_find?_eq_some ha)
  · obtain ⟨id, hid⟩ := hget ha
    obtain ⟨source, hfile, hcode, hdependencies⟩ :=
      Project.exists_ofFile_of_compiled (hlinked.compiled hid)
    exact ⟨source, hfile, hcode, hdependencies, Program.required_eq _,
      fun r _ => Requirement.literal?_text r⟩
  · have hliteral := Quoted.literal?_layout s []
    rwa [List.append_nil] at hliteral
  · obtain ⟨id, hid⟩ := hget ha
    obtain ⟨number, b, hnumber, hb, hfile⟩ := hlinked.linked hid s hs
    refine ⟨number, b, hnumber, hb, hfile, ?_, AssetGraph.finds_of_ne hids hnumber hb⟩
    -- the one name that a lookup in an object finds anywhere
    rintro hfinds rfl
    exact AssetGraph.not_finds_proto number hfinds

/-- A module that imports a file by a name with a quote, and one by the name `__proto__`. -/
def Project.importingPrototype : Project where
  read := (Sources.ofList [("a", "import './\"'; import '__proto__'"), ("\"", "f()"),
    ("__proto__", "1")]).read
  target := ⟨.next, []⟩

/-- This project has a graph, and an asset in it depends on both. -/
theorem exists_importingPrototype :
    ∃ g, Project.importingPrototype.graph? false "a" = .ok (some g) ∧
      ∃ a ∈ g.assets, a.dependencies = ["./\"", "__proto__"] := by
  have heval : (Project.importingPrototype.graph? false "a").toOption.join.bind
      (·.assets.head?.map (·.dependencies)) = some ["./\"", "__proto__"] := by decide +kernel
  obtain ⟨g, hg⟩ : ∃ g, Project.importingPrototype.graph? false "a" = .ok (some g) := by
    refine exists_graph_of_isSome ?_
    rw [Option.isSome_iff_exists]
    obtain ⟨g, hg, -⟩ := Option.bind_eq_some_iff.1 heval
    exact ⟨g, hg⟩
  rw [hg] at heval
  obtain ⟨a, ha, hdependencies⟩ := Option.map_eq_some_iff.1 heval
  exact ⟨g, hg, a, List.mem_of_mem_head? ha, hdependencies⟩

theorem importingPrototype_finds : ∃ g, Project.importingPrototype.graph? false "a" = .ok (some g) ∧
    ∃ a ∈ g.assets, "./\"" ∈ a.dependencies ∧ ∃ number, g.Finds a "./\"" number := by
  obtain ⟨g, hg, a, ha, hdependencies⟩ := exists_importingPrototype
  have hs : "./\"" ∈ a.dependencies := by simp [hdependencies]
  obtain ⟨-, number, b, -, -, -, hfinds⟩ := ((lookup_of_graph? hg).2 a ha).2 "./\"" hs
  exact ⟨g, hg, a, ha, hs, number, hfinds.2 (by decide)⟩

/-- A dependency of an asset that it does not find. -/
theorem importingPrototype_not_finds :
    ∃ g, Project.importingPrototype.graph? false "a" = .ok (some g) ∧
      ∃ a ∈ g.assets, "__proto__" ∈ a.dependencies ∧ ∀ number, ¬ g.Finds a "__proto__" number := by
  obtain ⟨g, hg, a, ha, hdependencies⟩ := exists_importingPrototype
  exact ⟨g, hg, a, ha, by simp [hdependencies], AssetGraph.not_finds_proto⟩

end ModuleBundler
