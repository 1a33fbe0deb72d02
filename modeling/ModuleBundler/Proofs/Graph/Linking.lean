/-
ModuleBundler/Proofs/Graph/Linking.lean

Numbers lead to the files they stand for.  In every search, with sharing and without,
a number that was handed out for a file is the place of that file among the files found
(`Numbered`).  This is so for the numbers in the table of what was built, hence for
those that a request gives, and hence for those in the mapping of an asset.

So in a finished graph every dependency of an asset is in its mapping, and the number
there is that of an asset of the file that the dependency resolves to
(`AssetGraph.IsLinked`).

Main result: `isLinked_of_graph?`.
-/
import ModuleBundler.Proofs.Graph.Reachable
import ModuleBundler.Proofs.Graph.Search
import ModuleBundler.Proofs.Table.OfList

namespace ModuleBundler

namespace Discovery

variable {p : Project} {dedupe : Bool} {entry importer path : String} {d d' : Discovery}
  {known : List String}

/-! ### Numbers of files -/

/-- The numbers handed out are places in a list of files, and each file built is at its place. -/
structure Numbered (d : Discovery) (known : List String) : Prop where
  issued_eq : d.numbering.issued = known.length
  built_eq : ∀ {file id}, d.built.get? file = some id → known[id]? = some file

/-- A mapping gives for each specifier in it a place of the file that it resolves to. -/
def LeadsTo (mapping : Table String Nat) (importer : String) (known : List String) : Prop :=
  ∀ s id, mapping.get? s = some id → known[id]? = some (resolve importer s)

theorem getElem?_append_of_some {known : List String} {id : Nat} {file : String}
    (h : known[id]? = some file) (more : List String) : (known ++ more)[id]? = some file := by
  have hlt := (List.getElem?_eq_some_iff.1 h).1
  rw [List.getElem?_append_left hlt, h]

theorem LeadsTo.append {mapping : Table String Nat} (h : LeadsTo mapping importer known)
    (more : List String) : LeadsTo mapping importer (known ++ more) :=
  fun s id hs => getElem?_append_of_some (h s id hs) more

theorem LeadsTo.put {mapping : Table String Nat} (h : LeadsTo mapping importer known) {s : String}
    {id : Nat} (hid : known[id]? = some (resolve importer s)) :
    LeadsTo (mapping.put s id) importer known := by
  intro t k ht
  rw [Table.get?_put] at ht
  by_cases hts : t = s
  · rw [if_pos hts] at ht
    cases ht
    rw [hts, hid]
  · rw [if_neg hts] at ht
    exact h t k ht

theorem Numbered.push (h : Numbered d known) (m : CompiledModule) :
    Numbered (d.push m) (known ++ [m.filename]) where
  issued_eq := by
    rw [List.length_append, List.length_singleton, ← h.issued_eq]
    rfl
  built_eq := by
    intro file id hfile
    have hput : (d.built.put m.filename d.numbering.issued).get? file = some id := hfile
    rw [Table.get?_put] at hput
    by_cases hname : file = m.filename
    · rw [if_pos hname] at hput
      cases hput
      rw [h.issued_eq, List.getElem?_concat_length, hname]
    · rw [if_neg hname] at hput
      exact getElem?_append_of_some (h.built_eq hput) _

/-! ### What a step adds -/

/-- Modules are pushed, and each is what compiling its file gives. -/
def Grows (p : Project) (known : List String) (d d' : Discovery) (ms : List CompiledModule) :
    Prop :=
  d' = d.pushAll ms ∧ (∀ m ∈ ms, p.compiled m.filename = .ok m) ∧
    Numbered d' (known ++ ms.map (·.filename))

/-- A request gives the place of the file asked for. -/
theorem grows_of_request (h : Numbered d known) (hpath : normalize path = path) {id : Nat}
    (hrequest : request p dedupe path d = .ok (id, d')) :
    ∃ ms, Grows p known d d' ms ∧ (known ++ ms.map (·.filename))[id]? = some path := by
  have henqueue : enqueue p path d = .ok (id, d') →
      ∃ ms, Grows p known d d' ms ∧ (known ++ ms.map (·.filename))[id]? = some path := by
    intro henqueue
    rw [enqueue_eq] at henqueue
    rcases hm : p.compiled path with x | m
    · rw [hm] at henqueue
      cases henqueue
    · rw [hm] at henqueue
      cases henqueue
      have hname : m.filename = path := (Project.filename_of_compiled hm).trans hpath
      refine ⟨[m], ⟨rfl, ?_, h.push m⟩, ?_⟩
      · rintro _ hmem
        rw [List.mem_singleton.1 hmem]
        exact Project.compiled_filename hm
      · rw [h.issued_eq, ← hname]
        exact List.getElem?_concat_length
  -- a number that is given again is that of a file built before
  unfold request at hrequest
  split at hrequest
  · rename_i _ hnumber
    cases hrequest
    have hbuilt : d.built.get? path = some id := by
      cases dedupe with
      | false => cases hnumber
      | true => exact hnumber
    refine ⟨[], ⟨rfl, fun m hm => absurd hm List.not_mem_nil, ?_⟩, ?_⟩
    · simpa using h
    · simpa using h.built_eq hbuilt
  · exact henqueue hrequest

theorem Grows.trans {d'' : Discovery} {ms ns : List CompiledModule} (h : Grows p known d d' ms)
    (h' : Grows p (known ++ ms.map (·.filename)) d' d'' ns) : Grows p known d d'' (ms ++ ns) := by
  obtain ⟨rfl, hms, -⟩ := h
  obtain ⟨rfl, hns, hnumbered⟩ := h'
  refine ⟨List.foldl_append.symm, fun m hm => ?_, ?_⟩
  · rcases List.mem_append.1 hm with hm | hm
    · exact hms m hm
    · exact hns m hm
  · rw [List.map_append, ← List.append_assoc]
    exact hnumbered

/-- Expanding specifiers maps each of them to a place of the file that it resolves to. -/
theorem grows_of_expand (h : Numbered d known) {specifiers : List String}
    {mapping mapping' : Table String Nat} (hmapping : LeadsTo mapping importer known)
    (hexpand : expand p dedupe importer mapping d specifiers = .ok (mapping', d')) :
    ∃ ms, Grows p known d d' ms ∧ LeadsTo mapping' importer (known ++ ms.map (·.filename)) ∧
      ∀ s, s ∈ mapping.keys ∨ s ∈ specifiers → s ∈ mapping'.keys := by
  induction specifiers generalizing mapping d known with
  | nil =>
      cases hexpand
      refine ⟨[], ⟨rfl, fun m hm => absurd hm List.not_mem_nil, ?_⟩, ?_, ?_⟩
      · simpa using h
      · exact hmapping.append _
      · exact fun s hs => hs.resolve_right List.not_mem_nil
  | cons s rest ih =>
      rcases hrequest : request p dedupe (resolve importer s) d with x | ⟨id, e⟩
      · rw [expand, hrequest] at hexpand
        cases hexpand
      · rw [expand, hrequest] at hexpand
        -- what the request has added stays in front of what the rest adds
        obtain ⟨ms, hms, hid⟩ := grows_of_request h (normalize_resolve importer s) hrequest
        obtain ⟨ns, hns, hleads, hkeys⟩ := ih hms.2.2 ((hmapping.append _).put hid) hexpand
        refine ⟨ms ++ ns, hms.trans hns, ?_, fun t ht => hkeys t ?_⟩
        · rw [List.map_append, ← List.append_assoc]
          exact hleads
        · rw [Table.keys_put]
          rcases ht with ht | ht
          · refine .inl ?_
            split
            · exact ht
            · exact List.mem_append_left _ ht
          · rcases List.mem_cons.1 ht with rfl | ht
            · refine .inl ?_
              split
              · assumption
              · exact List.mem_append_right _ (List.mem_singleton_self _)
            · exact .inr ht

/-! ### States -/

/-- In every state of a search the mappings of finished assets lead to their imports. -/
structure Linked (p : Project) (entry : String) (d : Discovery) : Prop extends Sound p d where
  numbered : Numbered d d.files
  entry_eq : d.files[entryNumber]? = some (normalize entry)
  leads : ∀ a ∈ d.finished, LeadsTo a.mapping a.filename d.files
  keys : ∀ a ∈ d.finished, ∀ s ∈ a.dependencies, s ∈ a.mapping.keys

theorem Linked.start {m : CompiledModule} (hm : p.compiled entry = .ok m) :
    Linked p entry (initial.push m) where
  toSound := .start hm
  numbered := by
    have hnothing : Numbered initial [] := ⟨rfl, fun h => (by cases h)⟩
    exact hnothing.push m
  entry_eq := congrArg some (Project.filename_of_compiled hm)
  leads := fun a ha => absurd ha List.not_mem_nil
  keys := fun a ha => absurd ha List.not_mem_nil

theorem Linked.step (h : Linked p entry d) (hq : d.queue ≠ []) (hs : step p dedupe d = .ok d') :
    Linked p entry d' := by
  obtain ⟨a, rest, hq⟩ := List.exists_cons_of_ne_nil hq
  unfold Discovery.step at hs
  rw [hq] at hs
  dsimp only at hs
  rcases hexpand : expand p dedupe a.filename Table.empty { d with queue := rest }
    a.dependencies with x | ⟨mapping, e⟩
  · rw [hexpand] at hs
    cases hs
  · rw [hexpand] at hs
    have hnumbered : Numbered { d with queue := rest } d.files := ⟨h.numbered.1, h.numbered.2⟩
    obtain ⟨ms, ⟨rfl, hms, hgrown⟩, hleads, hkeys⟩ :=
      grows_of_expand hnumbered (fun s id hs => (by cases hs)) hexpand
    have hfinished : d' = d.advance a rest mapping ms := by
      cases hs
      simp [Discovery.advance]
    subst hfinished
    have hfiles : (d.advance a rest mapping ms).files = d.files ++ ms.map CompiledModule.filename :=
      files_advance hq
    -- the asset that was linked is the only one that is new among the finished
    refine ⟨h.toSound.advance_of_compiled hq hms mapping, ?_, ?_, ?_, ?_⟩
    · rw [hfiles]
      exact ⟨hgrown.1, hgrown.2⟩
    · rw [hfiles]
      exact getElem?_append_of_some h.entry_eq _
    · intro b hb
      rw [hfiles]
      rcases List.mem_append.1 hb with hb | hb
      · exact (h.leads b hb).append _
      · obtain rfl := List.mem_singleton.1 hb
        exact hleads
    · intro b hb s hs
      rcases List.mem_append.1 hb with hb | hb
      · exact h.keys b hb s hs
      · obtain rfl := List.mem_singleton.1 hb
        exact hkeys s (.inr hs)

end Discovery

/-! ### The finished graph -/

/-- A graph begins with the entry, and each of its assets is linked to what it imports. -/
structure AssetGraph.IsLinked (g : AssetGraph) (p : Project) (entry : String) : Prop where
  entry_eq : ∃ a, g.get? entryNumber = some a ∧ a.filename = normalize entry
  /-- An asset is what compiling its file gives. -/
  compiled : ∀ {id a}, g.get? id = some a → p.compiled a.filename = .ok a.content
  /-- Under each dependency stands the number of an asset of the file that it resolves to. -/
  linked : ∀ {id a}, g.get? id = some a → ∀ s ∈ a.dependencies, ∃ number b,
    a.mapping.get? s = some number ∧ g.get? number = some b ∧ b.filename = resolve a.filename s

/-- The numbers of the assets of a graph are their places. -/
theorem ids_of_graph? {p : Project} {dedupe : Bool} {entry : String} {g : AssetGraph}
    (h : p.graph? dedupe entry = .ok (some g)) :
    g.assets.map (·.id) = List.range g.assets.length := by
  obtain ⟨d, hd, hq, rfl⟩ := Discovery.exists_of_graph? (I := Discovery.Linked p entry)
    Discovery.Linked.start Discovery.Linked.step h
  exact hd.ids_finished hq

/-- With sharing and without, the graph of an entry is linked. -/
theorem isLinked_of_graph? {p : Project} {dedupe : Bool} {entry : String} {g : AssetGraph}
    (h : p.graph? dedupe entry = .ok (some g)) : g.IsLinked p entry := by
  obtain ⟨d, hd, hq, rfl⟩ := Discovery.exists_of_graph? (I := Discovery.Linked p entry)
    Discovery.Linked.start Discovery.Linked.step h
  have hget : ∀ n, AssetGraph.get? ⟨d.finished⟩ n = d.finished[n]? :=
    AssetGraph.get?_eq_getElem? (hd.ids_finished hq)
  have hmem : ∀ {n a}, AssetGraph.get? ⟨d.finished⟩ n = some a → a ∈ d.finished := by
    intro n a ha
    rw [hget] at ha
    exact List.mem_of_getElem? ha
  -- with an empty queue the files found are those of the finished assets
  have hfile : ∀ {n file}, d.files[n]? = some file →
      ∃ a, AssetGraph.get? ⟨d.finished⟩ n = some a ∧ a.filename = file := by
    intro n file hn
    rw [Discovery.files_finished hq, List.getElem?_map, Option.map_eq_some_iff] at hn
    obtain ⟨a, ha, hname⟩ := hn
    exact ⟨a, (hget n).trans ha, hname⟩
  refine ⟨hfile hd.entry_eq, ?_, ?_⟩
  · intro id a ha
    exact hd.compiled a.content (Discovery.content_mem_found (hmem ha))
  intro id a ha s hs
  obtain ⟨number, hnumber⟩ := Option.isSome_iff_exists.1
    (Table.mem_keys_iff.1 (hd.keys a (hmem ha) s hs))
  obtain ⟨b, hb, hname⟩ := hfile (hd.leads a (hmem ha) s number hnumber)
  exact ⟨number, b, hnumber, hb, hname⟩

end ModuleBundler
