/-
ModuleBundler/Proofs/Graph/Search.lean

A search is a growing list of compiled modules: those that are finished, then
those that wait (`Discovery.found`).  With `push`, which gives a module the next
number and puts it at the end of the queue, building an asset is

    enqueue path d = (compiled path).map fun m => (d.numbering.issued, d.push m)

and a step of the search is `advance`: the asset at the head of the queue is linked
and moves over to the finished ones, and the modules built for it are pushed.  In
terms of `found` a step only appends (`found_advance`).

`Sound` holds in every state of a search, with sharing and without: the numbers of
the assets are their places, and each asset is what compiling its file gives.

A run ends with an empty queue, or fails, or takes too many steps; what every step
preserves holds of the state in which it ends (`exists_of_run`).
-/
import ModuleBundler.Proofs.Graph.Build

namespace ModuleBundler

/-! ### Numbers as places -/

theorem Asset.id_eq_of_getElem? {assets : List Asset}
    (h : assets.map (·.id) = List.range assets.length) {i : Nat} {a : Asset}
    (hi : assets[i]? = some a) : a.id = i := by
  obtain ⟨hlt, rfl⟩ := List.getElem?_eq_some_iff.1 hi
  have hmap : (assets.map (·.id))[i]? = some i := by
    rw [h, List.getElem?_range hlt]
  rw [List.getElem?_map, List.getElem?_eq_getElem hlt] at hmap
  exact Option.some.inj hmap

/-- If numbers are places, then looking for a number is looking at a place. -/
theorem AssetGraph.get?_eq_getElem? {g : AssetGraph}
    (h : g.assets.map (·.id) = List.range g.assets.length) (n : Nat) :
    g.get? n = g.assets[n]? := by
  have hid : ∀ {i} (hi : i < g.assets.length), g.assets[i].id = i := fun hi =>
    Asset.id_eq_of_getElem? h (List.getElem?_eq_getElem hi)
  by_cases hn : n < g.assets.length
  · rw [List.getElem?_eq_getElem hn]
    refine List.find?_eq_some_iff_getElem.2 ⟨by simp [hid hn], n, hn, rfl, fun j hj => ?_⟩
    simp [hid (Nat.lt_trans hj hn), Nat.ne_of_lt hj]
  · rw [List.getElem?_eq_none (Nat.le_of_not_lt hn)]
    refine List.find?_eq_none.2 fun a ha => ?_
    obtain ⟨i, hi, rfl⟩ := List.getElem_of_mem ha
    have hne : i ≠ n := by omega
    simpa [hid hi] using hne

namespace Discovery

variable {p : Project} {dedupe : Bool} {d d' : Discovery}

/-! ### Building -/

/-- Gives a module the next number and puts it at the end of the queue. -/
def push (d : Discovery) (m : CompiledModule) : Discovery where
  numbering := ⟨d.numbering.issued + 1⟩
  built := d.built.put m.filename d.numbering.issued
  queue := d.queue ++ [m.numbered d.numbering.issued]
  finished := d.finished

/-- Pushes modules one after the other. -/
def pushAll (d : Discovery) (ms : List CompiledModule) : Discovery := ms.foldl push d

/-- The search that has found nothing. -/
def initial : Discovery := ⟨.fresh, Table.empty, [], []⟩

theorem start_eq (p : Project) (entry : String) :
    start p entry = (p.compiled entry).map initial.push := by
  have hfst := p.build_eq entry .fresh
  rcases hm : p.compiled entry with e | m
  · rw [hm] at hfst
    simp only [start, hfst, Except.map]
  · rw [hm] at hfst
    simp only [start, hfst, Except.map, p.numbering_build hm]
    rfl

theorem enqueue_eq (p : Project) (path : String) (d : Discovery) :
    enqueue p path d = (p.compiled path).map fun m => (d.numbering.issued, d.push m) := by
  have hfst := p.build_eq path d.numbering
  rcases hm : p.compiled path with e | m
  · rw [hm] at hfst
    simp only [enqueue, hfst, Except.map]
  · rw [hm] at hfst
    simp only [enqueue, hfst, Except.map, p.numbering_build hm]
    rfl

@[simp] theorem finished_pushAll (d : Discovery) (ms : List CompiledModule) :
    (d.pushAll ms).finished = d.finished := by
  induction ms generalizing d with
  | nil => rfl
  | cons m ms ih => exact ih (d.push m)

@[simp] theorem issued_pushAll (d : Discovery) (ms : List CompiledModule) :
    (d.pushAll ms).numbering.issued = d.numbering.issued + ms.length := by
  induction ms generalizing d with
  | nil => rfl
  | cons m ms ih =>
      show ((d.push m).pushAll ms).numbering.issued = _
      rw [ih, List.length_cons]
      show d.numbering.issued + 1 + ms.length = _
      omega

theorem content_queue_pushAll (d : Discovery) (ms : List CompiledModule) :
    (d.pushAll ms).queue.map (·.content) = d.queue.map (·.content) ++ ms := by
  induction ms generalizing d with
  | nil => simp [pushAll]
  | cons m ms ih =>
      show ((d.push m).pushAll ms).queue.map (·.content) = _
      rw [ih]
      simp [push]

theorem id_queue_pushAll (d : Discovery) (ms : List CompiledModule) :
    (d.pushAll ms).queue.map (·.id) =
      d.queue.map (·.id) ++ List.range' d.numbering.issued ms.length := by
  induction ms generalizing d with
  | nil => simp [pushAll]
  | cons m ms ih =>
      show ((d.push m).pushAll ms).queue.map (·.id) = _
      rw [ih]
      simp [push, List.range'_succ]

/-! ### What has been found -/

/-- The modules found so far: those that are finished, then those that wait. -/
def found (d : Discovery) : List CompiledModule :=
  d.finished.map (·.content) ++ d.queue.map (·.content)

/-- The numbers of the assets found so far. -/
def ids (d : Discovery) : List Nat := d.finished.map (·.id) ++ d.queue.map (·.id)

/-- The files of the modules found so far. -/
def files (d : Discovery) : List String := d.found.map (·.filename)

theorem files_eq_append (d : Discovery) :
    d.files = d.finished.map (·.filename) ++ d.queue.map (·.filename) := by
  rw [files, found, List.map_append, List.map_map, List.map_map]
  rfl

theorem files_finished (hq : d.queue = []) : d.files = d.finished.map (·.filename) := by
  rw [files_eq_append, hq, List.map_nil, List.append_nil]

theorem content_mem_found_of_queue {a : UnlinkedAsset} {rest : List UnlinkedAsset}
    (hq : d.queue = a :: rest) : a.content ∈ d.found := by
  simp [found, hq]

theorem content_mem_found {a : Asset} (ha : a ∈ d.finished) : a.content ∈ d.found :=
  List.mem_append_left _ (List.mem_map_of_mem ha)

/-- The state after a step: the asset at the head of the queue is linked, and modules have been
built for it. -/
def advance (d : Discovery) (a : UnlinkedAsset) (rest : List UnlinkedAsset)
    (mapping : Table String Nat) (ms : List CompiledModule) : Discovery :=
  { pushAll { d with queue := rest } ms with finished := d.finished ++ [a.link mapping] }

section Advance

variable {a : UnlinkedAsset} {rest : List UnlinkedAsset} {mapping : Table String Nat}
  {ms : List CompiledModule}

theorem finished_advance :
    (d.advance a rest mapping ms).finished = d.finished ++ [a.link mapping] := rfl

theorem issued_advance :
    (d.advance a rest mapping ms).numbering.issued = d.numbering.issued + ms.length :=
  issued_pushAll _ ms

theorem found_advance (hq : d.queue = a :: rest) :
    (d.advance a rest mapping ms).found = d.found ++ ms := by
  have hqueue : (d.advance a rest mapping ms).queue.map (·.content) = _ :=
    content_queue_pushAll { d with queue := rest } ms
  simp [found, finished_advance, hqueue, hq]

theorem ids_advance (hq : d.queue = a :: rest) :
    (d.advance a rest mapping ms).ids =
      d.ids ++ List.range' d.numbering.issued ms.length := by
  have hqueue : (d.advance a rest mapping ms).queue.map (·.id) = _ :=
    id_queue_pushAll { d with queue := rest } ms
  simp [ids, finished_advance, hqueue, hq]

theorem files_advance (hq : d.queue = a :: rest) :
    (d.advance a rest mapping ms).files = d.files ++ ms.map (·.filename) := by
  rw [files, found_advance hq, List.map_append]
  rfl

end Advance

/-! ### States of a search -/

/-- What holds in every state of a search. -/
structure Sound (p : Project) (d : Discovery) : Prop where
  /-- The number of an asset is its place. -/
  ids_eq : d.ids = List.range d.numbering.issued
  /-- An asset is what compiling its file gives. -/
  compiled : ∀ m ∈ d.found, p.compiled m.filename = .ok m

theorem Sound.length_found (h : Sound p d) : d.found.length = d.numbering.issued := by
  have hlen : d.found.length = d.ids.length := by simp [found, ids]
  rw [hlen, h.ids_eq, List.length_range]

theorem Sound.length_files (h : Sound p d) : d.files.length = d.numbering.issued := by
  rw [files, List.length_map, h.length_found]

theorem Sound.exists_compiled (h : Sound p d) {file : String} (hfile : file ∈ d.files) :
    ∃ m, p.compiled file = .ok m := by
  obtain ⟨m, hm, rfl⟩ := List.mem_map.1 hfile
  exact ⟨m, h.compiled m hm⟩

/-- At the end of a search all numbers are those of finished assets. -/
theorem Sound.ids_finished (h : Sound p d) (hq : d.queue = []) :
    d.finished.map (·.id) = List.range d.finished.length := by
  have hlen : d.finished.length = d.numbering.issued := by
    simpa [found, hq] using h.length_found
  simpa [ids, hq, hlen] using h.ids_eq

theorem Sound.start {entry : String} {m : CompiledModule} (hm : p.compiled entry = .ok m) :
    Sound p (initial.push m) where
  ids_eq := rfl
  compiled := by
    intro m' hm'
    obtain rfl : m' = m := List.mem_singleton.1 hm'
    exact Project.compiled_filename hm

theorem Sound.advance_of_compiled (h : Sound p d) {a : UnlinkedAsset} {rest : List UnlinkedAsset}
    (hq : d.queue = a :: rest) {ms : List CompiledModule}
    (hms : ∀ m ∈ ms, p.compiled m.filename = .ok m) (mapping : Table String Nat) :
    Sound p (d.advance a rest mapping ms) where
  ids_eq := by
    rw [ids_advance hq, issued_advance, h.ids_eq, List.range_eq_range', List.range_eq_range']
    simpa using List.range'_append_1 (s := 0) (m := d.numbering.issued) (n := ms.length)
  compiled := by
    intro m hm
    rw [found_advance hq] at hm
    rcases List.mem_append.1 hm with hm | hm
    · exact h.compiled m hm
    · exact hms m hm

theorem Sound.advance (h : Sound p d) {a : UnlinkedAsset} {rest : List UnlinkedAsset}
    (hq : d.queue = a :: rest) {paths : List String} {ms : List CompiledModule}
    (hms : p.compileAll paths = .ok ms) (mapping : Table String Nat) :
    Sound p (d.advance a rest mapping ms) :=
  h.advance_of_compiled hq (fun _ => Project.compiled_of_mem_compileAll hms) mapping

/-! ### Steps and runs -/

/-- A step is known once it is known what the specifiers of the asset expand to. -/
theorem step_eq {a : UnlinkedAsset} {rest : List UnlinkedAsset} (hq : d.queue = a :: rest)
    {paths : List String} {mapping : Table String Nat}
    (h : expand p dedupe a.filename Table.empty { d with queue := rest } a.dependencies =
      (p.compileAll paths).map fun ms => (mapping, pushAll { d with queue := rest } ms)) :
    step p dedupe d = (p.compileAll paths).map fun ms => d.advance a rest mapping ms := by
  unfold step
  rw [hq]
  dsimp only
  rw [h]
  rcases p.compileAll paths with e | ms
  · rfl
  · show Except.ok _ = Except.ok _
    simp [Discovery.advance]

theorem run_of_isEmpty (hq : d.queue = []) (n : Nat) :
    run p dedupe n d = .ok (some ⟨d.finished⟩) := by
  cases n <;> simp [run, hq]

theorem run_zero (hq : d.queue ≠ []) : run p dedupe 0 d = .ok none := by
  simp [run, hq]

theorem run_succ (hq : d.queue ≠ []) (n : Nat) :
    run p dedupe (n + 1) d = (step p dedupe d).bind (run p dedupe n) := by
  simp only [run, List.isEmpty_iff, hq, if_false]
  rcases step p dedupe d with e | d' <;> rfl

/-- What every step preserves holds where a run ends. -/
theorem exists_of_run {I : Discovery → Prop}
    (hstep : ∀ {d d'}, I d → d.queue ≠ [] → step p dedupe d = .ok d' → I d')
    {n : Nat} {g : AssetGraph} (hrun : run p dedupe n d = .ok (some g)) (hd : I d) :
    ∃ e, I e ∧ e.queue = [] ∧ g = ⟨e.finished⟩ := by
  induction n generalizing d with
  | zero =>
      by_cases hq : d.queue = []
      · rw [run_of_isEmpty hq] at hrun
        cases hrun
        exact ⟨d, hd, hq, rfl⟩
      · rw [run_zero hq] at hrun
        cases hrun
  | succ n ih =>
      by_cases hq : d.queue = []
      · rw [run_of_isEmpty hq] at hrun
        cases hrun
        exact ⟨d, hd, hq, rfl⟩
      · rw [run_succ hq] at hrun
        rcases hs : step p dedupe d with e | d'
        · rw [hs] at hrun
          cases hrun
        · rw [hs] at hrun
          exact ih hrun (hstep hd hq hs)

theorem graph?_of_error {entry : String} {e : BuildError} (h : p.compiled entry = .error e) :
    p.graph? dedupe entry = .error e := by
  unfold Project.graph?
  rw [start_eq, h, Except.map]

theorem graph?_of_ok {entry : String} {m : CompiledModule} (h : p.compiled entry = .ok m) :
    p.graph? dedupe entry = run p dedupe AssetGraph.limit (initial.push m) := by
  unfold Project.graph?
  rw [start_eq, h, Except.map]

/-- What holds at the start and is preserved by every step holds where a search ends. -/
theorem exists_of_graph? {I : Discovery → Prop} {entry : String}
    (hstart : ∀ {m}, p.compiled entry = .ok m → I (initial.push m))
    (hstep : ∀ {d d'}, I d → d.queue ≠ [] → step p dedupe d = .ok d' → I d')
    {g : AssetGraph} (h : p.graph? dedupe entry = .ok (some g)) :
    ∃ e, I e ∧ e.queue = [] ∧ g = ⟨e.finished⟩ := by
  rcases hm : p.compiled entry with e | m
  · rw [graph?_of_error hm] at h
    cases h
  · rw [graph?_of_ok hm] at h
    exact exists_of_run hstep h (hstart hm)

end Discovery

/-- A search whose outcome evaluates to a graph has that graph. -/
theorem exists_graph_of_isSome {x : Except BuildError (Option AssetGraph)}
    (h : x.toOption.join.isSome = true) : ∃ g, x = .ok (some g) := by
  rcases x with e | g | g
  · cases h
  · cases h
  · exact ⟨g, rfl⟩

/-- A search whose outcome evaluates to something about a graph has such a graph. -/
theorem exists_graph_of_map_eq {β : Type} {x : Except BuildError (Option AssetGraph)}
    {f : AssetGraph → β} {b : β} (h : x.toOption.join.map f = some b) :
    ∃ g, x = .ok (some g) ∧ f g = b := by
  rcases x with e | g | g
  · cases h
  · cases h
  · exact ⟨g, rfl, Option.some.inj h⟩

/-- A search whose outcome evaluates to a failure has that failure. -/
theorem exists_error_of_isOk_eq_false {x : Except BuildError (Option AssetGraph)}
    (h : x.isOk = false) : ∃ e, x = .error e := by
  rcases x with e | g
  · exact ⟨e, rfl⟩
  · cases h

end ModuleBundler
