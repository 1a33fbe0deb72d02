/-
ModuleBundler/Proofs/Graph/Accounting.lean

The numbers of a sequence of builds, between which files come and go.  What one call does to the
numbers is settled by whether its file can be read and is accepted by the grammar
(`Call.Does.issued`): a call that is accepted uses up one number, be its module compiled or not, and
any other leaves the numbers as they are.  From call to call the numbers only grow
(`pairwise_calls`), so no number is handed out twice.

Main result: `history_accounted`.
-/
import ModuleBundler.Proofs.Graph.Build

namespace ModuleBundler

/-- A file is inserted or replaced, or an asset is built for a target. -/
inductive Act where
  | insert (path source : String)
  | build (target : Target) (path : String)

/-- A call that builds an asset: the files and the numbers that it finds, what it answers, and the
numbers that it leaves. -/
structure Call where
  path : String
  sources : Sources
  before : Numbering
  answer : Except BuildError UnlinkedAsset
  after : Numbering

namespace Call

/-- The file of the call can be read, and it is accepted by the grammar. -/
def isAccepted (c : Call) : Bool :=
  match c.sources.read c.path with
  | .ok source => (Program.parse false source.toList).isOk
  | .error _ => false

/-- The number of the asset that the call answers. -/
def id? (c : Call) : Option Nat := c.answer.toOption.map (·.id)

end Call

/-- The calls of a sequence, which share their files and their numbers. -/
def calls : Sources → Numbering → List Act → List Call
  | _, _, [] => []
  | s, n, .insert path source :: rest => calls (s.insert path source) n rest
  | s, n, .build target path :: rest =>
      let (answer, after) := Project.build ⟨s.read, target⟩ path n
      ⟨path, s, n, answer, after⟩ :: calls s after rest

/-- The calls of a sequence whose numbers begin with zero. -/
def history (s : Sources) (acts : List Act) : List Call :=
  calls s .fresh acts

/-! ### One call -/

/-- Only a module that is there can fail to be compiled. -/
theorem SourceModule.exists_of_compile {m : SourceModule} {target : Target} {e : BuildError}
    (h : m.compile target = .error e) : ∃ ds, e = .uncompilable m.filename ds := by
  unfold compile at h
  split at h
  · cases h
  · cases h
    exact ⟨_, rfl⟩

theorem Project.build_of_error {p : Project} {path : String} {e : BuildError}
    (h : SourceModule.ofFile p.read path = .error e) (n : Numbering) :
    p.build path n = (.error e, n) := by
  unfold build
  rw [h]

theorem Project.build_of_ok {p : Project} {path : String} {m : SourceModule}
    (h : SourceModule.ofFile p.read path = .ok m) (n : Numbering) :
    p.build path n =
      ((m.compile p.target).map fun code => ⟨n.issued, m.filename, code, m.dependencies⟩,
        ⟨n.issued + 1⟩) := by
  unfold build
  rw [h]
  rcases hcode : m.compile p.target with e | code <;> simp only [Numbering.next, hcode] <;> rfl

theorem Sources.read_normalize (s : Sources) (path source : String) :
    s.read (normalize path) = .ok source ↔ s.read path = .ok source := by
  unfold read
  rw [normalize_normalize]
  split <;> simp

namespace Call

/-- What a call does: it answers an asset with the next number or tells why there is none, under the
normal form of the path, and it has used up a number exactly if its file was accepted. -/
inductive Does (c : Call) : Prop
  | unreadable {cause : ReadError} (haccepted : c.isAccepted = false)
      (hanswer : c.answer = .error (.unreadable (normalize c.path) cause))
      (hafter : c.after = c.before)
  | rejected {ds : List Diagnostic} (haccepted : c.isAccepted = false)
      (hanswer : c.answer = .error (.rejected (normalize c.path) ds)) (hafter : c.after = c.before)
  | uncompilable {ds : List Diagnostic} (haccepted : c.isAccepted = true)
      (hanswer : c.answer = .error (.uncompilable (normalize c.path) ds))
      (hafter : c.after = ⟨c.before.issued + 1⟩)
  | built {code : String} {dependencies : List String} (haccepted : c.isAccepted = true)
      (hanswer : c.answer = .ok ⟨c.before.issued, normalize c.path, code, dependencies⟩)
      (hafter : c.after = ⟨c.before.issued + 1⟩)

variable {c : Call}

theorem isAccepted_of_error {cause : ReadError}
    (h : c.sources.read (normalize c.path) = .error cause) : c.isAccepted = false := by
  unfold isAccepted
  rcases hread : c.sources.read c.path with cause' | source
  · rfl
  · rw [(c.sources.read_normalize c.path source).2 hread] at h
    cases h

theorem isAccepted_of_ok {source : String} (h : c.sources.read (normalize c.path) = .ok source) :
    c.isAccepted = (Program.parse false source.toList).isOk := by
  unfold isAccepted
  rw [(c.sources.read_normalize c.path source).1 h]

/-- The call of a build does one of four things. -/
theorem does_of_build {target : Target} {s : Sources} {n after : Numbering} {path : String}
    {answer : Except BuildError UnlinkedAsset}
    (h : Project.build ⟨s.read, target⟩ path n = (answer, after)) :
    Does ⟨path, s, n, answer, after⟩ := by
  -- a call can end in four ways: the text, the syntax and the emission may fail in this order
  rcases hread : s.read (normalize path) with cause | source
  · have hfile : SourceModule.ofFile s.read path = .error (.unreadable (normalize path) cause) := by
      simp only [SourceModule.ofFile, hread]
    rw [Project.build_of_error hfile] at h
    cases h
    exact .unreadable (isAccepted_of_error (c := ⟨path, s, n, _, _⟩) hread) rfl rfl
  have haccepted : ∀ answer after, isAccepted ⟨path, s, n, answer, after⟩ =
      (Program.parse false source.toList).isOk :=
    fun answer after => isAccepted_of_ok (c := ⟨path, s, n, answer, after⟩) hread
  rcases hparse : Program.parse false source.toList with ds | parsed
  · have hfile : SourceModule.ofFile s.read path = .error (.rejected (normalize path) ds) := by
      simp only [SourceModule.ofFile, SourceModule.ofText, hread, hparse]
    rw [hparse] at haccepted
    rw [Project.build_of_error hfile] at h
    cases h
    exact .rejected (haccepted _ _) rfl rfl
  · obtain ⟨m, hfile⟩ : ∃ m, SourceModule.ofFile s.read path = .ok m := by
      simp only [SourceModule.ofFile, SourceModule.ofText, hread, hparse]
      exact ⟨_, rfl⟩
    rw [hparse] at haccepted
    have hname := Project.filename_of_ofFile hfile
    rw [Project.build_of_ok hfile, hname] at h
    dsimp only at h
    rcases hcode : m.compile target with e | code
    · obtain ⟨ds, rfl⟩ := SourceModule.exists_of_compile hcode
      rw [hcode, hname] at h
      cases h
      exact .uncompilable (haccepted _ _) rfl rfl
    · rw [hcode] at h
      cases h
      exact .built (haccepted _ _) rfl rfl

theorem id?_eq_some {id : Nat} : c.id? = some id ↔ ∃ a, c.answer = .ok a ∧ a.id = id := by
  unfold id?
  rcases c.answer with e | a <;> simp [Except.toOption]

/-- A call is counted if it is accepted. -/
theorem Does.issued (h : c.Does) :
    c.after.issued = c.before.issued + if c.isAccepted then 1 else 0 := by
  cases h with
  | unreadable haccepted _ hafter => rw [haccepted, hafter]; rfl
  | rejected haccepted _ hafter => rw [haccepted, hafter]; rfl
  | uncompilable haccepted _ hafter => rw [haccepted, hafter]; rfl
  | built haccepted _ hafter => rw [haccepted, hafter]; rfl

/-- An asset has the number that was next, and the normal form of the path. -/
theorem Does.ok (h : c.Does) {a : UnlinkedAsset} (ha : c.answer = .ok a) :
    c.isAccepted = true ∧ a.id = c.before.issued ∧ c.after = ⟨c.before.issued + 1⟩ ∧
      a.filename = normalize c.path := by
  cases h with
  | unreadable _ hanswer _ => rw [hanswer] at ha; cases ha
  | rejected _ hanswer _ => rw [hanswer] at ha; cases ha
  | uncompilable _ hanswer _ => rw [hanswer] at ha; cases ha
  | built haccepted hanswer hafter =>
      rw [hanswer] at ha
      cases ha
      exact ⟨haccepted, rfl, hafter, rfl⟩

/-- An error is told under the normal form of the path. -/
theorem Does.error_path (h : c.Does) {e : BuildError} (he : c.answer = .error e) :
    e.path = normalize c.path := by
  cases h with
  | unreadable _ hanswer _ => rw [hanswer] at he; cases he; rfl
  | rejected _ hanswer _ => rw [hanswer] at he; cases he; rfl
  | uncompilable _ hanswer _ => rw [hanswer] at he; cases he; rfl
  | built _ hanswer _ => rw [hanswer] at he; cases he

/-- A call that is not accepted is one that fails before its module is compiled. -/
theorem Does.isAccepted_eq_false (h : c.Does) :
    c.isAccepted = false ↔
      ∃ e, c.answer = .error e ∧ ∀ path ds, e ≠ .uncompilable path ds := by
  cases h with
  | unreadable haccepted hanswer _ => simp [haccepted, hanswer]
  | rejected haccepted hanswer _ => simp [haccepted, hanswer]
  | uncompilable haccepted hanswer _ => simp [haccepted, hanswer]
  | built haccepted hanswer _ => simp [haccepted, hanswer]

theorem Does.after_eq_before (h : c.Does) (haccepted : c.isAccepted = false) :
    c.after = c.before :=
  match h with
  | .unreadable _ _ hafter | .rejected _ _ hafter => hafter
  | .uncompilable htrue _ _ | .built htrue _ _ => Bool.noConfusion (htrue.symm.trans haccepted)

/-- A module that cannot be compiled has been given a number. -/
theorem Does.spent (h : c.Does) {path : String} {ds : List Diagnostic}
    (he : c.answer = .error (.uncompilable path ds)) :
    c.isAccepted = true ∧ c.after = ⟨c.before.issued + 1⟩ := by
  cases h with
  | unreadable _ hanswer _ => rw [hanswer] at he; cases he
  | rejected _ hanswer _ => rw [hanswer] at he; cases he
  | uncompilable haccepted _ hafter => exact ⟨haccepted, hafter⟩
  | built _ hanswer _ => rw [hanswer] at he; cases he

end Call

/-! ### All calls -/

variable {s : Sources} {n : Numbering} {acts : List Act}

theorem does_of_mem_calls {c : Call} (h : c ∈ calls s n acts) : c.Does := by
  fun_induction calls s n acts with
  | case1 => cases h
  | case2 s n path source acts ih => exact ih h
  | case3 s n target path acts answer after hbuild ih =>
      rcases List.mem_cons.1 h with rfl | h
      · exact Call.does_of_build hbuild
      · exact ih h

/-- A call finds the numbers that the accepted calls before it have used up. -/
theorem issued_before {i : Nat} {c : Call} (h : (calls s n acts)[i]? = some c) :
    c.before.issued = n.issued + ((calls s n acts).take i).countP Call.isAccepted := by
  fun_induction calls s n acts generalizing i with
  | case1 => simp at h
  | case2 s n path source acts ih => exact ih h
  | case3 s n target path acts answer after hbuild ih =>
      cases i with
      | zero =>
          obtain rfl := Option.some.inj h
          rfl
      | succ i =>
          have hissued := (Call.does_of_build hbuild).issued
          rw [ih h, List.take_succ_cons, List.countP_cons]
          dsimp only at hissued ⊢
          omega

theorem issued_after {i : Nat} {c : Call} (h : (calls s n acts)[i]? = some c) :
    c.after.issued = n.issued + ((calls s n acts).take (i + 1)).countP Call.isAccepted := by
  rw [(does_of_mem_calls (List.mem_of_getElem? h)).issued, issued_before h, List.take_add_one, h,
    List.countP_append, Option.toList_some, List.countP_singleton, Nat.add_assoc]

/-- From call to call the numbers only grow. -/
theorem pairwise_calls :
    (calls s n acts).Pairwise fun c d => c.after.issued ≤ d.before.issued := by
  refine List.pairwise_iff_getElem.2 fun i j hi hj hij => ?_
  rw [issued_after (List.getElem?_eq_getElem hi), issued_before (List.getElem?_eq_getElem hj)]
  exact Nat.add_le_add_left ((List.take_sublist_take_left hij).countP_le) _

/-- Of two calls one comes after the other, or they are the same. -/
theorem after_le_or {c d : Call} (hc : c ∈ calls s n acts) (hd : d ∈ calls s n acts) :
    c = d ∨ c.after.issued ≤ d.before.issued ∨ d.after.issued ≤ c.before.issued := by
  obtain ⟨i, hi, rfl⟩ := List.getElem_of_mem hc
  obtain ⟨j, hj, rfl⟩ := List.getElem_of_mem hd
  have hgrow := List.pairwise_iff_getElem.1 (@pairwise_calls s n acts)
  rcases Nat.lt_trichotomy i j with hlt | rfl | hlt
  · exact .inr (.inl (hgrow i j hi hj hlt))
  · exact .inl rfl
  · exact .inr (.inr (hgrow j i hj hi hlt))

theorem pairwise_ids : ((calls s n acts).filterMap Call.id?).Pairwise (· < ·) := by
  refine List.pairwise_filterMap.2 (pairwise_calls.imp_of_mem fun {c d} hc hd hle m hm k hk => ?_)
  obtain ⟨a, ha, rfl⟩ := Call.id?_eq_some.1 hm
  obtain ⟨b, hb, rfl⟩ := Call.id?_eq_some.1 hk
  obtain ⟨-, hid, hafter, -⟩ := (does_of_mem_calls hc).ok ha
  obtain ⟨-, hid', -, -⟩ := (does_of_mem_calls hd).ok hb
  rw [hafter] at hle
  dsimp only at hle
  omega

/-- No two calls take the same number. -/
theorem eq_of_issued_eq {c d : Call} (hc : c ∈ calls s n acts) (hd : d ∈ calls s n acts)
    (hcounted : c.isAccepted = true) (hcounted' : d.isAccepted = true)
    (hissued : d.before.issued = c.before.issued) : d = c := by
  have hafter := (does_of_mem_calls hc).issued
  have hafter' := (does_of_mem_calls hd).issued
  rw [hcounted, if_pos rfl] at hafter
  rw [hcounted', if_pos rfl] at hafter'
  rcases after_le_or hc hd with rfl | hle | hle
  · rfl
  · omega
  · omega

/-- The number of a module that could not be compiled is the number of no asset. -/
theorem id?_ne_of_uncompilable {c d : Call} (hc : c ∈ calls s n acts)
    (hd : d ∈ calls s n acts) {path : String} {ds : List Diagnostic}
    (he : c.answer = .error (.uncompilable path ds)) : d.id? ≠ some c.before.issued := by
  intro hid
  obtain ⟨a, ha, hissued⟩ := Call.id?_eq_some.1 hid
  obtain ⟨hcounted, hnumber, -, -⟩ := (does_of_mem_calls hd).ok ha
  obtain rfl := eq_of_issued_eq hc hd ((does_of_mem_calls hc).spent he).1 hcounted
    (hnumber.symm.trans hissued)
  rw [he] at ha
  cases ha

/-- **Numbers are accounted for.**  Whatever is built, for whatever targets, and inserted in
whatever order: the assets have increasing numbers; at each call, as many numbers are used up as
calls before it had files that could be read and are accepted by the grammar; a call whose file
could not be read, or is not accepted, leaves the numbers as they are; one whose module cannot be
compiled uses up a number that no other call takes and no asset has; and each asset goes by the
normal form of the path that was asked for, as does each error. -/
theorem history_accounted (s : Sources) (acts : List Act) :
    ((history s acts).filterMap Call.id?).Pairwise (· < ·) ∧
    (∀ i c, (history s acts)[i]? = some c →
      c.before.issued = ((history s acts).take i).countP Call.isAccepted ∧
        c.after.issued = ((history s acts).take (i + 1)).countP Call.isAccepted) ∧
    (∀ c ∈ history s acts,
      (∀ a, c.answer = .ok a → c.isAccepted = true ∧ a.id = c.before.issued ∧
        c.after = ⟨c.before.issued + 1⟩ ∧ a.filename = normalize c.path) ∧
      (∀ e, c.answer = .error e → e.path = normalize c.path) ∧
      (c.isAccepted = false ↔ ∃ e, c.answer = .error e ∧ ∀ path ds, e ≠ .uncompilable path ds) ∧
      (c.isAccepted = false → c.after = c.before) ∧
      (∀ path ds, c.answer = .error (.uncompilable path ds) →
        c.isAccepted = true ∧ c.after = ⟨c.before.issued + 1⟩ ∧
          ∀ d ∈ history s acts, d.id? ≠ some c.before.issued ∧
            (d.isAccepted = true → d.before.issued = c.before.issued → d = c))) := by
  refine ⟨pairwise_ids, fun i c hc => ?_, fun c hc => ?_⟩
  · exact ⟨(issued_before hc).trans (Nat.zero_add _), (issued_after hc).trans (Nat.zero_add _)⟩
  · have hdoes := does_of_mem_calls hc
    refine ⟨fun a => hdoes.ok, fun e => hdoes.error_path, hdoes.isAccepted_eq_false,
      hdoes.after_eq_before, fun path ds he => ?_⟩
    obtain ⟨hcounted, hafter⟩ := hdoes.spent he
    exact ⟨hcounted, hafter, fun d hd =>
      ⟨id?_ne_of_uncompilable hc hd he, eq_of_issued_eq hc hd hcounted⟩⟩

/-- Builds that fail in each of the three ways, among two that do not. -/
def mixed : List Act :=
  [.build ⟨.es2015, []⟩ "./missing.js", .insert "a.js" "import './b.js'",
    .build ⟨.es2015, []⟩ "x/../a.js", .insert "b.js" "import from;", .build ⟨.es2015, []⟩ "b.js",
    .insert "c.js" "await 1", .build ⟨.es2015, []⟩ "c.js", .insert "b.js" "f();",
    .build ⟨.next, []⟩ "./b.js"]

theorem history_accounted_mixed :
    (history (.ofList []) mixed).map (fun c => (c.isAccepted, c.after.issued, c.id?)) =
      [(false, 0, none), (true, 1, some 0), (false, 1, none), (true, 2, none),
        (true, 3, some 2)] ∧
    ((history (.ofList []) mixed).filterMap Call.id?).Pairwise (· < ·) :=
  ⟨by decide +kernel, (history_accounted (.ofList []) mixed).1⟩

end ModuleBundler
