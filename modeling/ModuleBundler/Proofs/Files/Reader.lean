/-
ModuleBundler/Proofs/Files/Reader.lean

What a reader that is given its texts answers in the long run.  A session is a list of requests,
each of which gives the reader a text or asks for one, under paths that are spelled in any way
(`Sources.answers`).  A path stands for the place that it leads to: two paths are alike if they lead
to the same place from every working directory (`LeadsAlike`), and this is how texts are kept apart
(`normalize_eq_iff`).

A request that gives a text to the place of a path decides what is read there
(`read_insert_of_leadsAlike`), and any other leaves it as it was (`read_serve_of_not_fills`).  So of
the requests of a session only those count that fill the place; of these one is the last
(`lastInserted_or`).

Main result: `answers_of_requests`.
-/
import ModuleBundler.Files.Reader
import ModuleBundler.Proofs.Location.Destination

namespace ModuleBundler

/-! ### Paths that are alike -/

/-- The paths lead to the same place from every working directory. -/
def LeadsAlike (p q : String) : Prop :=
  ∀ cwd, (∀ name ∈ cwd, Segment.IsName name) → destination cwd p = destination cwd q

theorem normalize_eq_iff {p q : String} : normalize p = normalize q ↔ LeadsAlike p q := by
  constructor
  · intro h cwd _
    rw [← destination_normalize cwd p, h, destination_normalize cwd q]
  · intro h
    -- directories of one name are enough to tell the locations apart
    have hname : Segment.IsName ['a'] := ⟨by decide, by decide, by decide, by decide⟩
    refine congrArg Location.text (ofText_eq_of_destination ['a'] fun depth => ?_)
    apply h
    intro s hs
    rw [List.eq_of_mem_replicate hs]
    exact hname

instance (p q : String) : Decidable (LeadsAlike p q) := decidable_of_iff _ normalize_eq_iff

/-! ### Sessions -/

/-- A text is given under a path, or asked for. -/
inductive Request where
  | insert (path source : String)
  | read (path : String)
deriving DecidableEq, Repr

/-- The request gives a text to the place that the path leads to. -/
def Request.Fills (path : String) : Request → Prop
  | insert other _ => LeadsAlike other path
  | read _ => False

namespace Sources

/-- The reader after a request, and what it answers if it was asked. -/
def serve (s : Sources) : Request → Sources × Option (Except ReadError String)
  | .insert path source => (s.insert path source, none)
  | .read path => (s, some (s.read path))

/-- The reader after all requests. -/
def after (s : Sources) (requests : List Request) : Sources :=
  requests.foldl (fun s r => (s.serve r).1) s

/-- What a reader answers, request by request. -/
def answers (s : Sources) : List Request → List (Option (Except ReadError String))
  | [] => []
  | r :: rest => (s.serve r).2 :: answers (s.serve r).1 rest

/-- The text is the last one that was given to the place of the path. -/
def LastInserted (requests : List Request) (path source : String) : Prop :=
  ∃ front other back, requests = front ++ .insert other source :: back ∧
    LeadsAlike other path ∧ ∀ r ∈ back, ¬ r.Fills path

variable {s t : Sources} {path source : String} {requests : List Request} {r : Request}

theorem after_append (s : Sources) (front back : List Request) :
    s.after (front ++ back) = (s.after front).after back := List.foldl_append

theorem answers_append (s : Sources) (front back : List Request) :
    s.answers (front ++ back) = s.answers front ++ (s.after front).answers back := by
  induction front generalizing s with
  | nil => rfl
  | cons r front ih => exact congrArg ((s.serve r).2 :: ·) (ih (s.serve r).1)

theorem length_answers (s : Sources) (requests : List Request) :
    (s.answers requests).length = requests.length := by
  induction requests generalizing s with
  | nil => rfl
  | cons r rest ih => exact congrArg (· + 1) (ih (s.serve r).1)

/-- A request finds the reader as the requests before it have left it. -/
theorem getElem?_answers (s : Sources) (front back : List Request) (i : Nat) :
    (s.answers (front ++ back))[front.length + i]? =
      back[i]?.map fun r => ((s.after (front ++ back.take i)).serve r).2 := by
  rw [answers_append, ← length_answers s front, List.getElem?_append_right (Nat.le_add_right _ i),
    Nat.add_sub_cancel_left]
  simp only [after_append]
  generalize s.after front = s
  induction back generalizing s i with
  | nil => rfl
  | cons r back ih =>
      cases i with
      | zero => rfl
      | succ i => exact ih i (s.serve r).1

/-! ### One request -/

theorem read_congr (h : s.files.get? (normalize path) = t.files.get? (normalize path)) :
    s.read path = t.read path := by
  unfold read
  rw [h]

/-- A text is read under its own path only. -/
theorem read_insert_of_ne {file : String} (source : String)
    (h : normalize file ≠ normalize path) : (s.insert path source).read file = s.read file := by
  refine read_congr ?_
  show (s.files.put (normalize path) source).get? (normalize file) = _
  rw [Table.get?_put, if_neg h]

/-- A text is read under the paths that are alike to its own. -/
theorem read_insert_of_leadsAlike {other : String} (h : LeadsAlike other path) (s : Sources)
    (source : String) : (s.insert other source).read path = .ok source := by
  have hget : (s.insert other source).files.get? (normalize path) = some source := by
    show (s.files.put (normalize other) source).get? (normalize path) = _
    rw [Table.get?_put, if_pos (normalize_eq_iff.2 h).symm]
  unfold read
  rw [hget]

/-- A request that does not fill a place leaves what is read there as it was. -/
theorem read_serve_of_not_fills (h : ¬ r.Fills path) (s : Sources) :
    (s.serve r).1.read path = s.read path := by
  cases r with
  | insert other source =>
      exact read_insert_of_ne source fun heq => h (normalize_eq_iff.1 heq.symm)
  | read other => rfl

/-- Whatever a request does, it does to all readers that answer alike. -/
theorem read_serve_congr (h : s.read path = t.read path) (r : Request) :
    (s.serve r).1.read path = (t.serve r).1.read path := by
  by_cases hr : r.Fills path
  · cases r with
    | insert other source =>
        calc (s.insert other source).read path
            = .ok source := read_insert_of_leadsAlike hr s source
          _ = (t.insert other source).read path := (read_insert_of_leadsAlike hr t source).symm
    | read other => exact absurd hr id
  · rw [read_serve_of_not_fills hr, read_serve_of_not_fills hr, h]

/-! ### All requests -/

theorem read_after_congr (h : s.read path = t.read path) (requests : List Request) :
    (s.after requests).read path = (t.after requests).read path := by
  induction requests generalizing s t with
  | nil => exact h
  | cons r rest ih => exact ih (read_serve_congr h r)

theorem read_after_of_forall_not_fills (h : ∀ r ∈ requests, ¬ r.Fills path) (s : Sources) :
    (s.after requests).read path = s.read path := by
  induction requests generalizing s with
  | nil => rfl
  | cons r rest ih =>
      calc ((s.serve r).1.after rest).read path
          = (s.serve r).1.read path := ih (fun t ht => h t (List.mem_cons_of_mem r ht)) _
        _ = s.read path := read_serve_of_not_fills (h r List.mem_cons_self) s

/-- Of the texts that are given to a place one is the last. -/
theorem lastInserted_or (requests : List Request) (path : String) :
    (∃ source, LastInserted requests path source) ∨ ∀ r ∈ requests, ¬ r.Fills path := by
  induction requests with
  | nil => exact .inr fun r hr => absurd hr List.not_mem_nil
  | cons r rest ih =>
      -- the first request only counts if the place is filled by none of the others
      rcases ih with ⟨source, front, other, back, rfl, halike, hback⟩ | hrest
      · exact .inl ⟨source, r :: front, other, back, rfl, halike, hback⟩
      by_cases hr : r.Fills path
      · cases r with
        | insert other source => exact .inl ⟨source, [], other, rest, rfl, hr, hrest⟩
        | read other => exact absurd hr id
      · exact .inr (List.forall_mem_cons.2 ⟨hr, hrest⟩)

theorem LastInserted.exists_fills (h : LastInserted requests path source) :
    ∃ r ∈ requests, r.Fills path := by
  obtain ⟨front, other, back, rfl, halike, -⟩ := h
  exact ⟨.insert other source, List.mem_append_right front List.mem_cons_self, halike⟩

theorem LastInserted.read_after (h : LastInserted requests path source) (s : Sources) :
    (s.after requests).read path = .ok source := by
  obtain ⟨front, other, back, rfl, halike, hback⟩ := h
  rw [after_append]
  calc (((s.after front).insert other source).after back).read path
      = ((s.after front).insert other source).read path :=
        read_after_of_forall_not_fills hback _
    _ = .ok source := read_insert_of_leadsAlike halike _ source

/-- A reader without texts has, after the requests, the last text of each place that was filled. -/
theorem read_after_eq_ok_iff :
    (after default requests).read path = .ok source ↔ LastInserted requests path source := by
  constructor
  · intro hread
    rcases lastInserted_or requests path with ⟨last, hlast⟩ | hnone
    · rw [hlast.read_after] at hread
      obtain rfl := Except.ok.inj hread
      exact hlast
    · rw [read_after_of_forall_not_fills hnone] at hread
      cases hread
  · exact fun h => h.read_after default

theorem read_after_eq_error_iff {e : ReadError} :
    (after default requests).read path = .error e ↔
      e = .absent path ∧ ∀ r ∈ requests, ¬ r.Fills path := by
  rcases lastInserted_or requests path with ⟨last, hlast⟩ | hnone
  · obtain ⟨r, hr, hfills⟩ := hlast.exists_fills
    rw [hlast.read_after]
    constructor
    · intro h
      cases h
    · exact fun h => absurd hfills (h.2 r hr)
  · rw [read_after_of_forall_not_fills hnone]
    show Except.error (ReadError.absent path) = Except.error e ↔ _
    rw [Except.error.injEq, eq_comm]
    exact (and_iff_left hnone).symm

/-- **A read gives the last text of its place.**  In a session with a reader that has no texts at
first, where a path is asked for after some requests: the answer is a text exactly if one of these
gave a text to the place that the path leads to, and then it is the last of these texts; otherwise
the answer is that there is no file under the path as it was asked for.  A request that gives no
text to the place of a path makes no difference to the later reads of this path, and a read makes no
difference to any other answer. -/
theorem answers_of_requests (front back : List Request) :
    (∀ path, ∃ answer,
      (answers default (front ++ .read path :: back))[front.length]? = some (some answer) ∧
        ((∃ source, answer = .ok source) ↔ ∃ r ∈ front, r.Fills path) ∧
        (∀ source, answer = .ok source ↔ LastInserted front path source) ∧
        (∀ e, answer = .error e ↔ e = .absent path ∧ ∀ r ∈ front, ¬ r.Fills path) ∧
        (ReadError.absent path).message = "no such file: " ++ path) ∧
    (∀ r i path, back[i]? = some (.read path) → ¬ r.Fills path →
      (answers default (front ++ r :: back))[front.length + (i + 1)]? =
        (answers default (front ++ back))[front.length + i]?) ∧
    ∀ path, (answers default (front ++ .read path :: back)).eraseIdx front.length =
      answers default (front ++ back) := by
  refine ⟨fun path => ⟨(after default front).read path, ?_, ?_, ?_, ?_, rfl⟩, ?_, fun path => ?_⟩
  · have hget := getElem?_answers default front (.read path :: back) 0
    rwa [List.take_zero, List.append_nil] at hget
  · constructor
    · rintro ⟨source, hread⟩
      exact (read_after_eq_ok_iff.1 hread).exists_fills
    · rintro ⟨r, hr, hfills⟩
      rcases lastInserted_or front path with ⟨source, hlast⟩ | hnone
      · exact ⟨source, hlast.read_after default⟩
      · exact absurd hfills (hnone r hr)
  · exact fun source => read_after_eq_ok_iff
  · exact fun e => read_after_eq_error_iff
  · intro r i path hread hr
    -- the requests between may fill the place, but they do so with `r` and without it
    have hsame : (after default (front ++ r :: back.take i)).read path =
        (after default (front ++ back.take i)).read path := by
      rw [after_append, after_append]
      exact read_after_congr (read_serve_of_not_fills hr _) _
    rw [getElem?_answers, getElem?_answers, List.getElem?_cons_succ, hread, List.take_succ_cons]
    exact congrArg (fun answer => some (some answer)) hsame
  · rw [answers_append, answers_append, ← length_answers default front,
      List.eraseIdx_append_of_length_le (Nat.le_refl _), Nat.sub_self]
    -- a read hands on the reader that it finds
    rfl

/-- A session in which one file goes by many names, and other files by similar ones. -/
def respelled : List Request :=
  [.insert "./src/a.js" "1", .read "src/lib/../a.js", .insert "/src/a.js" "2",
    .insert "../src/a.js" "3", .read "/src//a.js/.", .insert "x/../src/./a.js" "4",
    .insert "/../r" "5", .read "/src/../../r"]

theorem answers_of_respelled :
    answers default (respelled ++ [.read "src/a.js"]) =
      [none, some (.ok "1"), none, none, some (.ok "2"), none, none, some (.ok "5"),
        some (.ok "4")] ∧
      LastInserted respelled "src/a.js" "4" ∧ (∀ r ∈ respelled, ¬ r.Fills "../r") ∧
      ¬ LeadsAlike "../src/a.js" "src//a.js" ∧
      (answers default (respelled ++ [.insert "../src/a.js" "6", .read "src//a.js"]))[9]? =
        (answers default (respelled ++ [.read "src//a.js"]))[8]? := by
  refine ⟨rfl, ?_, ?_, ?_⟩
  · obtain ⟨answer, hget, -, hok, -⟩ := (answers_of_requests respelled []).1 "src/a.js"
    have hlast : (answers default (respelled ++ [.read "src/a.js"]))[respelled.length]? =
        some (some (.ok "4")) := rfl
    rw [hlast] at hget
    exact (hok "4").1 (Option.some.inj (Option.some.inj hget)).symm
  · obtain ⟨answer, hget, -, -, herror, -⟩ := (answers_of_requests respelled []).1 "../r"
    have hlast : (answers default (respelled ++ [.read "../r"]))[respelled.length]? =
        some (some (.error (.absent "../r"))) := rfl
    rw [hlast] at hget
    exact ((herror _).1 (Option.some.inj (Option.some.inj hget)).symm).2
  · have helse : ¬ LeadsAlike "../src/a.js" "src//a.js" := by decide +kernel
    exact ⟨helse, (answers_of_requests respelled [.read "src//a.js"]).2.1
      (.insert "../src/a.js" "6") 0 "src//a.js" rfl helse⟩

end Sources

end ModuleBundler
