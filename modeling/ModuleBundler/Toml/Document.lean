/-
ModuleBundler/Toml/Document.lean

The table that a TOML text means.  Its lines are gone through in order: a pair adds an
entry to the table of the last header, and a header adds a table.  A key is defined
once; a table that was only named on the way to another may be defined later.
-/
import ModuleBundler.Toml.Word

namespace ModuleBundler.Toml

/-- A part of a key, with its place. -/
structure Step where
  name : String
  place : Stretch
deriving DecidableEq, Inhabited, Repr

namespace Document

/-- A change of a table, which may fail. -/
abbrev Change := List Entry → Except Error (List Entry)

def duplicate {α : Type} (s : Step) : Except Error α := .error ⟨s.place, .duplicateKey⟩

/-- Changes the entry of a name, or adds one. -/
def update (name : String) (change : Option Entry → Except Error Entry) : Change
  | [] => do return [← change none]
  | e :: rest =>
      if e.name = name then do return (← change (some e)) :: rest
      else do return e :: (← update name change rest)

/-- An entry with another value. -/
def Entry.with (e : Entry) (v : Value) : Entry := { e with value := v }

/-- Adds a value under a key. -/
def insert (place : Stretch) (v : Value) : List Step → Change
  | [], es => .ok es
  | [s], es =>
      update s.name (fun
        | none => .ok ⟨s.name, s.place, place, v⟩
        | some _ => duplicate s) es
  | s :: rest, es =>
      update s.name (fun
        | none => do
            return ⟨s.name, s.place, s.place, .table .dotted (← insert place v rest [])⟩
        | some e =>
            match e.value with
            | .table .dotted inner => do return Entry.with e (.table .dotted (← insert place v rest inner))
            | .table _ _ => duplicate s
            | w => .error ⟨s.place, .extendsValue w.type⟩) es

/-- Changes the last of several tables. -/
def changeLast (change : Change) : List (List Entry) → Except Error (List (List Entry))
  | [] => do return [← change []]
  | [t] => do return [← change t]
  | t :: rest => do return t :: (← changeLast change rest)

/-- Changes the table that headers lead to. -/
def atPath (change : Change) : List Step → Change
  | [], es => change es
  | s :: rest, es =>
      update s.name (fun
        | none => do return ⟨s.name, s.place, s.place, .table .path (← atPath change rest [])⟩
        | some e =>
            match e.value with
            | .table .inline _ => duplicate s
            | .table o inner => do return Entry.with e (.table o (← atPath change rest inner))
            | .tables ts => do return Entry.with e (.tables (← changeLast (atPath change rest) ts))
            | _ => duplicate s) es

/-- Opens the table of a header, which stands where its header stands. -/
def openTable (isArray : Bool) (place : Stretch) (s : Step) : Change :=
  update s.name fun
    | none => .ok ⟨s.name, s.place, place, if isArray then .tables [[]] else .table .header []⟩
    | some e =>
        match isArray, e.value with
        | false, .table .path inner => .ok { Entry.with e (.table .header inner) with place }
        | true, .tables ts => .ok (Entry.with e (.tables (ts ++ [[]])))
        | _, _ => duplicate s

/-! ### Meanings -/

def key (ws : List Written) : Except Error (List Step) :=
  ws.mapM fun w => do return ⟨← Decode.key w, w.place⟩

def placeOf : WrittenValue → Stretch
  | .single w => w.place
  | .array p _ | .inline p _ => p

mutual

def value : WrittenValue → Except Error Value
  | .single w => Decode.single w
  | .array _ vs => do return .array (← values vs)
  | .inline _ ms => do return .table .inline (← members [] ms)

def values : List WrittenValue → Except Error (List Value)
  | [] => .ok []
  | v :: rest => do
      let x ← value v
      return x :: (← values rest)

def members (es : List Entry) : List (List Written × WrittenValue) → Except Error (List Entry)
  | [] => .ok es
  | (k, v) :: rest => do
      let steps ← key k
      let x ← value v
      members (← insert (placeOf v) x steps es) rest

end

/-- The table so far, and the header whose table is open. -/
structure State where
  entries : List Entry := []
  path : List Step := []

/-- Goes on by a line. -/
def line (d : State) : Line → Except Error State
  | .pair k v => do
      let steps ← key k
      let x ← value v
      return { d with entries := ← atPath (insert (placeOf v) x steps) d.path d.entries }
  | .header isArray place k => do
      let steps ← key k
      match steps.getLast? with
      | some last => return ⟨← atPath (openTable isArray place last) steps.dropLast d.entries, steps⟩
      | none => return d

end Document

/-- The table that a text means. -/
def table (text : String) : Except Error (List Entry) := do
  let d ← (← Line.ofText text.toList).foldlM Document.line {}
  return d.entries

end ModuleBundler.Toml
