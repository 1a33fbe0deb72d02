/-
ModuleBundler/Graph/Discovery.lean

Finding all assets that an entry needs.  Assets wait in a queue, first in and first
out.  The asset at its head is taken off, an asset is built for each of its
dependencies and put at the end of the queue, and the asset is linked.

Either every import builds an asset of its own, so that a file may have several, or
a file that has an asset already is not built again (`dedupe`).  In the first case the
queue never runs empty if imports form a cycle, so a run is told how many assets
it may take off.  The first failure ends the search.
-/
import ModuleBundler.Graph.Basic
import ModuleBundler.Location.Resolve

namespace ModuleBundler

/-- The state of a search. -/
structure Discovery where
  numbering : Numbering
  /-- The number of the asset last built for a file. -/
  built : Table String Nat
  queue : List UnlinkedAsset
  finished : List Asset
deriving Inhabited

namespace Discovery

variable (p : Project) (dedupe : Bool)

/-- The search before its first step, with the entry in the queue. -/
def start (entry : String) : Except BuildError Discovery :=
  let (built, numbering) := p.build entry .fresh
  match built with
  | .error e => .error e
  | .ok a => .ok ⟨numbering, Table.empty.put a.filename a.id, [a], []⟩

/-- Builds the asset of a file and puts it at the end of the queue.  Gives its number. -/
def enqueue (path : String) (d : Discovery) : Except BuildError (Nat × Discovery) :=
  let (built, numbering) := p.build path d.numbering
  match built with
  | .error e => .error e
  | .ok a => .ok (a.id, { d with
      numbering, built := d.built.put a.filename a.id, queue := d.queue ++ [a] })

/-- The number for a path: that of an asset there is, if those may be used again, or of a new
one. -/
def request (path : String) (d : Discovery) : Except BuildError (Nat × Discovery) :=
  match if dedupe then d.built.get? path else none with
  | some id => .ok (id, d)
  | none => enqueue p path d

/-- Finds the assets of specifiers as written in a file, and adds them to the mapping. -/
def expand (importer : String) (mapping : Table String Nat) (d : Discovery) :
    List String → Except BuildError (Table String Nat × Discovery)
  | [] => .ok (mapping, d)
  | s :: rest =>
      match request p dedupe (resolve importer s) d with
      | .error e => .error e
      | .ok (id, d) => expand importer (mapping.put s id) d rest

/-- Takes an asset off the queue, if there is one, and links it. -/
def step (d : Discovery) : Except BuildError Discovery :=
  match d.queue with
  | [] => .ok d
  | a :: rest =>
      match expand p dedupe a.filename Table.empty { d with queue := rest } a.dependencies with
      | .error e => .error e
      | .ok (mapping, d) => .ok { d with finished := d.finished ++ [a.link mapping] }

/-- Searches until the queue is empty; gives nothing if that takes too many steps. -/
def run : Nat → Discovery → Except BuildError (Option AssetGraph)
  | 0, d => .ok (if d.queue.isEmpty then some ⟨d.finished⟩ else none)
  | n + 1, d =>
      if d.queue.isEmpty then .ok (some ⟨d.finished⟩)
      else
        match step p dedupe d with
        | .error e => .error e
        | .ok d => run n d

end Discovery

/-- The most assets that a graph can have: their numbers have 32 bits. -/
def AssetGraph.limit : Nat := UInt32.size

/-- The graph of everything that an entry needs. -/
def Project.graph? (p : Project) (dedupe : Bool) (entry : String) :
    Except BuildError (Option AssetGraph) :=
  match Discovery.start p entry with
  | .error e => .error e
  | .ok d => d.run p dedupe AssetGraph.limit

end ModuleBundler
