/-
ModuleBundler/Files/System.lean

The files of a machine: directories, names of files, links and devices, by their names from
the root down.  A file can have more than one name, so what it holds is kept apart, by its
number.

A path is looked up segment by segment, from the root or from the working directory, and
every segment but the last must be a directory.  A link stands for the path that it holds,
seen from the directory that it is in.

Whatever there is, the machine may refuse what is to be done with it (`Access`): for want of
a permission, or because nothing can be written there at all.
-/
import ModuleBundler.Config.Load
import ModuleBundler.Location.Resolve

namespace ModuleBundler

/-- Where a device puts a text that is written to it. -/
inductive Sink where
  | nowhere
  /-- What the program prints. -/
  | output
  /-- What the program complains of. -/
  | complaint
deriving DecidableEq, Inhabited, Repr

/-- Something that is read and written under a name and keeps nothing. -/
structure Device where
  /-- What is read from it. -/
  source : Except SystemError ByteArray
  sink : Except SystemError Sink

/-- A device that is at its end. -/
def Device.ended (sink : Sink) : Device := ⟨.ok .empty, .ok sink⟩

inductive FileNode where
  /-- A name of the file with a number. -/
  | file (number : Nat)
  | directory
  | link (target : List Char)
  | device (d : Device)
deriving Inhabited

/-- What can be refused. -/
inductive Access where
  /-- To look for a name in a directory. -/
  | search (names : List (List Char))
  /-- To add a name to a directory. -/
  | add (names : List (List Char))
  /-- To read the file with a number. -/
  | read (number : Nat)
  | write (number : Nat)

/-- The files of a machine. -/
structure FileSystem where
  /-- Everything but the root, by its names from the root down. -/
  nodes : Table (List (List Char)) FileNode
  /-- What files hold, by their numbers. -/
  contents : Table Nat ByteArray
  /-- The working directory. -/
  home : List (List Char)
  refusal : Access → Option SystemError
deriving Inhabited

/-- What a path leads to.  The path may end with a separator after the last name. -/
inductive Spot where
  | found (names : List (List Char)) (node : FileNode) (separator : Bool)
  /-- A name in a directory that has nothing of that name. -/
  | missing (names : List (List Char)) (separator : Bool)

namespace FileSystem

def node? (fs : FileSystem) (names : List (List Char)) : Option FileNode :=
  if names.isEmpty then some .directory else fs.nodes.get? names

/-- What a file holds. -/
def content (fs : FileSystem) (number : Nat) : ByteArray := (fs.contents.get? number).getD .empty

/-- Asks for something that can be refused. -/
def ask (fs : FileSystem) (a : Access) : Except SystemError Unit :=
  (fs.refusal a).elim (.ok ()) .error

/-- The longest name that a file can have, in bytes. -/
def nameLimit : Nat := 255

/-- The longest path that is looked up, in bytes. -/
def pathLimit : Nat := 4095

/-- The number of links that a look-up follows. -/
def linkLimit : Nat := 40

def bytes (s : List Char) : Nat := s.foldl (fun n c => n + c.utf8Size) 0

/-- The directory that a path begins in, seen from a directory. -/
def origin (names : List (List Char)) (path : List Char) : List (List Char) :=
  if path.head? = some '/' then [] else names

/-- Looks up segments from a directory on.  A link is followed as it is given, but for one at the
end that is looked for itself. -/
def lookFrom (fs : FileSystem) (itself : Bool)
    (follow : List (List Char) → List (List Char) → Except SystemError Spot)
    (names : List (List Char)) : List (List Char) → Except SystemError Spot
  | [] => .ok (.found names .directory false)
  | s :: rest =>
      if s.isEmpty then fs.lookFrom itself follow names rest
      else match fs.ask (.search names) with
      | .error e => .error e
      | .ok () =>
      if s = ['.'] then fs.lookFrom itself follow names rest
      else if s = ['.', '.'] then fs.lookFrom itself follow names.dropLast rest
      else if nameLimit < bytes s then .error .nameTooLong
      else
        let ends := rest.all List.isEmpty
        match fs.node? (names ++ [s]) with
        | some .directory => fs.lookFrom itself follow (names ++ [s]) rest
        | some (.link target) =>
            if itself && ends then .ok (.found (names ++ [s]) (.link target) !rest.isEmpty)
            else if target.isEmpty then .error .notFound
            else follow (origin names target) (Segment.split target ++ rest)
        | some node =>
            if ends then .ok (.found (names ++ [s]) node !rest.isEmpty) else .error .notDirectory
        | none =>
            if ends then .ok (.missing (names ++ [s]) !rest.isEmpty) else .error .notFound

/-- Looks up segments through at most so many links. -/
def lookThrough (fs : FileSystem) (itself : Bool) :
    Nat → List (List Char) → List (List Char) → Except SystemError Spot
  | 0 => fs.lookFrom itself fun _ _ => .error .tooManyLinks
  | n + 1 => fs.lookFrom itself (fs.lookThrough itself n)

/-- Looks up a path, of which a link at the end can be looked for itself. -/
def look (fs : FileSystem) (path : String) (itself : Bool := false) : Except SystemError Spot :=
  if path.toList.contains '\x00' then .error .notName
  else if path.isEmpty then .error .notFound
  else if pathLimit < bytes path.toList then .error .nameTooLong
  else fs.lookThrough itself linkLimit (origin fs.home path.toList) (Segment.split path.toList)

/-! ### Questions -/

def isFile (fs : FileSystem) (path : String) : Bool :=
  match fs.look path with
  | .ok (.found _ (.file _) false) => true
  | _ => false

def isDirectory (fs : FileSystem) (path : String) : Bool :=
  match fs.look path with
  | .ok (.found _ .directory _) => true
  | _ => false

/-- The bytes that are read from a node.  A link that is not followed has led through too many. -/
def source (fs : FileSystem) : FileNode → Except SystemError ByteArray
  | .file number => (fs.ask (.read number)).map fun _ => fs.content number
  | .directory => .error .isDirectory
  | .link _ => .error .tooManyLinks
  | .device d => d.source

/-- The text of a file. -/
def read (fs : FileSystem) (path : String) : Except SystemError String := do
  match ← fs.look path with
  | .missing _ _ => throw .notFound
  | .found _ _ true => throw .notDirectory
  | .found _ node false =>
      match String.fromUTF8? (← fs.source node) with
      | some text => return text
      | none => throw .notText

/-- What a run can ask. -/
def files (fs : FileSystem) : Files := ⟨fs.isFile, fs.read⟩

/-! ### Changes -/

def put (fs : FileSystem) (names : List (List Char)) (node : FileNode) : FileSystem :=
  { fs with nodes := fs.nodes.put names node }

def setContent (fs : FileSystem) (number : Nat) (content : ByteArray) : FileSystem :=
  { fs with contents := fs.contents.put number content }

/-- A number that no name has. -/
def freeNumber (fs : FileSystem) : Nat :=
  fs.nodes.entries.foldr (fun entry n => match entry.2 with
    | .file number => max n (number + 1)
    | _ => n) 0

/-- Adds a name of a file that is new. -/
def putFile (fs : FileSystem) (names : List (List Char)) (content : ByteArray) : FileSystem :=
  (fs.put names (.file fs.freeNumber)).setContent fs.freeNumber content

/-- Writes a text to a file, in place of what it held, or to a device, and tells where it went
besides. -/
def write (fs : FileSystem) (path text : String) : Except SystemError (FileSystem × Sink) := do
  match ← fs.look path with
  | .found _ .directory _ | .found _ _ true | .missing _ true => throw .isDirectory
  | .found _ (.file number) false =>
      fs.ask (.write number)
      return (fs.setContent number text.toUTF8, .nowhere)
  | .found _ (.link _) false => throw .tooManyLinks
  | .found _ (.device d) false => return (fs, ← d.sink)
  | .missing names false =>
      fs.ask (.add names.dropLast)
      return (fs.putFile names text.toUTF8, .nowhere)

/-- Makes a directory in a directory that is there. -/
def makeDirectory (fs : FileSystem) (path : String) : Except SystemError FileSystem := do
  match ← fs.look path true with
  | .found _ _ _ => throw .fileExists
  | .missing names _ =>
      fs.ask (.add names.dropLast)
      return fs.put names .directory

/-- Makes a directory and those on the way to it, of which there are at most so many.  What was
made before a fault stays. -/
def makeDirectories (fs : FileSystem) : Nat → List Char → FileSystem × Except SystemError Unit
  | _, [] => (fs, .ok ())
  | 0, _ => (fs, .error .notFound)
  | n + 1, path =>
      let text := String.ofList path
      match fs.makeDirectory text with
      | .ok made => (made, .ok ())
      | .error .notFound =>
          match parent? path with
          | none => (fs, .error .notFound)
          | some up =>
              match fs.makeDirectories n up with
              | (above, .error e) => (above, .error e)
              | (above, .ok ()) =>
                  match above.makeDirectory text with
                  | .ok made => (made, .ok ())
                  | .error e => (above, if above.isDirectory text then .ok () else .error e)
      | .error e => (fs, if fs.isDirectory text then .ok () else .error e)

/-- What can be added to the files of a machine. -/
inductive Addition where
  | file (content : ByteArray)
  | directory
  | link (target : String)
  | device (d : Device)
  /-- Another name of the file under a path. -/
  | name (path : String)

/-- Adds something with the directories on the way to it. -/
def add (fs : FileSystem) (path : String) (a : Addition) : FileSystem :=
  let names := match Location.ofText path with
    | .rooted names => names
    | .relative ups names => fs.home.take (fs.home.length - ups) ++ names
  let above := (List.range names.length).map fun n => names.take n
  let fs := above.foldl (fun fs a =>
    if a.isEmpty || (fs.node? a).isSome then fs else fs.put a .directory) fs
  match a with
  | .file content => fs.putFile names content
  | .directory => fs.put names .directory
  | .link target => fs.put names (.link target.toList)
  | .device d => fs.put names (.device d)
  | .name path =>
      match fs.look path with
      | .ok (.found _ (.file number) false) => fs.put names (.file number)
      | _ => fs

/-- A machine that refuses nothing, with a working directory and the devices that every machine
has. -/
def fresh (home : String) : FileSystem :=
  let fs : FileSystem := ⟨Table.empty, Table.empty, [], fun _ => none⟩
  let fs := ((fs.add "/dev/null" (.device (.ended .nowhere))).add
    "/dev/stdout" (.device (.ended .output))).add "/dev/stderr" (.device (.ended .complaint))
  { fs.add home .directory with home := (Location.ofText home).segments }

end FileSystem

end ModuleBundler
