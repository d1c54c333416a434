import DriverMonitor.Files.Access

/-! # Files in a tree

A tree of files stands for a file system. A path is followed name by name, and the way down from the
root is kept on the way, so that `..` leads back up and a change at the end of the way can be carried
up to the root. Nothing lies below a file, and all entries carry one time.
-/

namespace DriverMonitor

/-- What stands under a name, with all that lies in it. -/
inductive FileNode where
  | file (bytes : List UInt8)
  | directory (members : List (String × FileNode))
  deriving Repr

namespace FileNode

def entry : FileNode → Entry
  | file bytes => .file bytes
  | directory _ => .directory

/-- Takes a name out of a directory. -/
def erase (n : FileNode) (name : String) : FileNode :=
  match n with
  | file bytes => file bytes
  | directory members => directory (members.filter (·.1 != name))

/-- Puts a node in the place of whatever stood under a name of a directory. -/
def insert (n : FileNode) (name : String) (node : FileNode) : FileNode :=
  match n with
  | file bytes => file bytes
  | directory members => directory ((name, node) :: members.filter (·.1 != name))

end FileNode

/-- A way down from the root: its names and what stands under each, the last first. -/
abbrev Trail := List (String × FileNode)

structure FileTree where
  root : FileNode
  /-- The names on the way to the working directory. -/
  working : List String
  /-- When every entry was changed last. -/
  time : Timestamp
  deriving Repr

namespace FileTree

/-- The tree of a working directory with nothing in it. -/
def ofWorking (working : List String) (time : Timestamp) : FileTree where
  root := working.foldr (fun name below => .directory [(name, below)]) (.directory [])
  working := working
  time := time

/-- What stands at the end of a way. -/
def nodeAt (t : FileTree) (trail : Trail) : FileNode := trail.head?.elim t.root (·.2)

/-- Goes on under one name. Nothing leads on from a file, not even `.` or `..`, and above the root
there is the root. -/
def step (t : FileTree) (trail : Trail) (name : String) : Except PathFault Trail :=
  match t.nodeAt trail with
  | .file _ => .error .refused
  | .directory members =>
    if Path.isIdle name then .ok trail
    else if name = ".." then .ok trail.tail
    else if Path.maxNameBytes < name.utf8ByteSize then .error .refused
    else
      match members.lookup name with
      | some node => .ok ((name, node) :: trail)
      | none => .error .missing

def follow (t : FileTree) (p : Path) : Except PathFault Trail := do
  let start ← if p.absolute then pure [] else t.working.foldlM t.step []
  p.names.foldlM t.step start

def find (t : FileTree) (path : String) : Except PathFault Trail := do
  t.follow (← Path.ofText path)

def look (t : FileTree) (path : String) : Except PathFault Entry := do
  return (t.nodeAt (← t.find path)).entry

def names? (t : FileTree) (path : String) : Option (List String) :=
  match (t.find path).map t.nodeAt with
  | .ok (.directory members) => some (members.map (·.1))
  | _ => none

/-! ## Changes -/

/-- The root after another node has come to the end of a way. -/
def rootWith (t : FileTree) (node : FileNode) : Trail → FileNode
  | [] => node
  | (name, _) :: above => t.rootWith ((t.nodeAt above).insert name node) above

/-- Puts a node under a name of the directory at the end of a way. -/
def put (t : FileTree) (trail : Trail) (name : String) (node : FileNode) : FileTree :=
  { t with root := t.rootWith ((t.nodeAt trail).insert name node) trail }

/-- Makes one directory where nothing is. What it lies in has to be there. -/
def makeOne (t : FileTree) (p : Path) : Except PathFault FileTree :=
  match p.withoutSlashes.split? with
  | none => .error .refused
  | some (above, name) => do
    let trail ← t.follow above
    match t.step trail name with
    | .error .missing => .ok (t.put trail name (.directory []))
    | _ => .error .refused

def isDirectory (t : FileTree) (p : Path) : Bool :=
  (t.follow p).map (fun trail => (t.nodeAt trail).entry) matches .ok .directory

/-- Makes a directory, after what it lies in if that is missing, and says whether it is there now.
What has been made stays made in any case. -/
def makeAfter (above : FileTree → Bool × FileTree) (p : Path) (t : FileTree) : Bool × FileTree :=
  let again (t : FileTree) : Bool × FileTree :=
    match t.makeOne p with
    | .ok t => (true, t)
    | .error _ => (t.isDirectory p, t)
  if t.makeOne p matches .error .missing then
    match above t with
    | (true, t) => again t
    | (false, t) => (false, t)
  else again t

/-- Makes the directory at the end of so many of a path's names, and all it lies in. -/
def makeFirst (p : Path) : Nat → FileTree → Bool × FileTree
  | 0 => fun t => (true, t)
  | n + 1 => makeAfter (makeFirst p n) { p with names := p.names.take (n + 1) }

/-- Makes a directory and all it lies in, and says whether it is there now. The path is tried as it
stands; for what it lies in, names that lead nowhere else count for nothing. -/
def makeDirectory (t : FileTree) (path : String) : Bool × FileTree :=
  match Path.ofText path with
  | .error .missing => (true, t)
  | .error .refused => (false, t)
  | .ok p => makeAfter (makeFirst p.steps (p.steps.names.length - 1)) p t

/-- Writes a file, whose directory has to be there. -/
def write? (t : FileTree) (path : String) (bytes : List UInt8) : Option FileTree := do
  let (above, name) ← (← (Path.ofText path).toOption).split?
  let trail ← (t.follow above).toOption
  match (t.step trail name).map t.nodeAt with
  | .ok (.file _) | .error .missing => t.put trail name (.file bytes)
  | _ => none

/-- Removes what stands under a path, with all that lies in it. -/
def erase (t : FileTree) (path : String) : FileTree :=
  match t.find path with
  | .ok ((name, _) :: above) =>
    { t with root := t.rootWith ((t.nodeAt above).erase name) above }
  | _ => t

def remove? (t : FileTree) (path : String) : Option FileTree :=
  if t.look path matches .ok (.file _) then some (t.erase path) else none

/-- Writes a file and makes what it lies in. -/
def addFile (t : FileTree) (path : String) (bytes : List UInt8) : FileTree :=
  let (_, made) := match Path.ofText path with
    | .ok p => makeFirst p.steps (p.steps.names.length - 1) t
    | .error _ => (false, t)
  (made.write? path bytes).getD made

/-- A change that may be impossible, and whether it was made. -/
def attempt (change : FileTree → Option FileTree) : StateM FileTree Bool := fun t =>
  match change t with
  | some t => (true, t)
  | none => (false, t)

/-- The files of a tree. -/
def access : FileAccess (StateM FileTree) where
  look path := fun t => (t.look path, t)
  names? path := fun t => (t.names? path, t)
  makeDirectory path := fun t => t.makeDirectory path
  write path bytes := attempt (·.write? path bytes)
  remove path := attempt (·.remove? path)
  modified? path := fun t => ((t.look path).toOption.map fun _ => t.time, t)

end FileTree

end DriverMonitor
