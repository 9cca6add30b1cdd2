namespace TelescopePointing

namespace Path

/-- A path that ends with a slash can only lead to a folder. -/
def namesFolder (path : String) : Bool := path.endsWith "/" || path.endsWith "/."

/-- A name below a folder; an absolute name stands for itself. -/
def join (folder name : String) : String :=
  if name.startsWith "/" || folder.isEmpty then name
  else if folder.endsWith "/" then folder ++ name
  else folder ++ "/" ++ name

/-- The names along a path, where a point stands for the folder before it. -/
def components (path : String) : List String := (path.splitOn "/").filter (· != "")

/-- Names without the points behind the last other name. -/
def dropPoints (names : List String) : List String := (names.reverse.dropWhile (· == ".")).reverse

/-- The names above the last name that is not a point. -/
def parent (names : List String) : List String := dropPoints (dropPoints names).dropLast

/-- The name of a file without what follows its last point; a point at its start does not count. -/
def stem (name : String) : String :=
  let tail := (name.toList.reverse.dropWhile (· != '.')).drop 1
  if tail.isEmpty then name else String.ofList tail.reverse

/-- The path with another ending of its last name, unless it has no such name. -/
def withExtension (path extension : String) : String :=
  let trimmed := String.ofList ((path.toList.reverse.dropWhile (· == '/')).reverse)
  match (trimmed.splitOn "/").getLast? with
  | some ".." | some "" | none => path
  | some name =>
    let before := String.ofList (trimmed.toList.take (trimmed.length - name.length))
    before ++ stem name ++ "." ++ extension

end Path

inductive DiskNode where
  | folder
  | file (text : String)

inductive DiskFault where
  | notFound
  | isFolder
  | notFolder
  | occupied
  | nameTooLong
  | invalidName

def DiskFault.message : DiskFault → String
  | notFound => "No such file or directory (os error 2)"
  | isFolder => "Is a directory (os error 21)"
  | notFolder => "Not a directory (os error 20)"
  | occupied => "File exists (os error 17)"
  | nameTooLong => "File name too long (os error 36)"
  | invalidName => "file name contained an unexpected NUL byte"

/-- Folders and files by the names on the way from the root, and the folder in which relative paths
start. -/
structure Disk where
  home : List String
  nodes : List (List String × DiskNode)

namespace Disk

def node? (d : Disk) (place : List String) : Option DiskNode :=
  if place.isEmpty then some .folder else d.nodes.lookup place

def put (d : Disk) (place : List String) (n : DiskNode) : Disk :=
  { d with nodes := (place, n) :: d.nodes.filter fun e => e.1 != place }

def drop (d : Disk) (place : List String) : Disk :=
  { d with nodes := d.nodes.filter fun e => e.1 != place }

def origin (d : Disk) (path : String) : List String := if path.startsWith "/" then [] else d.home

/-- A path holds no zero and has fewer than 4096 bytes. -/
def checkPath (path : String) : Except DiskFault Unit :=
  if path.contains '\x00' then .error .invalidName
  else if 4096 ≤ path.utf8ByteSize then .error .nameTooLong
  else .ok ()

/-- The place of a name in a folder. Names have at most 255 bytes. -/
def child (here : List String) (name : String) : Except DiskFault (List String) :=
  if name == "." then .ok here
  else if name == ".." then .ok here.dropLast
  else if 255 < name.utf8ByteSize then .error .nameTooLong
  else .ok (here ++ [name])

def enter (d : Disk) (here : List String) (names : List String) :
    Except DiskFault (List String) :=
  names.foldlM (fun here name => do
    let next ← child here name
    match d.node? next with
    | some .folder => .ok next
    | some (.file _) => .error .notFolder
    | none => .error .notFound) here

/-- The place that a path leads to, whether or not something is there. -/
def place (d : Disk) (path : String) : Except DiskFault (List String) := do
  checkPath path
  if path.isEmpty then throw .notFound
  let names := Path.dropPoints (Path.components path)
  let here ← d.enter (d.origin path) names.dropLast
  match names.getLast? with
  | some name => child here name
  | none => return here

def read (d : Disk) (path : String) : Except DiskFault String := do
  match d.node? (← d.place path) with
  | some (.file text) => if Path.namesFolder path then .error .notFolder else .ok text
  | some .folder => .error .isFolder
  | none => .error .notFound

/-- Put a text into a file, which is made or replaced. A slash behind the name asks for a folder,
and a point leads into one. -/
def write (d : Disk) (path text : String) : Except DiskFault Disk := do
  let place ← d.place path
  match d.node? place with
  | some .folder => .error .isFolder
  | found =>
    if (Path.components path).getLast? == some "." then
      .error (if found.isSome then .notFolder else .notFound)
    else if path.endsWith "/" then .error .isFolder
    else .ok (d.put place (.file text))

def remove (d : Disk) (path : String) : Except DiskFault Disk := do
  let place ← d.place path
  match d.node? place with
  | some (.file _) => .ok (d.drop place)
  | some .folder => .error .isFolder
  | none => .error .notFound

/-- Move a file onto a path, over a file that may be there. -/
def rename (d : Disk) (source target : String) : Except DiskFault Disk := do
  (← d.remove source).write target (← d.read source)

/-- Make a folder in the folder before its name. A name of the folder itself is occupied. -/
def makeFolder (d : Disk) (start names : List String) : Except DiskFault Disk := do
  let here ← d.enter start names.dropLast
  let next ← child here (names.getLast?.getD ".")
  match d.node? next with
  | some _ => throw .occupied
  | none => return d.put next .folder

/-- Make a folder unless it is there. If its way is missing, make the way first and try again. -/
def makeFolders (start : List String) : Nat → List String → Disk → Except DiskFault Disk
  | 0, _, d => .ok d
  | fuel + 1, names, d =>
    let orThere (d : Disk) (fault : DiskFault) : Except DiskFault Disk :=
      match d.enter start names with
      | .ok _ => .ok d
      | .error _ => .error fault
    match d.makeFolder start names with
    | .ok made => .ok made
    | .error .notFound => do
      let d ← makeFolders start fuel (Path.parent names) d
      match d.makeFolder start names with
      | .ok made => .ok made
      | .error fault => orThere d fault
    | .error fault => orThere d fault

def createFolder (d : Disk) (path : String) : Except DiskFault Disk := do
  checkPath path
  let names := Path.components path
  makeFolders (d.origin path) names.length names d

def files (d : Disk) : List (List String × String) :=
  d.nodes.filterMap fun (place, n) =>
    match n with
    | .file text => some (place, text)
    | .folder => none

end Disk

end TelescopePointing
