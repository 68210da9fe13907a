import CodeAtlas.FileSystem.Path

namespace CodeAtlas

/-- A tree of files. Links are kept as they are written, and followed on the way to a place. -/
inductive Node where
  | file (content : Bytes)
  | directory (entries : List (Bytes × Node))
  | link (target : Bytes)
  /-- A socket, or a pipe that has nobody at its other end: opening it fails. -/
  | pipe
  /-- A directory, or else a file, that may not be opened. -/
  | locked (isDirectory : Bool)

/-- The names from the root of a tree on. -/
abbrev Place := List Bytes

inductive FileError where
  | notFound
  | notDirectory
  | isDirectory
  | alreadyExists
  | tooManyLinks
  | nameTooLong
  | invalidName
  | permissionDenied
  | noDevice
  | notText
  | noTree
deriving DecidableEq

def FileError.message : FileError → String
  | notFound => "No such file or directory (os error 2)"
  | noDevice => "No such device or address (os error 6)"
  | permissionDenied => "Permission denied (os error 13)"
  | alreadyExists => "File exists (os error 17)"
  | notDirectory => "Not a directory (os error 20)"
  | isDirectory => "Is a directory (os error 21)"
  | nameTooLong => "File name too long (os error 36)"
  | tooManyLinks => "Too many levels of symbolic links (os error 40)"
  | invalidName => "file name contained an unexpected NUL byte"
  | notText => "stream did not contain valid UTF-8"
  | noTree => "failed to create whole tree"

namespace Node

def entries : Node → List (Bytes × Node)
  | directory es => es
  | _ => []

def isDirectory : Node → Bool
  | directory _ => true
  | locked sort => sort
  | _ => false

def isFile : Node → Bool
  | file _ => true
  | locked sort => !sort
  | _ => false

/-- Whether a node is a directory that may be opened. -/
def isOpen : Node → Bool
  | directory _ => true
  | _ => false

/-- A node to those who cannot open it. -/
def shut : Node → Node
  | directory _ => locked true
  | n => n

def isLink : Node → Bool
  | link _ => true
  | _ => false

def child? (n : Node) (name : Bytes) : Option Node :=
  (n.entries.find? (·.1 == name)).map (·.2)

def at? (n : Node) : Place → Option Node
  | [] => some n
  | name :: rest => (n.child? name).bind (·.at? rest)

/-- Replaces the entry of a name, or adds it at the end; `none` takes it out. -/
def setIn (name : Bytes) (new : Option Node) : List (Bytes × Node) → List (Bytes × Node)
  | [] => new.toList.map (name, ·)
  | (other, n) :: rest =>
    if other = name then new.toList.map (name, ·) ++ rest else (other, n) :: setIn name new rest

/-- Changes what is at a place; nothing happens where the way to it is missing. -/
def alter (new : Option Node) : Place → Node → Node
  | [], n => new.getD n
  | [name], directory es => directory (setIn name new es)
  | name :: rest, directory es =>
    match (directory es).child? name with
    | some child => directory (setIn name (some (alter new rest child)) es)
    | none => directory es
  | _, n => n

end Node

/-- The tree from its root on, and the place relative paths start from. -/
structure FileSystem where
  root : Node
  current : Place

end CodeAtlas
