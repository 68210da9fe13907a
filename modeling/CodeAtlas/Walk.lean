import CodeAtlas.Graph.Basic
import CodeAtlas.Ignore.Rules
import CodeAtlas.Pool

namespace CodeAtlas

/-- Something below a root: the names of the directories down to it, its own name, and what it is. -/
structure Entry where
  above : List Bytes
  name : Bytes
  node : Node

namespace Entry

/-- The path of what the names lead to. -/
def pathOf (root : Path) (names : List Bytes) : Path :=
  names.foldl (fun p name => p.join ⟨name⟩) root

def path (root : Path) (e : Entry) : Path :=
  pathOf root (e.above ++ [e.name])

/-- Why nothing can be asked for by the path of some names, if nothing can. -/
def refusal? (root : Path) (names : List Bytes) : Option FileError :=
  let p := pathOf root names
  if p.bytes.contains 0 then some .invalidName
  else if p.bytes.length > FileSystem.maxPath || names.any (·.length > FileSystem.maxName) then
    some .nameTooLong
  else none

/-- The directories on the way down some names. -/
def directoriesTo (root : Path) : List Bytes → List Path
  | [] => [root]
  | name :: rest => root :: directoriesTo (root.join ⟨name⟩) rest

/-- The directories from the one it lies in up to the root. -/
def directories (root : Path) (e : Entry) : List Path :=
  (directoriesTo root e.above).reverse

end Entry

/-- The order of names by their bytes. -/
def nameLE : Bytes → Bytes → Bool
  | [], _ => true
  | _ :: _, [] => false
  | a :: as, b :: bs => a < b || (a = b && nameLE as bs)

mutual

/-- The entries in the order of their names' bytes, whatever order the tree keeps them in, but for the
directories that are gone into. What is not kept is left out with all that is below it; what does not
open is met as something locked. -/
def Node.walk (keep : Entry → Bool) (opens : List Bytes → Bool) (above : List Bytes) :
    Node → List Entry
  | .directory entries =>
    ((walkEach keep opens above entries).mergeSort fun a b => nameLE a.1 b.1).flatMap (·.2)
  | _ => []

/-- What is met at each entry of a directory, with the entry's name. -/
def Node.walkEach (keep : Entry → Bool) (opens : List Bytes → Bool) (above : List Bytes) :
    List (Bytes × Node) → List (Bytes × List Entry)
  | [] => []
  | (name, node) :: rest =>
    let below := walk keep opens (above ++ [name]) node
    let met : List Entry :=
      if node.isOpen && opens (above ++ [name]) then below else [⟨above, name, node.shut⟩]
    let rest := walkEach keep opens above rest
    if keep ⟨above, name, node⟩ then (name, met) :: rest else rest

end

/-- A file to analyze, and its path from the root on. -/
structure SourceFile where
  path : Path
  relative : String
deriving DecidableEq

namespace Walk

/-- The names of a path from the root on, divided by slashes. -/
def joinNames (components : List Path.Component) : String :=
  "/".intercalate (components.filterMap fun
    | .name bytes => some (Text.decodeLossy bytes)
    | _ => none)

def relative (root p : Path) : String :=
  joinNames ((root.below? p).getD p.components)

/-- The name of a directory in the file map: a slash for the root. -/
def directoryKey (root directory : Path) : String :=
  "/" ++ relative root directory

/-- What a walk says of a directory that it cannot open. -/
def unopened (p : Path) (e : FileError) : String :=
  p.display ++ ": IO error for operation on " ++ p.display ++ ": " ++ e.message

end Walk

/-- What a walk found. -/
structure Listing where
  directories : Catalog (List String) := .empty
  sources : List SourceFile := []
  errors : List String := []

namespace Listing

def append (name : String) (files : Catalog (List String)) (directory : String) :
    Catalog (List String) :=
  files.insert directory ((files.get? directory).getD [] ++ [name])

/-- Of what is listed, only files are read, since reading a pipe could wait for ever. -/
def readable (fs : FileSystem) (p : Path) (n : Node) : Bool :=
  n.isFile || n.isLink && fs.isFile p

/-- Links to directories are not listed, nor are directories; one that is met cannot be opened, and
is an error. -/
def add (fs : FileSystem) (pool : Pool) (root : Path) (l : Listing) (e : Entry) : Listing :=
  let path := e.path root
  if e.node.isDirectory then
    let reason := (Entry.refusal? root (e.above ++ [e.name])).getD .permissionDenied
    { l with errors := l.errors ++ [Walk.unopened path reason] }
  else if e.node.isLink && fs.isDirectory path then l
  else match path.parent? with
    | none => l
    | some directory =>
      let name := Text.decodeLossy e.name
      let directories := append name l.directories (Walk.directoryKey root directory)
      if readable fs path e.node && pool.supportsPath path then
        { l with directories, sources := l.sources ++ [⟨path, Walk.relative root path⟩] }
      else { l with directories }

end Listing

namespace Walk

/-- Which entries of a walk are kept: no directory of an ignored name, and nothing that rule files
leave out, if they are heeded. -/
def keeps (fs : FileSystem) (root : Path) (ignored : List String) (heedRules : Bool)
    (e : Entry) : Bool :=
  !(e.node.isDirectory && ignored.any (Text.encode · == e.name))
    && !(heedRules
      && Ignore.leavesOut fs root (e.directories root) (e.path root) e.node.isDirectory)

/-- Directories are opened by their paths. -/
def opens (root : Path) (names : List Bytes) : Bool :=
  (Entry.refusal? root names).isNone

/-- What is wrong with the rule files above the root, as one error, and with the root itself. -/
def errors (fs : FileSystem) (root : Path) (heedRules : Bool) : List String :=
  let rules := if heedRules then Ignore.errorsAbove fs root else []
  let above := if rules.isEmpty then [] else ["\n".intercalate rules]
  let locked := (fs.node? root).any fun n => n.isDirectory && !n.isOpen
  above ++ if locked then [unopened root .permissionDenied] else []

/-- What a walk meets below a root, or below where it leads to if it is a link. -/
def found (fs : FileSystem) (root : Path) (ignored : List String) (heedRules : Bool) :
    List Entry :=
  (fs.node? root).elim [] (Node.walk (keeps fs root ignored heedRules) (opens root) [])

def run (fs : FileSystem) (pool : Pool) (root : Path) (ignored : List String)
    (heedRules : Bool) : Listing :=
  (found fs root ignored heedRules).foldl (Listing.add fs pool root)
    { errors := errors fs root heedRules }

end Walk

end CodeAtlas
