import CodeAtlas.FileSystem.Basic

namespace CodeAtlas.FileSystem

def maxLinks : Nat := 40
def maxName : Nat := 255
def maxPath : Nat := 4095

/-- Goes down the parts of a path. Links on the way are followed, the last one only if asked; a part
that is missing at the end leaves its place without a node. -/
def follow (fs : FileSystem) (last : Bool) (links : Nat) (place : Place) (parts : List Bytes) :
    Except FileError (Place × Option Node) :=
  match parts with
  | [] => .ok (place, fs.root.at? place)
  | part :: rest =>
    match fs.root.at? place with
    | some (.directory es) =>
      if part = [] ∨ part = [Path.point] then follow fs last links place rest
      else if part = [Path.point, Path.point] then follow fs last links place.dropLast rest
      else if part.length > maxName then .error .nameTooLong
      else
        match (Node.directory es).child? part with
        | none => if rest.all List.isEmpty then .ok (place ++ [part], none) else .error .notFound
        | some (.link target) =>
          if rest.isEmpty && !last then .ok (place ++ [part], some (.link target))
          else match links with
            | 0 => .error .tooManyLinks
            | links + 1 =>
              if target = [] then .error .notFound
              else
                let start := if target.head? = some Path.slash then [] else place
                follow fs last links start (Path.pieces target ++ rest)
        | some _ => follow fs last links (place ++ [part]) rest
    | some (.locked true) =>
      if part = [] then follow fs last links place rest else .error .permissionDenied
    | some _ => .error .notDirectory
    | none => .error .notFound
termination_by (links, parts.length)

/-- The place of a path and what is there, if anything is. A slash at the end asks for a directory. -/
def find (fs : FileSystem) (last : Bool) (p : Path) : Except FileError (Place × Option Node) :=
  if p.bytes.contains 0 then .error .invalidName
  else if p.bytes.isEmpty then .error .notFound
  else if p.bytes.length > maxPath then .error .nameTooLong
  else
    let start := if p.isAbsolute then [] else fs.current
    fs.follow last maxLinks start (Path.pieces p.bytes)

/-- What a path leads to, links followed. -/
def node? (fs : FileSystem) (p : Path) : Option Node :=
  match fs.find true p with
  | .ok (_, n) => n
  | .error _ => none

def pathExists (fs : FileSystem) (p : Path) : Bool :=
  (fs.node? p).isSome

def isDirectory (fs : FileSystem) (p : Path) : Bool :=
  (fs.node? p).any Node.isDirectory

def isFile (fs : FileSystem) (p : Path) : Bool :=
  (fs.node? p).any Node.isFile

/-- What reading makes of what is found. -/
def contentOf : Option Node → Except FileError Bytes
  | none => .error .notFound
  | some (.file content) => .ok content
  | some (.directory _) => .error .isDirectory
  | some (.locked _) => .error .permissionDenied
  | some _ => .error .noDevice

def read (fs : FileSystem) (p : Path) : Except FileError Bytes := do
  let (_, n) ← fs.find true p
  contentOf n

def readText (fs : FileSystem) (p : Path) : Except FileError String := do
  match Text.decode? (← fs.read p) with
  | some text => return text
  | none => throw .notText

/-- The tree with a file at a place. -/
def withFile (fs : FileSystem) (place : Place) (content : Bytes) : FileSystem :=
  { fs with root := fs.root.alter (some (.file content)) place }

/-- Why nothing can be written to what is found, if nothing can. -/
def writeError? : Option Node → Option FileError
  | none | some (.file _) => none
  | some (.directory _) | some (.locked true) => some .isDirectory
  | some (.locked false) => some .permissionDenied
  | some _ => some .noDevice

/-- Writes a whole file, new or not. -/
def write (fs : FileSystem) (p : Path) (content : Bytes) : Except FileError FileSystem := do
  let (place, n) ← fs.find true p
  match writeError? n with
  | some e => throw e
  | none =>
    -- A slash at the end, of the path or of a link, asks for a directory.
    match (fs.withFile place content).find true p with
    | .ok _ => return fs.withFile place content
    | .error _ => throw .isDirectory

/-- Makes one directory. -/
def makeDirectory (fs : FileSystem) (p : Path) : Except FileError FileSystem := do
  match ← fs.find false p with
  | (_, some _) => throw .alreadyExists
  | (place, none) => return { fs with root := fs.root.alter (some (.directory [])) place }

/-- Makes a directory and, as far as they are missing, those above it. -/
def makeDirectories (fs : FileSystem) (p : Path) : Except FileError FileSystem :=
  go (p.bytes.length + 1) p
where
  go : Nat → Path → Except FileError FileSystem
    | 0, _ => .error .noTree
    | fuel + 1, p =>
      if p.bytes.isEmpty then .ok fs
      else match fs.makeDirectory p with
        | .ok fs => .ok fs
        | .error .notFound =>
          match p.parent? with
          | none => .error .noTree
          | some above => do
            let fs ← go fuel above
            match fs.makeDirectory p with
            | .ok fs => return fs
            | .error e => if fs.isDirectory p then return fs else throw e
        | .error e => if fs.isDirectory p then .ok fs else .error e

/-- A place, spelled from the root. -/
def pathOf (place : Place) : Path :=
  ⟨if place.isEmpty then [Path.slash] else place.flatMap (Path.slash :: ·)⟩

/-- The place a path leads to, spelled from the root. -/
def canonical? (fs : FileSystem) (p : Path) : Option Path :=
  match fs.find true p with
  | .ok (place, some _) => some (pathOf place)
  | _ => none

/-- Puts a node at a path, with the directories above it. -/
def put (fs : FileSystem) (p : Path) (n : Node) : FileSystem :=
  let fs := match p.parent? with
    | some above => (fs.makeDirectories above).toOption.getD fs
    | none => fs
  match fs.find false p with
  | .ok (place, _) => { fs with root := (fs.root.alter (some n) place) }
  | .error _ => fs

/-- Takes away what is at a path, links not followed. -/
def remove (fs : FileSystem) (p : Path) : FileSystem :=
  match fs.find false p with
  | .ok (place, some _) => { fs with root := fs.root.alter none place }
  | _ => fs

end CodeAtlas.FileSystem
