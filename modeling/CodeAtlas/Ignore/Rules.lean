import CodeAtlas.FileSystem.Access
import CodeAtlas.Ignore.Glob
import CodeAtlas.Text.Blank

namespace CodeAtlas

structure IgnoreRule where
  pattern : Pattern
  /-- Lets the entry in again. -/
  lets : Bool
  onlyDirectories : Bool
deriving DecidableEq

inductive Verdict where
  | silent
  | leave
  | allow
deriving DecidableEq

def Verdict.or : Verdict → Verdict → Verdict
  | silent, v => v
  | v, _ => v

namespace IgnoreRule

/-- A backslash before the first sign takes its meaning away. -/
def unmark (line : List Char) : Bool × Bool × List Char :=
  match line with
  | '\\' :: '!' :: rest => (false, false, '!' :: rest)
  | '\\' :: '#' :: rest => (false, false, '#' :: rest)
  | '!' :: '/' :: rest => (true, true, rest)
  | '!' :: rest => (true, false, rest)
  | '/' :: rest => (false, true, rest)
  | line => (false, false, line)

/-- The glob of a line: one without a slash is meant for every directory below, and two stars at the
end for all in a directory but not the directory. -/
def anchor (rooted : Bool) (glob : List Char) : List Char :=
  let starred := "**/".toList.isPrefixOf glob || glob == "**".toList
  let glob := if !rooted && !glob.contains '/' && !starred then "**/".toList ++ glob else glob
  if "/**".toList.isSuffixOf glob then glob ++ "/*".toList else glob

/-- A rule from a line; none from an empty one and from a comment. -/
def ofLine (line : List Char) : Except GlobError (Option IgnoreRule) :=
  if line.head? = some '#' then .ok none
  else
    let line := if "\\ ".toList.isSuffixOf line then line else Text.trimEnd line
    if line.isEmpty then .ok none
    else
      let (lets, rooted, glob) := unmark line
      let onlyDirectories := glob.getLast? = some '/'
      let glob := if onlyDirectories then glob.dropLast else glob
      let glob := if onlyDirectories && glob.getLast? = some '\\' then glob.dropLast else glob
      match Glob.parse (anchor rooted glob) with
      | .ok pattern => .ok (some ⟨pattern, lets, onlyDirectories⟩)
      | .error e => .error e

end IgnoreRule

/-- The rules of one file, for paths below `root`. -/
structure RuleFile where
  root : Path
  rules : List IgnoreRule := []
  /-- What is wrong with the file, line by line. -/
  errors : List String := []

namespace RuleFile

def lines (content : Bytes) : List Bytes :=
  let rec split : Bytes → List Bytes
    | [] => [[]]
    | b :: rest =>
      if b = 0x0a then [] :: split rest
      else match split rest with
        | [] => [[b]]
        | l :: ls => (b :: l) :: ls
  let all := split content
  let all := if all.getLast? = some [] then all.dropLast else all
  all.map fun l => if l.getLast? = some 0x0d then l.dropLast else l

def lineError (file : Path) (n : Nat) (message : String) : String :=
  file.display ++ ": line " ++ Nat.repr n ++ ": " ++ message

/-- Reading stops at a line that is not text. -/
def addLines (file : Path) : Nat → List Bytes → RuleFile → RuleFile
  | _, [], f => f
  | n, l :: rest, f =>
    match Text.decode? l with
    | none => f
    | some text =>
      let line := if n = 1 then text.toList.dropWhile (· = '\ufeff') else text.toList
      match IgnoreRule.ofLine line with
      | .ok none => addLines file (n + 1) rest f
      | .ok (some rule) => addLines file (n + 1) rest { f with rules := f.rules ++ [rule] }
      | .error e =>
        let glob := String.ofList
          (if "\\ ".toList.isSuffixOf line then line else Text.trimEnd line)
        let message := "error parsing glob '" ++ glob ++ "': " ++ e.message
        addLines file (n + 1) rest { f with errors := f.errors ++ [lineError file n message] }

def load (fs : FileSystem) (root file : Path) : RuleFile :=
  match fs.read file with
  | .ok content => addLines file 1 (lines content) { root }
  | .error _ => { root }

/-- The path as the rules see it. -/
def relative (root path : Bytes) : Bytes :=
  if root.isPrefixOf path then
    let rest := path.drop root.length
    if rest.head? = some Path.slash then rest.drop 1 else rest
  else path

def verdict (f : RuleFile) (path : Path) (isDirectory : Bool) : Verdict :=
  let below := relative f.root.bytes path.bytes
  match f.rules.reverse.find? fun r =>
      (!r.onlyDirectories || isDirectory) && Glob.accepts r.pattern below with
  | some r => if r.lets then .allow else .leave
  | none => .silent

end RuleFile

namespace Ignore

def shared (fs : FileSystem) (dir : Path) : RuleFile :=
  .load fs dir (dir.join (.ofString ".gitignore"))

def excludes (fs : FileSystem) (dir : Path) : RuleFile :=
  .load fs dir ((dir.join (.ofString ".git")).join (.ofString "info/exclude"))

/-- Of two files the one nearer to the entry decides. -/
def firstVerdict (files : List (RuleFile × Path)) (isDirectory : Bool) : Verdict :=
  files.foldl (fun v (f, path) => v.or (f.verdict path isDirectory)) .silent

/-- Whether rules leave an entry out. `dirs` are the directories from the entry up to the walk's
root; the rules above the root are asked with the root's canonical place in the path. -/
def leavesOut (fs : FileSystem) (root : Path) (dirs : List Path) (path : Path)
    (isDirectory : Bool) : Bool :=
  let inside := dirs.map (·, path)
  let outside := match fs.canonical? root with
    | none => []
    | some base =>
      let place := base.join ⟨RuleFile.relative root.bytes path.bytes⟩
      base.above.map (·, place)
  let ask (rules : Path → RuleFile) : Verdict :=
    firstVerdict ((inside ++ outside).map fun (dir, path) => (rules dir, path)) isDirectory
  (ask (shared fs)).or (ask (excludes fs)) = .leave

/-- What is wrong with the rule files above a root, the outermost first. -/
def errorsAbove (fs : FileSystem) (root : Path) : List String :=
  match fs.canonical? root with
  | none => []
  | some base => base.above.reverse.flatMap fun dir =>
      (shared fs dir).errors ++ (excludes fs dir).errors

end Ignore

end CodeAtlas
