import CodeAtlas.Pool

namespace CodeAtlas

structure SkippedFile where
  path : String
  error : ParseError
deriving DecidableEq

structure SkippedNode where
  path : String
  node : UnnamedNode
deriving DecidableEq

/-- What a build covered, and what it had to leave out. -/
structure BuildReport where
  filesParsed : Nat := 0
  functionsAdded : Nat := 0
  /-- Over all files, also the skipped ones. -/
  parseTimeMs : Nat := 0
  skippedFiles : List SkippedFile := []
  skippedNodes : List SkippedNode := []
  skippedLanguages : List LoadFailure := []
  walkErrors : List String := []
deriving DecidableEq

namespace BuildReport

/-- The report of two builds, one after the other. -/
def merge (a b : BuildReport) : BuildReport where
  filesParsed := a.filesParsed + b.filesParsed
  functionsAdded := a.functionsAdded + b.functionsAdded
  parseTimeMs := a.parseTimeMs + b.parseTimeMs
  skippedFiles := a.skippedFiles ++ b.skippedFiles
  skippedNodes := a.skippedNodes ++ b.skippedNodes
  skippedLanguages := a.skippedLanguages ++ b.skippedLanguages
  walkErrors := a.walkErrors ++ b.walkErrors

def filesSkipped (r : BuildReport) : Nat :=
  r.skippedFiles.length

def nodesSkipped (r : BuildReport) : Nat :=
  r.skippedNodes.length

end BuildReport

end CodeAtlas
