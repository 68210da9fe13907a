import CodeAtlas.FileSystem.Access

namespace CodeAtlas

mutual

/-- The files in a node, each with its place below one. -/
def Node.files (above : Place) : Node → List (Place × Bytes)
  | .file content => [(above, content)]
  | .directory entries => filesOfEach above entries
  | _ => []

def Node.filesOfEach (above : Place) : List (Bytes × Node) → List (Place × Bytes)
  | [] => []
  | (name, node) :: rest => files (above ++ [name]) node ++ filesOfEach above rest

end

namespace FileSystem

/-- The files that are not the same before. -/
def changes (before after : FileSystem) : List (Place × Bytes) :=
  let old := before.root.files []
  (after.root.files []).filter (!old.contains ·)

end FileSystem

end CodeAtlas
