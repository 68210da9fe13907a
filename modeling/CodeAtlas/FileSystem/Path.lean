import CodeAtlas.Text.Utf8

namespace CodeAtlas

/-- A path as bytes: names divided by slashes. No file is looked at to join one or to take its
parent. -/
structure Path where
  bytes : Bytes
deriving DecidableEq

namespace Path

def slash : UInt8 := 0x2f
def point : UInt8 := 0x2e

inductive Component where
  | root
  | current
  | parent
  | name (bytes : Bytes)
deriving DecidableEq

def ofString (text : String) : Path :=
  ⟨Text.encode text⟩

/-- The path as it is shown. -/
def display (p : Path) : String :=
  Text.decodeLossy p.bytes

def isAbsolute (p : Path) : Bool :=
  p.bytes.head? == some slash

/-- The parts between slashes, empty ones included. -/
def pieces : Bytes → List Bytes
  | [] => [[]]
  | b :: rest =>
    if b = slash then [] :: pieces rest
    else match pieces rest with
      | [] => [[b]]
      | p :: ps => (b :: p) :: ps

def componentOf (piece : Bytes) : Option Component :=
  if piece = [] ∨ piece = [point] then none
  else if piece = [point, point] then some .parent
  else some (.name piece)

/-- Empty parts and points say nothing, but for a point at the start of a relative path. -/
def components (p : Path) : List Component :=
  let parts := pieces p.bytes
  let named := parts.filterMap componentOf
  if p.isAbsolute then .root :: named
  else if parts.head? = some [point] then .current :: named
  else named

/-- A path below another; an absolute one stands for itself. -/
def join (p q : Path) : Path :=
  if q.isAbsolute || p.bytes.isEmpty then q
  else if p.bytes.getLast? = some slash then ⟨p.bytes ++ q.bytes⟩
  else ⟨p.bytes ++ slash :: q.bytes⟩

/-- Drops slashes and points that say nothing, from a reversed path. -/
def trimReversed : Bytes → Bytes
  | [] => []
  | [b] => [b]
  | b :: c :: rest =>
    if b = slash then trimReversed (c :: rest)
    else if b = point ∧ c = slash then trimReversed (c :: rest)
    else b :: c :: rest

/-- The path without its last component; none for a root and for the empty path. -/
def parent? (p : Path) : Option Path :=
  let reversed := trimReversed p.bytes.reverse
  if reversed = [] ∨ reversed = [slash] then none
  else some ⟨(trimReversed (reversed.dropWhile (· != slash))).reverse⟩

theorem length_trimReversed (r : Bytes) : (trimReversed r).length ≤ r.length := by
  fun_induction trimReversed r with
  | case1 | case2 | case5 => exact Nat.le_refl _
  | case3 _ _ ih | case4 _ _ _ _ _ ih => exact Nat.le_succ_of_le ih

theorem trimReversed_shape (r : Bytes) :
    trimReversed r = [] ∨ trimReversed r = [slash] ∨
      ∃ b rest, trimReversed r = b :: rest ∧ b ≠ slash ∧ (b = point → rest.head? ≠ some slash) := by
  fun_induction trimReversed r with
  | case1 => exact .inl rfl
  | case2 b =>
    by_cases root : b = slash
    · exact .inr (.inl (by rw [root]))
    · exact .inr (.inr ⟨b, [], rfl, root, by simp⟩)
  | case3 c rest ih => exact ih
  | case4 b c rest notSlash silent ih => exact ih
  | case5 b c rest notSlash loud => exact .inr (.inr ⟨b, c :: rest, rfl, notSlash, by simpa using loud⟩)

theorem parent?_shorter {p q : Path} (parent : p.parent? = some q) :
    q.bytes.length < p.bytes.length := by
  have trimmed := length_trimReversed p.bytes.reverse
  rw [List.length_reverse] at trimmed
  simp only [parent?] at parent
  rcases trimReversed_shape p.bytes.reverse with empty | root | ⟨b, rest, spelled, notSlash, -⟩
  · simp [empty] at parent
  · simp [root] at parent
  · have more : ¬(b :: rest = [] ∨ b :: rest = [slash]) := by simp [notSlash]
    rw [spelled, if_neg more, List.dropWhile_cons_of_pos (by simpa using notSlash)] at parent
    cases parent
    have dropped := (List.dropWhile_sublist (· != slash) (l := rest)).length_le
    have left := length_trimReversed (rest.dropWhile (· != slash))
    rw [spelled, List.length_cons] at trimmed
    rw [List.length_reverse]
    omega

/-- The paths above, nearest first. -/
def above (p : Path) : List Path :=
  match _ : p.parent? with
  | some q => q :: q.above
  | none => []
termination_by p.bytes.length
decreasing_by exact parent?_shorter ‹_›

/-- The last component, if it is a name. -/
def fileName? (p : Path) : Option Bytes :=
  match p.components.getLast? with
  | some (.name n) => some n
  | _ => none

/-- What follows the last point of a name that does not begin with that point. -/
def extensionOf (name : Bytes) : Option Bytes :=
  let after := name.reverse.takeWhile (· != point)
  if after.length + 1 < name.length then some after.reverse else none

def extension? (p : Path) : Option Bytes :=
  p.fileName?.bind extensionOf

/-- The components of a path below another; none if it is not below. -/
def below? (base p : Path) : Option (List Component) :=
  let rec strip : List Component → List Component → Option (List Component)
    | [], rest => some rest
    | _ :: _, [] => none
    | a :: as, b :: bs => if a = b then strip as bs else none
  strip base.components p.components

end Path

end CodeAtlas
