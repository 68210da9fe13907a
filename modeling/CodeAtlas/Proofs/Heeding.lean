import CodeAtlas.Proofs.Listed
import CodeAtlas.Proofs.Walking

namespace CodeAtlas

/-- Two file systems in which the rule files say the same, and a root lies at the same place. -/
structure Ignore.SameRules (fs fs' : FileSystem) (root : Path) : Prop where
  shared : Ignore.shared fs' = Ignore.shared fs
  excludes : Ignore.excludes fs' = Ignore.excludes fs
  base : fs'.canonical? root = fs.canonical? root

namespace Ignore

variable {fs fs' : FileSystem} {root : Path}

theorem SameRules.leavesOut (rules : SameRules fs fs' root) :
    leavesOut fs' root = leavesOut fs root := by
  funext dirs path isDirectory
  simp only [Ignore.leavesOut, rules.shared, rules.excludes, rules.base]

theorem SameRules.errorsAbove (rules : SameRules fs fs' root) :
    errorsAbove fs' root = errorsAbove fs root := by
  simp only [Ignore.errorsAbove, rules.shared, rules.excludes, rules.base]

end Ignore

namespace Walk

variable {fs fs' : FileSystem} {root : Path} {heedRules : Bool}

theorem keeps_blind (fs : FileSystem) (root : Path) (ignored : List String) (heedRules : Bool) :
    Blind (keeps fs root ignored heedRules) := by
  intro above name n n' same
  have kind : n.isDirectory = n'.isDirectory := by
    rw [← n.isDirectory_shape, same, n'.isDirectory_shape]
  simp only [keeps, Entry.directories, Entry.path, kind]

theorem keeps_congr (rules : heedRules = true → Ignore.SameRules fs fs' root)
    (ignored : List String) : keeps fs' root ignored heedRules = keeps fs root ignored heedRules := by
  cases heedRules with
  | false => rfl
  | true =>
    funext e
    simp only [keeps, (rules rfl).leavesOut]

theorem errors_congr (rules : heedRules = true → Ignore.SameRules fs fs' root)
    (same : (fs'.node? root).map Node.shape = (fs.node? root).map Node.shape) :
    errors fs' root heedRules = errors fs root heedRules := by
  have locked (n : Option Node) : n.any (fun n => n.isDirectory && !n.isOpen) =
      (n.map Node.shape).any fun n => n.isDirectory && !n.isOpen := by
    rcases n with _ | _ | _ | _ | _ | _ <;> rfl
  rw [errors, errors, locked, same, ← locked]
  cases heedRules with
  | false => rfl
  | true => simp only [(rules rfl).errorsAbove]

/-- What a walk lists below a root, in its order. -/
def met (fs : FileSystem) (root : Path) (ignored : List String) (heedRules : Bool) : List Entry :=
  (found fs root ignored heedRules).filter (!·.node.isDirectory)

/-- The directories that a walk comes to and does not open. -/
def shut (fs : FileSystem) (root : Path) (ignored : List String) (heedRules : Bool) : List Entry :=
  (found fs root ignored heedRules).filter (·.node.isDirectory)

section
variable {gone : Place → Bool} {base : Place} {n n' : Node}
  (found : fs.find true root = .ok (base, some n)) (found' : fs'.find true root = .ok (base, some n'))
  (agree : n.AgreeBut (fun q => gone q = true) n') (distinct : n.Distinct) (distinct' : n'.Distinct)
  (rules : heedRules = true → Ignore.SameRules fs fs' root) (ignored : List String)

include found found' agree distinct distinct' rules

/-- Of two trees that agree but for some files the second is walked without these files. -/
theorem found_agree :
    Walk.found fs' root ignored heedRules =
      (Walk.found fs root ignored heedRules).filter (!gone ·.place) := by
  rw [Walk.found, Walk.found, FileSystem.node?, FileSystem.node?, found, found', keeps_congr rules]
  exact Node.walk_agree (keeps_blind fs root ignored heedRules) (opens root) n n' [] agree distinct
    distinct'

theorem met_agree :
    met fs' root ignored heedRules = (met fs root ignored heedRules).filter (!gone ·.place) := by
  rw [met, met, found_agree found found' agree distinct distinct' rules, List.filter_filter,
    List.filter_filter]
  simp only [Bool.and_comm]

theorem shut_agree : shut fs' root ignored heedRules = shut fs root ignored heedRules := by
  rw [shut, shut, found_agree found found' agree distinct distinct' rules, List.filter_filter]
  refine List.filter_congr fun e member => ?_
  rw [Walk.found, FileSystem.node?, found] at member
  obtain ⟨q, m, _, place, there, shut, _⟩ := n.walk_found [] distinct member
  rw [place, List.nil_append]
  cases isGone : gone q with
  | false => simp
  | true =>
    obtain ⟨⟨file, there', isFile⟩, _⟩ := agree.lost q isGone
    cases there.symm.trans there'
    rw [shut, Node.isDirectory_shut, Node.isDirectory_of_isFile isFile, Bool.false_and]

end

theorem leaf_of_met {ignored : List String} {e : Entry}
    (member : e ∈ met fs root ignored heedRules) : e.node.isDirectory = false :=
  Listing.leaves_filter _ e member

/-- What is wrong with a walk before its first entry, and with the directories it does not open. -/
def allErrors (fs : FileSystem) (root : Path) (ignored : List String) (heedRules : Bool) :
    List String :=
  errors fs root heedRules ++ (shut fs root ignored heedRules).map (Listing.shutError root)

theorem run_eq (fs : FileSystem) (pool : Pool) (root : Path) (ignored : List String)
    (heedRules : Bool) :
    run fs pool root ignored heedRules =
      Listing.ofMet fs pool root (allErrors fs root ignored heedRules)
        (met fs root ignored heedRules) :=
  Listing.ofMet_shut ..

end Walk

/-- A file is parsed by what is read from it. -/
theorem Pool.parseFile_congr {fs fs' : FileSystem} {p : Path} (same : fs'.read p = fs.read p)
    (clock : Clock) (pool : Pool) : pool.parseFile clock fs' p = pool.parseFile clock fs p := by
  simp only [parseFile, same]

end CodeAtlas
