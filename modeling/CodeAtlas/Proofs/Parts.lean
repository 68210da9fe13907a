import CodeAtlas.Proofs.Merging

namespace CodeAtlas

namespace BuildReport

theorem empty_merge (a : BuildReport) : ({} : BuildReport).merge a = a := by
  simp [merge]

theorem merge_empty (a : BuildReport) : a.merge {} = a :=
  a.merge_nothing

theorem filesSkipped_merge (a b : BuildReport) :
    (a.merge b).filesSkipped = a.filesSkipped + b.filesSkipped :=
  List.length_append

theorem nodesSkipped_merge (a b : BuildReport) :
    (a.merge b).nodesSkipped = a.nodesSkipped + b.nodesSkipped :=
  List.length_append

theorem ofOutcomes_append (part rest : List FileOutcome) :
    ofOutcomes (part ++ rest) = (ofOutcomes part).merge (ofOutcomes rest) := by
  induction part with
  | nil => exact (empty_merge _).symm
  | cons o part ih =>
    rw [List.cons_append, ofOutcomes_cons, ih, ← merge_assoc, ← ofOutcomes_cons]

end BuildReport

namespace Builder

/-- The report of a merge that took these outcomes from the state `start` on. -/
def accumulated (start : Merged) (outcomes : List FileOutcome) : BuildReport :=
  (outcomes.foldlM addOutcome start).value.2

theorem accumulated_eq (start : Merged) (outcomes : List FileOutcome) :
    accumulated start outcomes = start.2.merge (.ofOutcomes outcomes) := by
  rw [accumulated, Logged.value_foldlM, addOutcome_foldl]

theorem accumulated_alone (g : Graph) (outcomes : List FileOutcome) :
    accumulated (g, {}) outcomes = .ofOutcomes outcomes := by
  rw [accumulated_eq, BuildReport.empty_merge]

/-- The first part may be reported on its own, before the rest. -/
theorem accumulated_append (start : Merged) (g : Graph) (part rest : List FileOutcome) :
    accumulated start (part ++ rest) =
      accumulated (start.1, start.2.merge (accumulated (g, {}) part)) rest := by
  rw [accumulated_eq, accumulated_eq, accumulated_alone, BuildReport.ofOutcomes_append,
    BuildReport.merge_assoc]

/-- Each part is merged alone, into a graph of its own and with an empty report. -/
theorem accumulated_parts (start : Merged) (parts : List (Graph × List FileOutcome)) :
    accumulated start (parts.flatMap (·.2)) =
      (parts.map fun part => accumulated (part.1, {}) part.2).foldl BuildReport.merge start.2 := by
  induction parts generalizing start with
  | nil => rfl
  | cons part parts ih =>
    rw [List.flatMap_cons, accumulated_append start part.1, ih]
    rfl

/-- A build starts from what the loading and the walk left out. -/
theorem merge_parts (b : Builder) (l : Listing) (url : String)
    (parts : List (Graph × List FileOutcome)) :
    (b.merge l url (parts.flatMap (·.2))).value.2 =
      (parts.map fun part => accumulated (part.1, {}) part.2).foldl BuildReport.merge
        { skippedLanguages := b.pool.skipped, walkErrors := l.errors } :=
  accumulated_parts _ parts

end Builder

/-- Reports form a monoid, on which the counts of what was skipped are additive. The report a merge
accumulates over a list of outcomes is the product of those it accumulates over the parts of the
list, wherever it is cut and whatever the merge had reported before. -/
theorem BuildReport.homomorphic :
    (∀ a b c : BuildReport, (a.merge b).merge c = a.merge (b.merge c)) ∧
    (∀ a : BuildReport, ({} : BuildReport).merge a = a ∧ a.merge {} = a) ∧
    (∀ a b : BuildReport, (a.merge b).filesSkipped = a.filesSkipped + b.filesSkipped ∧
      (a.merge b).nodesSkipped = a.nodesSkipped + b.nodesSkipped) ∧
    (∀ (g : Graph) (parts : List (Graph × List FileOutcome)),
      Builder.accumulated (g, {}) (parts.flatMap (·.2)) =
        (parts.map fun part => Builder.accumulated (part.1, {}) part.2).foldl merge {}) ∧
    (∀ (b : Builder) (l : Listing) (url : String) (parts : List (Graph × List FileOutcome)),
      (b.merge l url (parts.flatMap (·.2))).value.2 =
        (parts.map fun part => Builder.accumulated (part.1, {}) part.2).foldl merge
          { skippedLanguages := b.pool.skipped, walkErrors := l.errors }) := by
  refine ⟨merge_assoc, fun a => ⟨a.empty_merge, a.merge_empty⟩, fun a b => ?_, ?_, ?_⟩
  · exact ⟨a.filesSkipped_merge b, a.nodesSkipped_merge b⟩
  · exact fun g parts => Builder.accumulated_parts (g, {}) parts
  · exact Builder.merge_parts

end CodeAtlas
