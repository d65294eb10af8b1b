import Colloquy.Proofs.Selection.Exhaustive
import Mathlib.Order.Monotone.Defs

namespace Colloquy

/-!
# Only the order of serial numbers counts

What is selected depends on the categories of the rules and on the order of their
serial numbers, but not on the numbers themselves. Two knowledge bases whose
rules differ by an ascending renumbering select the same category with the same
bindings.
-/

/-! ## Selection among all rules -/

/-- Rules that are not activated have no candidate, and the others keep their order. -/
theorem filterMap_activate_eq_eligible
    {knowledge : KnowledgeBase}
    (indexed : knowledge.rules.Indexed)
    (context : Context) :
    (knowledge.rules.activate (Utterance.scan context.input)).rules.filterMap
        (candidate? context) =
      eligible knowledge context := by
  rw [indexed.rules_activate, List.filterMap_filter, eligible]
  refine List.filterMap_congr ?_
  intro rule isRule
  split
  · rfl
  · next inactive =>
      symm
      rw [Option.eq_none_iff_forall_ne_some]
      intro candidate found
      have active := indexed.mem_activate isRule (match?_of_candidate? found)
      rw [indexed.rules_activate] at active
      exact inactive (List.mem_filter.mp active).2

/-- The category that is selected among all rules, each of which is matched anew. -/
def selection
    (context : Context)
    (rules : List Rule) :
    Option Selected :=
  (bestCandidate? (rules.filterMap (candidate? context))).map fun best =>
    ⟨best.rule.category, best.bindings⟩

/-- A selector in use gives the selection among the rules of the knowledge base. -/
theorem Selector.Reachable.resolve_eq_selection
    {selector : Selector}
    (inUse : selector.Reachable)
    {knowledge : KnowledgeBase}
    (indexed : knowledge.rules.Indexed)
    (context : Context) :
    (selector.resolve knowledge context).1 = selection context knowledge.rules.rules := by
  rw [(inUse.agrees.resolve knowledge context).value]
  simp only [explanation]
  rw [filterMap_activate_eq_eligible indexed]
  rfl

/-! ## Renumbering -/

/-- The rule under another serial number. -/
def Rule.renumber
    (number : Nat → Nat)
    (rule : Rule) :
    Rule :=
  { rule with serial := number rule.serial }

/-- The candidate whose rule has another serial number. -/
def Candidate.renumber
    (number : Nat → Nat)
    (candidate : Candidate) :
    Candidate :=
  { candidate with rule := candidate.rule.renumber number }

/-- Renumbering a rule renumbers its candidate. -/
theorem candidate?_renumber
    (number : Nat → Nat)
    (context : Context)
    (rule : Rule) :
    candidate? context (rule.renumber number) =
      (candidate? context rule).map (Candidate.renumber number) := by
  simp only [candidate?, Rule.renumber, Option.bind_eq_bind, Option.map_bind, Function.comp_def]
  rfl

section Ascending

variable
  {number : Nat → Nat}
  (ascends : StrictMono number)

include ascends

theorem compare_number
    (first second : Nat) :
    compare (number first) (number second) = compare first second := by
  rcases Nat.lt_trichotomy first second with less | rfl | greater
  · rw [Nat.compare_eq_lt.mpr less, Nat.compare_eq_lt.mpr (ascends less)]
  · simp
  · rw [Nat.compare_eq_gt.mpr greater, Nat.compare_eq_gt.mpr (ascends greater)]

theorem Candidate.rank_renumber
    (first second : Candidate) :
    (first.renumber number).rank (second.renumber number) = first.rank second := by
  simp only [rank, renumber, Rule.renumber, wildcards, compare_number ascends]

/-- The best candidate stays the best under other numbers. -/
theorem bestCandidate?_map_renumber
    (candidates : List Candidate) :
    bestCandidate? (candidates.map (Candidate.renumber number)) =
      (bestCandidate? candidates).map (Candidate.renumber number) := by
  induction candidates using List.reverseRecOn with
  | nil =>
      rfl
  | append_singleton earlier candidate inductionHypothesis =>
      rw [List.map_append, List.map_singleton, bestCandidate?_concat, bestCandidate?_concat,
        inductionHypothesis]
      cases bestCandidate? earlier with
      | none =>
          rfl
      | some champion =>
          simp only [Option.map_some, Option.elim_some, Candidate.rank_renumber ascends]
          split <;> rfl

/-- An ascending renumbering of the rules changes nothing in what is selected. -/
theorem selection_map_renumber
    (context : Context)
    (rules : List Rule) :
    selection context (rules.map (Rule.renumber number)) = selection context rules := by
  have candidates :
      (rules.map (Rule.renumber number)).filterMap (candidate? context) =
        (rules.filterMap (candidate? context)).map (Candidate.renumber number) := by
    rw [List.filterMap_map, List.map_filterMap]
    exact List.filterMap_congr fun rule _ => candidate?_renumber number context rule
  rw [selection, candidates, bestCandidate?_map_renumber ascends, Option.map_map]
  rfl

end Ascending

end Colloquy
