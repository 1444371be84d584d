import Mathlib

namespace HarvesterCloudProvider

/-!
# Executions of labelled step systems

A finite execution is a list of labels, each taken by one step of a relation.
An invariant rule turns a statement about one step into a statement about
every state an execution reaches.  An unwinding rule compares a run with the
run of the same labels without some of them.
-/

/-- The states reached from a start by finitely many labelled steps. -/
inductive Execution
    {State Label : Type}
    (step : State → Label → State → Prop)
    (start : State) :
    List Label → State → Prop where
  | nil :
      Execution step start [] start
  | snoc
      {labels : List Label}
      {reached final : State}
      {label : Label} :
      Execution step start labels reached →
      step reached label final →
      Execution step start (labels ++ [label]) final

namespace Execution

variable {State Label : Type}
variable {step : State → Label → State → Prop}
variable {start final : State}
variable {labels : List Label}

/-- What holds at the start and survives every step holds in the end. -/
theorem invariant
    (execution : Execution step start labels final)
    (property : State → Prop)
    (initially : property start)
    (preserved :
      ∀ {reached next : State} {label : Label},
        property reached →
        step reached label next →
        property next) :
    property final := by
  induction execution with
  | nil =>
      exact initially
  | snoc _ taken inductionHypothesis =>
      exact preserved inductionHypothesis taken

end Execution

section Functions

variable {State Label : Type}
variable (advance : State → Label → State)
variable (condition : State → Label → Prop)

/-- The steps of a function that are taken where a condition holds. -/
def StepsOf (reached : State) (label : Label) (next : State) : Prop :=
  condition reached label ∧ next = advance reached label

section Meeting

variable {advance condition}

/-- Steps that meet the condition where they are taken are an execution. -/
theorem execution_foldl
    {start : State}
    {labels : List Label}
    (meets :
      ∀ (before : List Label) (label : Label) (after : List Label),
        labels = before ++ label :: after →
        condition (before.foldl advance start) label) :
    Execution (StepsOf advance condition) start labels (labels.foldl advance start) := by
  induction labels using List.reverseRecOn with
  | nil =>
      exact .nil
  | append_singleton labels label inductionHypothesis =>
      rw [List.foldl_append, List.foldl_cons, List.foldl_nil]
      refine .snoc (inductionHypothesis ?_) ⟨meets labels label [] rfl, rfl⟩
      intro before next after split
      exact meets before next (after ++ [label]) (by simp [split])

/-- Moves that stand for a label in every state form an execution of those labels. -/
theorem Execution.translated
    {Move : Type}
    {translate : State → Move → Label}
    {start final : State}
    {moves : List Move}
    (execution :
      Execution
        (StepsOf (fun state move => advance state (translate state move)) fun state move =>
          condition state (translate state move))
        start moves final) :
    ∃ labels, Execution (StepsOf advance condition) start labels final := by
  induction execution with
  | nil =>
      exact ⟨[], .nil⟩
  | snoc _ taken inductionHypothesis =>
      obtain ⟨labels, earlier⟩ := inductionHypothesis
      exact ⟨_, .snoc earlier taken⟩

end Meeting

section Evaluation

variable [∀ state label, Decidable (condition state label)]

/-- Evaluate the condition in front of every step. -/
def allAllowed : State → List Label → Bool
  | _, [] => true
  | state, label :: rest =>
      decide (condition state label) && allAllowed (advance state label) rest

variable {advance condition}

theorem condition_of_allAllowed
    {start : State}
    {before after : List Label}
    {label : Label}
    (allowed : allAllowed advance condition start (before ++ label :: after) = true) :
    condition (before.foldl advance start) label := by
  induction before generalizing start with
  | nil =>
      exact of_decide_eq_true (Bool.and_eq_true_iff.mp allowed).1
  | cons first rest inductionHypothesis =>
      exact inductionHypothesis (Bool.and_eq_true_iff.mp allowed).2

/-- Steps that pass the evaluation are an execution. -/
theorem execution_of_allAllowed
    {start : State}
    {labels : List Label}
    (allowed : allAllowed advance condition start labels = true) :
    Execution (StepsOf advance condition) start labels (labels.foldl advance start) :=
  execution_foldl fun _ _ _ split => condition_of_allAllowed (split ▸ allowed)

end Evaluation

variable {advance}

/--
Two runs stay related when kept labels move both along the relation and dropped
labels, taken by the first run only, keep it.
-/
theorem related_of_dropped
    {related : State → State → Prop}
    {keeps : Label → Bool}
    {labels : List Label}
    (kept :
      ∀ label ∈ labels,
        ∀ first second : State,
          keeps label = true →
          related first second →
          related (advance first label) (advance second label))
    (dropped :
      ∀ label ∈ labels,
        ∀ first second : State,
          keeps label = false →
          related first second →
          related (advance first label) second)
    {first second : State}
    (initially : related first second) :
    related (labels.foldl advance first) ((labels.filter keeps).foldl advance second) := by
  induction labels generalizing first second with
  | nil =>
      exact initially
  | cons label rest inductionHypothesis =>
      rw [List.forall_mem_cons] at kept dropped
      rw [List.foldl_cons]
      cases keep : keeps label with
      | true =>
          rw [List.filter_cons_of_pos keep, List.foldl_cons]
          exact inductionHypothesis kept.2 dropped.2 (kept.1 first second keep initially)
      | false =>
          rw [List.filter_cons_of_neg (by rw [keep]; exact Bool.false_ne_true)]
          exact inductionHypothesis kept.2 dropped.2
            (dropped.1 first second keep initially)

end Functions

end HarvesterCloudProvider
