import AgentSpec.Definition.Agent
import AgentSpec.Draft.Required

/-! Completion criteria in the making. -/
namespace AgentSpec

structure CriteriaDraft where
  success : Option String := none
  failure : Option String := none
deriving DecidableEq

inductive CriteriaEdit where
  | success (condition : String)
  | failure (condition : String)
deriving DecidableEq

namespace CriteriaDraft

def edit (draft : CriteriaDraft) : CriteriaEdit → CriteriaDraft
  | .success condition => { draft with success := some condition }
  | .failure condition => { draft with failure := some condition }

/-- The criteria, if both conditions are set. -/
def finish (draft : CriteriaDraft) : Except Defect Criteria := do
  let success ← Draft.require draft.success "success" "CompletionCriteriaBuilder"
  let failure ← Draft.require draft.failure "failure" "CompletionCriteriaBuilder"
  pure ⟨success, failure⟩

end CriteriaDraft

end AgentSpec
