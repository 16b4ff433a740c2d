import VectorClient.Client
import VectorClient.Iteration.Basic

/-!
# Plans of search iterations

The checks that both kinds of search iterations make before anything is sent. An
index that is told how many candidates to look at has to look at a batch of them
at least.
-/

namespace VectorClient.SearchIteration

def checkTargets (plan : SearchIteration) : Except ClientError Unit :=
  if plan.search.targetCount = 1 then .ok ()
  else .error ⟨.invalidArgument,
    s!"search iterator requires exactly one target vector, got {plan.search.targetCount}"⟩

def checkCandidates (plan : SearchIteration) : Except ClientError Unit :=
  match plan.search.ef? with
  | none => .ok ()
  | some ef =>
    if ef < plan.batchSize then
      .error ⟨.invalidArgument, s!"ef ({ef}) must be at least the batch size ({plan.batchSize})"⟩
    else .ok ()

def validate (plan : SearchIteration) : Except ClientError Unit := do
  plan.search.options.validate
  Iteration.checkBatchSize plan.batchSize
  Iteration.checkPrimaryKey plan.primaryKey
  plan.checkTargets
  plan.checkCandidates

/-- Sent if positive. -/
def collectionIdParameters (plan : SearchIteration) : List (String × String) :=
  if 0 < plan.collectionId then [(Parameter.collectionId, toString plan.collectionId)] else []

end VectorClient.SearchIteration
