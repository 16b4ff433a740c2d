import VectorClient.Read.Arguments

/-!
# Iterations

What the three kinds of iterations share: their phases, the checks of their
arguments, the rows still owed under a limit, and the step that hands out batches
until the first empty one or the first error.
-/

namespace VectorClient

/-- Rows that a server returns for one request at most. -/
def maxBatchSize : Nat := 16384

/-- Where an iteration stands: nothing delivered yet, something delivered, or over. -/
inductive Phase where
  | initialized
  | delivering
  | exhausted
deriving DecidableEq, Repr

namespace Phase

def name : Phase → String
  | initialized => "Initialized"
  | delivering => "Delivering"
  | exhausted => "Exhausted"

/-- The phase after a batch of the given number of rows. -/
def afterBatch (rows : Nat) : Phase := if rows = 0 then exhausted else delivering

end Phase

namespace Iteration

def checkBatchSize (batchSize : Nat) : Except ClientError Unit :=
  if batchSize = 0 ∨ maxBatchSize < batchSize then
    .error ⟨.invalidArgument,
      s!"batch size must be between 1 and {maxBatchSize}, got {batchSize}"⟩
  else .ok ()

def checkPrimaryKey (key : FieldSchema) : Except ClientError Unit :=
  if key.name.isEmpty then .error ⟨.invalidArgument, "primary key name must not be empty"⟩
  else if key.dataType.isPrimaryKeyType then .ok ()
  else .error ⟨.invalidArgument,
    s!"primary key '{key.name}' has unsupported type {key.dataType.name}"⟩

/-- A filter that a row has to meet besides the caller's. -/
def andFilter (user clause : String) : String :=
  if Text.isBlank user then clause else s!"({user}) and {clause}"

/-- Rows still owed; without a limit there is no number of them. -/
def owed (limit : Option Nat) (returned : Nat) : Option Nat := limit.map (· - returned)

/-- The smaller of a number of rows and the rows still owed. -/
def capped (owed : Option Nat) (rows : Nat) : Nat :=
  match owed with
  | none => rows
  | some n => min rows n

/-- Hands out the batch of a step unless it is empty; an error ends the iteration. -/
def handOut {ι σ β : Type} (isEmpty : β → Bool) (stop : ι → ι) :
    Except ClientError β × ι × σ → Option (Except ClientError β) × ι × σ
  | (.ok batch, it, s) => if isEmpty batch then (none, it, s) else (some (.ok batch), it, s)
  | (.error e, it, s) => (some (.error e), stop it, s)

end Iteration

end VectorClient
