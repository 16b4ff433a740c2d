import VectorClient.ClientError

/-!
# Failures of one attempt

An attempt fails in the transport, with a code, or at the server, with a status.
Some transport codes are terminal: another attempt cannot succeed. Of the server's
statuses only a rate limit passes by itself. `Failure.toError` is the error that a
caller sees of a failure that is not tried again.
-/

namespace VectorClient

inductive TransportCode where
  | cancelled
  | unknown
  | invalidArgument
  | deadlineExceeded
  | notFound
  | alreadyExists
  | permissionDenied
  | resourceExhausted
  | failedPrecondition
  | aborted
  | outOfRange
  | unimplemented
  | internal
  | unavailable
  | dataLoss
  | unauthenticated
deriving DecidableEq, Repr

namespace TransportCode

def name : TransportCode → String
  | cancelled => "Cancelled"
  | unknown => "Unknown"
  | invalidArgument => "InvalidArgument"
  | deadlineExceeded => "DeadlineExceeded"
  | notFound => "NotFound"
  | alreadyExists => "AlreadyExists"
  | permissionDenied => "PermissionDenied"
  | resourceExhausted => "ResourceExhausted"
  | failedPrecondition => "FailedPrecondition"
  | aborted => "Aborted"
  | outOfRange => "OutOfRange"
  | unimplemented => "Unimplemented"
  | internal => "Internal"
  | unavailable => "Unavailable"
  | dataLoss => "DataLoss"
  | unauthenticated => "Unauthenticated"

def all : List TransportCode :=
  [cancelled, unknown, invalidArgument, deadlineExceeded, notFound, alreadyExists,
    permissionDenied, resourceExhausted, failedPrecondition, aborted, outOfRange, unimplemented,
    internal, unavailable, dataLoss, unauthenticated]

/-- Whether trying again cannot succeed. -/
def isTerminal : TransportCode → Bool
  | deadlineExceeded | permissionDenied | unauthenticated | invalidArgument | alreadyExists
  | resourceExhausted | unimplemented => true
  | _ => false

end TransportCode

/-- The older classification sent next to the numeric code. -/
inductive LegacyCode where
  | other
  | rateLimit
  | schemaMismatch
deriving DecidableEq, Repr, Inhabited

namespace LegacyCode

def name : LegacyCode → String
  | other => "Other"
  | rateLimit => "RateLimit"
  | schemaMismatch => "SchemaMismatch"

def all : List LegacyCode := [other, rateLimit, schemaMismatch]

end LegacyCode

/-- A status other than success that the server reports. -/
structure ServerStatus where
  code : Int
  legacyCode : LegacyCode
  reason : String
deriving DecidableEq, Repr

namespace ServerStatus

def rateLimitCode : Int := 8

def isRateLimit (s : ServerStatus) : Bool :=
  s.code == rateLimitCode || s.legacyCode == .rateLimit

def isSchemaMismatch (s : ServerStatus) : Bool := s.legacyCode == .schemaMismatch

def message (s : ServerStatus) : String := s!"code {s.code}: {s.reason}"

end ServerStatus

/-- Why one attempt failed. -/
inductive Failure where
  | transport (code : TransportCode) (message : String)
  | server (status : ServerStatus)
deriving DecidableEq, Repr

namespace Failure

def message : Failure → String
  | transport code message => s!"transport {code.name}: {message}"
  | server status => "server " ++ status.message

/-- Whether another attempt may succeed, given whether rate limits are waited out. -/
def isRetryable (retryRateLimit : Bool) : Failure → Bool
  | transport code _ => !code.isTerminal
  | server status => retryRateLimit && status.isRateLimit

def toError : Failure → ClientError
  | transport code message =>
    if code = .deadlineExceeded then ⟨.timeout, "deadline exceeded: " ++ message⟩
    else ⟨.rpcFailed, s!"{code.name}: {message}"⟩
  | server status =>
    if status.isSchemaMismatch then ⟨.dataSchemaMismatch, status.message⟩
    else ⟨.serverFailed, status.message⟩

end Failure

end VectorClient
