import VectorClient.DataError

/-!
# Errors of clients and iterations

An error has a kind, by which callers tell errors apart, and a message. The same
data error is the caller's fault while a request is built and the server's while
a reply is read.
-/

namespace VectorClient

/-- The classes of errors that callers tell apart. -/
inductive ErrorKind where
  | invalidArgument
  | dataSchemaMismatch
  | notSupported
  | timeout
  | rpcFailed
  | serverFailed
  | unknown
deriving DecidableEq, Repr

namespace ErrorKind

def name : ErrorKind → String
  | invalidArgument => "InvalidArgument"
  | dataSchemaMismatch => "DataSchemaMismatch"
  | notSupported => "NotSupported"
  | timeout => "Timeout"
  | rpcFailed => "RpcFailed"
  | serverFailed => "ServerFailed"
  | unknown => "UnknownError"

def all : List ErrorKind :=
  [invalidArgument, dataSchemaMismatch, notSupported, timeout, rpcFailed, serverFailed, unknown]

/-- What stands before the message. -/
def label : ErrorKind → String
  | invalidArgument => "invalid argument"
  | dataSchemaMismatch => "data schema mismatch"
  | notSupported => "not supported"
  | timeout => "timeout"
  | rpcFailed => "rpc failed"
  | serverFailed => "server failed"
  | unknown => "unknown error"

end ErrorKind

/-- An error of a client or an iteration. -/
structure ClientError where
  kind : ErrorKind
  message : String
deriving DecidableEq, Repr

namespace ClientError

def text (e : ClientError) : String := e.kind.label ++ ": " ++ e.message

/-- Puts what was being done in front of the message. -/
def inContext (context : String) (e : ClientError) : ClientError :=
  { e with message := context ++ ": " ++ e.message }

/-- An error found while a reply is read: the server broke the contract. -/
def ofReply (e : DataError) : ClientError := ⟨.unknown, e.message⟩

/-- An error found while a request is built. -/
def ofRequest (e : DataError) : ClientError := ⟨.invalidArgument, e.message⟩

end ClientError

end VectorClient
