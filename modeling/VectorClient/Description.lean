import VectorClient.Client
import VectorClient.Text.DefaultIgnorable
import VectorClient.Text.ExtendingMark
import VectorClient.Text.Printable

/-!
# Description of a client

The text by which a client is shown to developers: its settings by name and the
number of collections whose writes it remembers.
-/

namespace VectorClient

namespace Description

def hexText (n : Nat) : String := String.ofList (Nat.toDigits 16 n)

/-- Whether a character shows as a sign of its own, wherever it stands. -/
def standsAlone (c : Char) : Bool :=
  Text.isPrintable c && !Text.isExtendingMark c && !Text.isDefaultIgnorable c

/-- A character without an escape of its own is given by number unless it stands alone. -/
def escapeChar (c : Char) : String :=
  if c = '"' then "\\\""
  else if c = '\\' then "\\\\"
  else if c = '\n' then "\\n"
  else if c = '\r' then "\\r"
  else if c = '\t' then "\\t"
  else if c.toNat = 0 then "\\0"
  else if standsAlone c then c.toString
  else "\\u\x7b" ++ hexText c.toNat ++ "\x7d"

def quoted (s : String) : String := "\"" ++ String.join (s.toList.map escapeChar) ++ "\""

/-- A number of thousandths without trailing zeros. -/
def thousandths (n : Nat) : String :=
  let digits := (Nat.toDigits 10 (1000 + n)).drop 1
  String.ofList (digits.reverse.dropWhile (· == '0')).reverse

/-- Milliseconds in the largest unit that gives a whole part. -/
def duration (ms : Nat) : String :=
  if ms = 0 then "0ns"
  else if ms < 1000 then toString ms ++ "ms"
  else if ms % 1000 = 0 then toString (ms / 1000) ++ "s"
  else toString (ms / 1000) ++ "." ++ thousandths (ms % 1000) ++ "s"

/-- Named values between braces. -/
def block (name : String) (items : List String) : String :=
  name ++ " \x7b " ++ ", ".intercalate items ++ " \x7d"

def retryPolicy (p : RetryPolicy) : String :=
  block "RetryPolicy"
    [s!"max_retry_times: {p.maxTimes}", s!"max_retry_timeout_ms: {p.timeout}",
      s!"initial_backoff_ms: {p.initialBackoff}", s!"backoff_multiplier: {p.backoffMultiplier}",
      s!"max_backoff_ms: {p.maxBackoff}", s!"retry_on_rate_limit: {p.retryRateLimit}"]

def settings (c : Client) : String :=
  block "ClientConfig"
    ["database: " ++ quoted c.database, "rpc_deadline: " ++ duration c.deadline,
      "retry: " ++ retryPolicy c.retry]

end Description

/-- The text shown for a client that remembers the writes of `tracked` collections. -/
def Client.description (c : Client) (tracked : Nat) : String :=
  Description.block "Client"
    ["config: " ++ Description.settings c, s!"tracked_collections: {tracked}", ".."]

end VectorClient
