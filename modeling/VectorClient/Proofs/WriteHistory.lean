import Mathlib.Data.Finset.Lattice.Fold
import Mathlib.Data.Finset.Option
import Mathlib.Data.List.DropRight
import Mathlib.Order.Lattice.Nat
import VectorClient.Proofs.Lists
import VectorClient.Proofs.Operation
import VectorClient.Script

/-!
# Reads that see earlier writes

Clients that share a log of writes carry out operations one after another, each of them in
a database of its own and over a service of its own. An `Event` is one operation as it
looks from outside: who has carried it out, what was attempted and what came of it.

The past tells in which database a client is, the one that it has switched to last, and so
it tells which collection an event has written or dropped. The log agrees with the past at
every moment: for a collection it holds the greatest of the timestamps that writes to it have
reported since it was last dropped, or since some client switched its database. So the request
of a read can be told from the events in front of it, without the clients and the log.
-/

namespace VectorClient

/-- An operation that was carried out. -/
structure Event (ι : Type) where
  who : ι
  operation : Operation
  answer : Answer
  /-- All attempts made meanwhile. -/
  attempts : List Attempt
  before : WriteLog
  after : WriteLog

namespace Event

variable {ι : Type}

/-- The collection that the operation writes or drops, one of the database that its client
is in. -/
def changed? (database : String) (e : Event ι) : Option CollectionId :=
  e.operation.changed?.map fun collection => ⟨database, collection⟩

/-- The timestamp of a successful write to a collection. -/
def timestamp? (database : String) (id : CollectionId) (e : Event ι) : Option Nat :=
  match e.answer with
  | .written (.ok reply) => if e.changed? database = some id then some reply.timestamp else none
  | _ => none

/-- Whether the writes to a collection need not be seen any more: some client has switched, or
it was dropped. -/
def clears (database : String) (id : CollectionId) (e : Event ι) : Bool :=
  e.operation.switched?.isSome ||
    match e.answer with
    | .dropped (.ok ()) => e.changed? database = some id
    | _ => false

/-- The read requests among those sent. -/
def reads (e : Event ι) : List QueryRequest := e.attempts.filterMap fun a => a.request.read?

/-- The collections that the other requests name. -/
def changes (e : Event ι) : List CollectionId :=
  e.attempts.filterMap fun a => a.request.changed?

/-- What the service has replied, and to which requests. -/
def replies (e : Event ι) : List ((r : Request) × r.Reply) := e.attempts.filterMap Attempt.reply?

/-- A read asks for the collection that it was told to read, in the client's database if it
was told none, and the levels without a session ask for fixed timestamps. A write or a drop
names a collection of the client's database, and it succeeds if the service says so. An
operation that failed has not touched the log. -/
structure Sound (database : String) (e : Event ι) : Prop where
  read : ∀ r ∈ e.reads, ∃ options, e.operation.options? = some options ∧
    r.database = (if options.database = "" then database else options.database) ∧
    r.collection = options.collection ∧ r.consistency = options.consistency
  useDefault : ∀ r ∈ e.reads, r.useDefaultConsistency = true ↔ r.consistency = .collectionDefault
  strong : ∀ r ∈ e.reads, r.consistency = .strong → r.guarantee = 0
  bounded : ∀ r ∈ e.reads, r.consistency = .bounded → r.guarantee = 2
  eventually : ∀ r ∈ e.reads, r.consistency = .eventually → r.guarantee = 1
  asked : e.operation.options?.isSome → ¬ e.answer.Failed → e.reads ≠ []
  change : ∀ id ∈ e.changes, e.changed? database = some id
  written : ∀ reply, e.answer = .written (.ok reply) ↔ ∃ r, ⟨.mutate r, reply⟩ ∈ e.replies
  dropped : e.answer = .dropped (.ok ()) ↔ ∃ r, ⟨.drop r, ()⟩ ∈ e.replies
  unchanged : e.answer.Failed → e.after = e.before

end Event

/-- The greatest timestamp, or 1 where there is none. -/
def latest (timestamps : Finset Nat) : Nat :=
  if timestamps = ∅ then 1 else timestamps.sup id

/-- Clients that share a log of writes. -/
structure Group (ι σ : Type) where
  client : ι → Client
  writes : WriteLog
  state : σ

section History

variable {ι σ : Type} [DecidableEq ι]

/-- The database that a client has switched to last, or the one that it was in at first. -/
def databaseOf (first : ι → String) (past : List (Event ι)) (who : ι) : String :=
  ((past.filterMap fun e => if e.who = who then e.operation.switched? else none).getLast?).getD
    (first who)

/-- The events, each with the database that its client was in when it began. -/
def placed (first : ι → String) (past : List (Event ι)) : List (String × Event ι) :=
  past.mapIdx fun n e => (databaseOf first (past.take n) e.who, e)

/-- The timestamps of the writes to a collection since it was last cleared. -/
def writtenSince (first : ι → String) (id : CollectionId) (past : List (Event ι)) : Finset Nat :=
  (((placed first past).rtakeWhile fun (database, e) => !e.clears database id).filterMap
    fun (database, e) => e.timestamp? database id).toFinset

/-- One of the clients carries out an operation. -/
def Group.step (services : ι → Service σ) (who : ι) (op : Operation) (group : Group ι σ) :
    Event ι × Group ι σ :=
  let (answer, client, writes, state, attempts) :=
    (group.client who).perform (services who).traced group.writes op (group.state, [])
  (⟨who, op, answer, attempts, group.writes, writes⟩,
    ⟨Function.update group.client who client, writes, state⟩)

/-- What happens when clients carry out these operations one after another. -/
def Group.history (services : ι → Service σ) : List (ι × Operation) → Group ι σ → List (Event ι)
  | [], _ => []
  | (who, op) :: rest, group =>
    let (event, group) := group.step services who op
    event :: group.history services rest

/-- The databases that the clients are in. -/
def Group.database (group : Group ι σ) (who : ι) : String := (group.client who).database

end History

namespace Event

variable {ι σ : Type} {e : Event ι} {r : Request} {outcome : Except ClientError r.Reply}
variable {service : Service σ} {deadline : Nat} {s s' : σ × List Attempt}

/-- Nothing but `r` was sent, and it was answered if the outcome says so. -/
structure Calls (e : Event ι) (r : Request) (outcome : Except ClientError r.Reply) : Prop where
  request_eq : ∀ a ∈ e.attempts, a.request = r
  replies_eq : e.replies = (outcome.toOption.map fun reply => ⟨r, reply⟩).toList

namespace Calls

theorem of_called (hs : s.2 = []) (he : e.attempts = s'.2)
    (h : (s' = s ∧ ∃ error, outcome = .error error) ∨ service.Called r deadline s outcome s') :
    e.Calls r outcome := by
  rcases h with ⟨rfl, error, rfl⟩ | hcalled
  · rw [hs] at he
    exact ⟨by simp [he], by simp [replies, he, Except.toOption]⟩
  · refine ⟨?_, ?_⟩
    · rw [he]
      refine hcalled.forall_request (P := fun request => request = r) rfl ?_
      simp [hs]
    · rw [replies, he, hcalled.replies_eq, hs]
      rfl

theorem read?_eq (h : e.Calls r outcome) {q : QueryRequest} (hq : q ∈ e.reads) :
    r.read? = some q := by
  obtain ⟨a, ha, hread⟩ := List.mem_filterMap.mp hq
  rwa [h.request_eq a ha] at hread

theorem changed?_eq (h : e.Calls r outcome) {id : CollectionId} (hid : id ∈ e.changes) :
    r.changed? = some id := by
  obtain ⟨a, ha, hchanged⟩ := List.mem_filterMap.mp hid
  rwa [h.request_eq a ha] at hchanged

theorem eq_of_mem_replies (h : e.Calls r outcome) {request : Request} {reply : request.Reply}
    (hreply : ⟨request, reply⟩ ∈ e.replies) : request = r := by
  rw [h.replies_eq] at hreply
  cases outcome with
  | error error => cases hreply
  | ok reply =>
      cases List.mem_singleton.mp hreply
      rfl

/-- A read that was answered has been sent. -/
theorem reads_ne_nil (h : e.Calls r outcome) {q : QueryRequest} (hread : r.read? = some q)
    (hok : ¬∃ error, outcome = .error error) : e.reads ≠ [] := by
  cases outcome with
  | error error => exact absurd ⟨error, rfl⟩ hok
  | ok reply =>
      have hreply : ⟨r, reply⟩ ∈ e.replies := by
        rw [h.replies_eq]
        exact List.mem_singleton_self _
      obtain ⟨a, ha, _⟩ := List.mem_filterMap.mp hreply
      have hsent : q ∈ e.reads := List.mem_filterMap.mpr ⟨a, ha, by rwa [h.request_eq a ha]⟩
      exact List.ne_nil_of_mem hsent

end Calls

/-- How an operation looks from outside, told by what the client has done. -/
structure Traced (c : Client) (e : Event ι) : Prop where
  read : ∀ r ∈ e.reads, ∃ options parameters, e.operation.options? = some options ∧
    r = { options.request (c.readContext e.before) with parameters }
  asked : e.operation.options?.isSome → ¬ e.answer.Failed → e.reads ≠ []
  change : ∀ target ∈ e.changes, e.changed? c.database = some target
  written : ∀ reply, e.answer = .written (.ok reply) ↔ ∃ r, ⟨.mutate r, reply⟩ ∈ e.replies
  dropped : e.answer = .dropped (.ok ()) ↔ ∃ r, ⟨.drop r, ()⟩ ∈ e.replies
  unchanged : e.answer.Failed → e.after = e.before
  log : ∀ target, e.after.get? target =
    if e.clears c.database target then none
    else match e.timestamp? c.database target with
      | some ts => some (max ((e.before.get? target).getD 0) ts)
      | none => e.before.get? target

namespace Traced

variable {c : Client} {writes writes' : WriteLog} {state state' : σ} {who : ι}
variable {attempts : List Attempt} {op : Operation} {collection : String}

theorem mutation {kind : MutationKind} {columns : List Column} {filter : String}
    {outcome : Except ClientError MutationReply} (hoptions : op.options? = none)
    (hswitched : op.switched? = none) (hchanged : op.changed? = some collection)
    (h : c.mutate service.traced writes collection kind columns filter (state, []) =
      (outcome, writes', state', attempts)) :
    Traced c ⟨who, op, .written outcome, attempts, writes, writes'⟩ := by
  have hcalls : Calls ⟨who, op, .written outcome, attempts, writes, writes'⟩
      (.mutate ⟨c.database, collection, "", kind, columns, filter⟩) outcome :=
    .of_called rfl rfl (Client.mutate_called h)
  constructor
  case read =>
    intro r hr
    cases hcalls.read?_eq hr
  case asked => simp [hoptions]
  case change =>
    intro target htarget
    rw [Event.changed?, hchanged]
    exact hcalls.changed?_eq htarget
  case written =>
    intro reply
    rw [hcalls.replies_eq]
    cases outcome <;> simp [Except.toOption, eq_comm]
  case dropped =>
    rw [hcalls.replies_eq]
    cases outcome <;> simp [Except.toOption]
  case unchanged =>
    rcases Client.mutate_cases h with ⟨_, rfl, rfl⟩ | ⟨_, rfl, _⟩
    · exact fun _ => rfl
    · exact nofun
  case log =>
    intro target
    rcases Client.mutate_cases h with ⟨_, rfl, rfl⟩ | ⟨reply, rfl, rfl⟩
    · simp [clears, timestamp?, hswitched]
    · simp only [clears, timestamp?, Event.changed?, hswitched, hchanged, Option.map_some,
        WriteLog.get?_record]
      by_cases htarget : target = ⟨c.database, collection⟩
      · subst htarget
        simp
      · simp [htarget, Ne.symm htarget]

theorem dropping {outcome : Except ClientError Unit}
    (h : c.dropCollection service.traced writes collection (state, []) =
      (outcome, writes', state', attempts)) :
    Traced c ⟨who, .dropCollection collection, .dropped outcome, attempts, writes, writes'⟩ := by
  have hcalls : Calls
      ⟨who, .dropCollection collection, .dropped outcome, attempts, writes, writes'⟩
      (.drop ⟨c.database, collection⟩) outcome :=
    .of_called rfl rfl (Client.dropCollection_called h)
  constructor
  case read =>
    intro r hr
    cases hcalls.read?_eq hr
  case asked => exact nofun
  case change =>
    intro target htarget
    exact hcalls.changed?_eq htarget
  case written =>
    intro reply
    rw [hcalls.replies_eq]
    cases outcome <;> simp [Except.toOption]
  case dropped =>
    rw [hcalls.replies_eq]
    cases outcome <;> simp [Except.toOption]
  case unchanged =>
    rcases Client.dropCollection_cases h with ⟨_, rfl, rfl⟩ | ⟨rfl, _⟩
    · exact fun _ => rfl
    · exact nofun
  case log =>
    intro target
    rcases Client.dropCollection_cases h with ⟨_, rfl, rfl⟩ | ⟨rfl, rfl⟩
    · rfl
    · simp only [clears, timestamp?, Event.changed?, Operation.changed?, Operation.switched?,
        Option.map_some, WriteLog.get?_forget]
      by_cases htarget : target = ⟨c.database, collection⟩
      · subst htarget
        simp
      · simp [htarget, Ne.symm htarget]

theorem switching (database : String) :
    Traced c ⟨who, .useDatabase database, .switched, [], writes, .empty⟩ := by
  constructor
  case written => simp [replies]
  case dropped => simp [replies]
  case log => exact fun _ => rfl
  all_goals exact nofun

/-- A read is a call for one request, and it leaves the log alone. It can fail after it was
answered. -/
theorem reading {answer : Answer} {options : ReadOptions} {parameters : Dict String}
    {r : Request} {called : Except ClientError r.Reply}
    (hcalls : Calls ⟨who, op, answer, attempts, writes, writes⟩ r called)
    (hread : r.read? = some { options.request (c.readContext writes) with parameters })
    (hoptions : op.options? = some options) (hanswer : answer.IsRead)
    (hfailed : (∃ error, called = .error error) → answer.Failed) :
    Traced c ⟨who, op, answer, attempts, writes, writes⟩ := by
  constructor
  case read =>
    intro q hq
    exact ⟨options, parameters, hoptions, Option.some.inj ((hcalls.read?_eq hq).symm.trans hread)⟩
  case asked =>
    intro _ hok
    exact hcalls.reads_ne_nil hread fun he => hok (hfailed he)
  case change =>
    intro target htarget
    have hchanged := hcalls.changed?_eq htarget
    cases r with
    | query q | search q => cases hchanged
    | mutate m | drop d => cases hread
  case written =>
    intro reply
    refine ⟨?_, ?_⟩
    · rintro rfl
      cases hanswer
    · rintro ⟨m, hreply⟩
      cases hcalls.eq_of_mem_replies hreply
      cases hread
  case dropped =>
    refine ⟨?_, ?_⟩
    · rintro rfl
      cases hanswer
    · rintro ⟨m, hreply⟩
      cases hcalls.eq_of_mem_replies hreply
      cases hread
  case unchanged => exact fun _ => rfl
  case log =>
    intro target
    simp only [clears, timestamp?, Operation.switched?_of_options? hoptions]
    cases answer <;> first | rfl | cases hanswer

/-- A read that is refused sends nothing. -/
theorem refused {answer : Answer} {options : ReadOptions} (error : ClientError)
    (hoptions : op.options? = some options) (hanswer : answer.IsRead) (hfailed : answer.Failed) :
    Traced c ⟨who, op, answer, [], writes, writes⟩ := by
  have hcalls : Calls ⟨who, op, answer, [], writes, writes⟩
      (.query (options.request (c.readContext writes))) (.error error) :=
    ⟨List.forall_mem_nil _, rfl⟩
  exact .reading hcalls rfl hoptions hanswer fun _ => hfailed

theorem query {args : QueryArguments} {outcome : Except ClientError ResultSet}
    (h : c.query service.traced writes args (state, []) = (outcome, state', attempts)) :
    Traced c ⟨who, .query args, .rows outcome, attempts, writes, writes⟩ := by
  rcases Client.query_called h with ⟨hsame, error, rfl⟩ | ⟨called, hcalled, hfailed⟩
  · cases hsame
    exact .refused error rfl trivial trivial
  · refine .reading (.of_called rfl rfl (.inr hcalled)) rfl rfl trivial fun he => ?_
    obtain ⟨error, rfl⟩ := hfailed he
    trivial

theorem search {args : SearchArguments} {outcome : Except ClientError (List HitPage)}
    (h : c.search service.traced writes args (state, []) = (outcome, state', attempts)) :
    Traced c ⟨who, .search args, .pages outcome, attempts, writes, writes⟩ := by
  rcases Client.search_called h with ⟨hsame, error, rfl⟩ | ⟨r, called, hrequest, hcalled, hfailed⟩
  · cases hsame
    exact .refused error rfl trivial trivial
  · obtain ⟨_, _, rfl⟩ := SearchArguments.eq_of_request hrequest
    refine .reading (.of_called rfl rfl (.inr hcalled)) rfl rfl trivial fun he => ?_
    obtain ⟨error, rfl⟩ := hfailed he
    trivial

end Traced

theorem Traced.sound {c : Client} (h : e.Traced c) : e.Sound c.database := by
  obtain ⟨hread, hasked, hchange, hwritten, hdropped, hunchanged, _⟩ := h
  refine ⟨?_, ?_, ?_, ?_, ?_, hasked, hchange, hwritten, hdropped, hunchanged⟩
  · intro r hr
    obtain ⟨options, _, hoptions, rfl⟩ := hread r hr
    refine ⟨options, hoptions, ?_, rfl, rfl⟩
    simp [ReadOptions.request, ReadContext.databaseFor, Client.readContext]
  all_goals
    intro r hr
    obtain ⟨options, _, _, rfl⟩ := hread r hr
  · simp [ReadOptions.request]
  all_goals
    intro hlevel
    simp only [ReadOptions.request] at hlevel ⊢
    rw [hlevel]
    rfl

end Event

section Past

variable {ι : Type} [DecidableEq ι] {first : ι → String} {past : List (Event ι)} {e : Event ι}
variable {target : CollectionId}

/-- A switch moves the client that has made it, and no other one. -/
theorem databaseOf_concat (who : ι) : databaseOf first (past ++ [e]) who =
    if e.who = who then e.operation.switched?.getD (databaseOf first past who)
    else databaseOf first past who := by
  rw [databaseOf, List.filterMap_append]
  by_cases hwho : e.who = who
  · cases hswitched : e.operation.switched? <;> simp [databaseOf, hwho, hswitched]
  · simp [databaseOf, hwho]

theorem placed_concat :
    placed first (past ++ [e]) = placed first past ++ [(databaseOf first past e.who, e)] := by
  rw [placed, List.mapIdx_concat, List.take_left]
  refine congrArg (· ++ _) (List.mapIdx_eq_mapIdx_iff.mpr fun n hn => ?_)
  rw [List.take_append_of_le_length hn.le]

/-- One more event clears the set, adds a timestamp or leaves it alone. -/
theorem writtenSince_concat : writtenSince first target (past ++ [e]) =
    if e.clears (databaseOf first past e.who) target then ∅
    else writtenSince first target past ∪
      (e.timestamp? (databaseOf first past e.who) target).toFinset := by
  rw [writtenSince, placed_concat]
  by_cases hclears : e.clears (databaseOf first past e.who) target
  · simp [hclears]
  · cases htime : e.timestamp? (databaseOf first past e.who) target <;>
      simp [writtenSince, hclears, htime]

end Past

section History

variable {ι σ : Type} [DecidableEq ι] {services : ι → Service σ} {group : Group ι σ}
variable {first : ι → String} {past : List (Event ι)} {writes : WriteLog}

/-- The log holds the greatest timestamp of every collection that was written to. -/
def Agrees (first : ι → String) (writes : WriteLog) (past : List (Event ι)) : Prop :=
  ∀ target, writes.get? target =
    if writtenSince first target past = ∅ then none
    else some ((writtenSince first target past).sup id)

namespace Agrees

theorem empty (first : ι → String) : Agrees first .empty [] := fun _ => rfl

/-- Every event keeps the log and the past in agreement. -/
theorem concat {c : Client} {e : Event ι} (h : Agrees first e.before past) (he : e.Traced c)
    (hdatabase : c.database = databaseOf first past e.who) :
    Agrees first e.after (past ++ [e]) := by
  intro target
  rw [he.log target, writtenSince_concat, hdatabase, h target]
  by_cases hclears : e.clears (databaseOf first past e.who) target
  · simp [hclears]
  · cases htime : e.timestamp? (databaseOf first past e.who) target with
    | none => simp [hclears]
    | some ts =>
      by_cases hnone : writtenSince first target past = ∅
      · simp [hclears, hnone]
      · simp [hclears, hnone, Nat.max_comm]

theorem getD_eq (h : Agrees first writes past) (target : CollectionId) :
    (writes.get? target).getD Timestamp.eventual = latest (writtenSince first target past) := by
  rw [h target, latest]
  split <;> rfl

end Agrees

namespace Group

theorem step_traced (services : ι → Service σ) (who : ι) (op : Operation) (group : Group ι σ) :
    (group.step services who op).1.Traced (group.client who) := by
  cases op with
  | insert collection columns => exact .mutation rfl rfl rfl rfl
  | upsert collection columns => exact .mutation rfl rfl rfl rfl
  | delete collection filter => exact .mutation rfl rfl rfl rfl
  | dropCollection collection => exact .dropping rfl
  | useDatabase database => exact .switching database
  | query args => exact .query rfl
  | search args => exact .search rfl

/-- A step moves its client if it is a switch, and leaves the other ones where they are. -/
theorem step_database (services : ι → Service σ) (who : ι) (op : Operation) (group : Group ι σ)
    (other : ι) : (group.step services who op).2.database other =
      if who = other then op.switched?.getD (group.database other) else group.database other := by
  have hmoved : (group.step services who op).2.client other =
      Function.update group.client who ((group.client who).perform (services who).traced
        group.writes op (group.state, [])).2.1 other := rfl
  rw [database, hmoved, Function.update_apply]
  by_cases hwho : who = other
  · subst hwho
    rw [if_pos rfl, if_pos rfl]
    cases op <;> rfl
  · rw [if_neg hwho, if_neg (Ne.symm hwho), database]

theorem history_cons (services : ι → Service σ) (who : ι) (op : Operation)
    (steps : List (ι × Operation)) (group : Group ι σ) :
    group.history services ((who, op) :: steps) =
      (group.step services who op).1 :: (group.step services who op).2.history services steps := rfl

/-- What every step keeps, whatever operation it is, holds in front of every event, by
induction on the steps. -/
theorem history_induct (Inv : List (Event ι) → Group ι σ → Prop)
    (hstep : ∀ past group who op, Inv past group →
      Inv (past ++ [(group.step services who op).1]) (group.step services who op).2)
    {steps : List (ι × Operation)} {front later : List (Event ι)} {e : Event ι}
    (hbegin : Inv past group) (h : group.history services steps = front ++ e :: later) :
    ∃ group' op, Inv (past ++ front) group' ∧ e = (group'.step services e.who op).1 := by
  induction steps generalizing group past front with
  | nil => cases front <;> cases h
  | cons step steps ih =>
    obtain ⟨who, op⟩ := step
    rw [history_cons] at h
    cases front with
    | nil =>
      obtain ⟨rfl, _⟩ := List.cons.inj h
      rw [List.append_nil]
      exact ⟨group, op, hbegin, rfl⟩
    | cons event front =>
      obtain ⟨rfl, hlater⟩ := List.cons.inj h
      rw [List.append_cons]
      exact ih (hstep past group who op hbegin) hlater

/-- The events are those of the steps, one for each. -/
theorem map_history (services : ι → Service σ) (steps : List (ι × Operation))
    (group : Group ι σ) :
    (group.history services steps).map (fun e => (e.who, e.operation)) = steps := by
  induction steps generalizing group with
  | nil => rfl
  | cons step steps ih => exact congrArg (step :: ·) (ih _)

/-- The past tells in which database every client is, and what the log holds. -/
structure Told (first : Group ι σ) (past : List (Event ι)) (group : Group ι σ) : Prop where
  database_eq : ∀ who, group.database who = databaseOf first.database past who
  agrees : first.writes = .empty → Agrees first.database group.writes past

namespace Told

theorem begin (group : Group ι σ) : Told group [] group where
  database_eq _ := rfl
  agrees hempty := by
    rw [hempty]
    exact .empty group.database

theorem step {first : Group ι σ} (h : Told first past group) (services : ι → Service σ) (who : ι)
    (op : Operation) :
    Told first (past ++ [(group.step services who op).1]) (group.step services who op).2 where
  database_eq other := by
    rw [step_database, databaseOf_concat, h.database_eq other]
    rfl
  agrees hempty := by
    have htraced := group.step_traced services who op
    exact Agrees.concat (e := (group.step services who op).1) (h.agrees hempty) htraced
      (h.database_eq who)

end Told

end Group

/-- However many clients share a log, and whatever their services answer: every event is sound
in the database that its client has switched to last. A read at session level, or at the level
of the collection, asks for the greatest timestamp of the writes in front of it that no drop
and no switch has cleared. It does not matter who wrote, nor in which order the timestamps
came. -/
theorem guarantees_of_history (services : ι → Service σ) (group : Group ι σ)
    (steps : List (ι × Operation)) :
    (group.history services steps).map (fun e => (e.who, e.operation)) = steps ∧
    ∀ past e later, group.history services steps = past ++ e :: later →
      e.Sound (databaseOf group.database past e.who) ∧
      (group.writes = .empty → ∀ r ∈ e.reads,
        r.consistency = .session ∨ r.consistency = .collectionDefault →
          r.guarantee = latest (writtenSince group.database ⟨r.database, r.collection⟩ past)) := by
  refine ⟨Group.map_history services steps group, fun past e later h => ?_⟩
  obtain ⟨group', op, htold, he⟩ := Group.history_induct (Group.Told group)
    (fun _ _ who op htold => htold.step services who op) (.begin group) h
  have htraced := group'.step_traced services e.who op
  rw [← he] at htraced
  have hdatabase : (group'.client e.who).database = databaseOf group.database past e.who :=
    htold.database_eq e.who
  rw [← hdatabase]
  refine ⟨htraced.sound, fun hempty r hr hlevel => ?_⟩
  have hbefore : e.before = group'.writes := congrArg Event.before he
  obtain ⟨options, parameters, _, rfl⟩ := htraced.read r hr
  refine Eq.trans ?_ ((htold.agrees hempty).getD_eq _)
  rw [← hbefore]
  simp only [ReadOptions.request] at hlevel ⊢
  rcases hlevel with hlevel | hlevel <;> (rw [hlevel]; rfl)

end History

namespace Sample

/-- Two clients of databases of their own. -/
def twoClients : Group Bool Script where
  client mine := ⟨if mine then "shop" else "archive", 60000, .standard⟩
  writes := .empty
  state := .ofReplies
    [.mutate ⟨.ints [1], 1, 0, 0, 40⟩, .mutate ⟨.ints [2], 1, 0, 0, 50⟩,
      .mutate ⟨.ints [3], 1, 0, 0, 30⟩, .drop, .mutate ⟨.ints [4], 1, 0, 0, 9⟩,
      .mutate ⟨.ints [4], 0, 1, 0, 3⟩, .fail (.transport .unimplemented "maintenance"),
      .query ⟨[.scalars .int64 "id" [1]], [], 0⟩]

/-- Both clients write to a collection of the same name. The second one moves to the database
of the first, which then drops the collection. After that both write to it, and two operations
on it come to nothing. At last the second client reads from the database that it is in. -/
def switchAndDrop : List (Bool × Operation) :=
  [(true, .insert "books" [.scalars .int64 "id" [1]]),
    (false, .insert "books" [.scalars .int64 "id" [2]]),
    (false, .useDatabase "shop"),
    (false, .insert "books" [.scalars .int64 "id" [3]]),
    (true, .dropCollection "books"),
    (true, .insert "books" [.scalars .int64 "id" [4]]),
    (false, .upsert "books" [.scalars .int64 "id" [4]]),
    (true, .dropCollection "books"),
    (true, .delete "books" ""),
    (false, .query { QueryArguments.ofCollection "books" with
      options := ⟨"", "books", [], "", [], .session⟩ })]

end Sample

/-- What the second client had written elsewhere, and what had been written before the drop,
does not matter; what the first client has written does. -/
theorem guarantees_of_history_twoClients : ∃ past e r,
    Sample.twoClients.history (fun _ => Script.service 0) Sample.switchAndDrop = past ++ [e] ∧
      r ∈ e.reads ∧ r.database = "shop" ∧
      writtenSince Sample.twoClients.database ⟨r.database, r.collection⟩ past = {9, 3} ∧
      r.guarantee = 9 := by
  obtain ⟨past, e, hhistory, htest⟩ := exists_concat_of_test
    (Sample.twoClients.history (fun _ => Script.service 0) Sample.switchAndDrop)
    (fun past e => e.reads.any fun r => r.consistency = .session ∧ r.database = "shop" ∧
      writtenSince Sample.twoClients.database ⟨r.database, r.collection⟩ past = {9, 3})
    (by decide +kernel)
  obtain ⟨r, hr, hread⟩ := List.any_eq_true.mp htest
  obtain ⟨hlevel, hdatabase, hwritten⟩ := of_decide_eq_true hread
  refine ⟨past, e, r, hhistory, hr, hdatabase, hwritten, ?_⟩
  have hguarantee := ((guarantees_of_history (fun _ => Script.service 0) Sample.twoClients
    Sample.switchAndDrop).2 past e [] hhistory).2 rfl r hr (.inl hlevel)
  rw [hguarantee, hwritten]
  rfl

end VectorClient
