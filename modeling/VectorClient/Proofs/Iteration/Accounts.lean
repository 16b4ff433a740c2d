import VectorClient.Proofs.BandSearch.Accounts
import VectorClient.Proofs.RowCursor.Accounts
import VectorClient.Proofs.TokenSearch.Accounts
import VectorClient.Script

/-!
# Accounts of all iterations

Whatever a service answers, an iteration returns what it has delivered, stays within
its limit and its batch size, and does nothing any more once it has ended.
-/

namespace VectorClient

namespace Sample

def key : FieldSchema := .primaryKey "id" .int64

def query : QueryIteration := { QueryIteration.ofCollection "books" key with batchSize := 2 }

def search : SearchIteration :=
  { SearchIteration.ofSearch
      { SearchArguments.ofCollection "books" with
        metric := some .l2
        targets := some (.flat "embedding" .floatVector [[]]) } key with
    batchSize := 2
    limit := some 3 }

def rowsOf (keys : List Int64) : QueryReply := ⟨[.scalars .int64 "id" keys], [], 0⟩

def oneRow : QueryReply := rowsOf [1]

/-- The row that the first query asks for, and then three rows on two pages. -/
def threeRowPages : List QueryReply := [oneRow, rowsOf [1, 2], rowsOf [3], rowsOf []]

def oneHit : SearchReply :=
  ⟨⟨1, 1, [1], .ints [1], [.ofNat 0], [], [], "id", some ⟨"token", .ofNat 0⟩⟩, 0⟩

/-- A page of hits whose other columns stand in the given order. -/
def pageOf (keys : List Int64) (columns : List Column) : SearchReply :=
  ⟨⟨1, keys.length, [keys.length], .ints keys, keys.map fun _ => .ofNat 0, columns, [], "id",
    some ⟨"token", .ofNat 0⟩⟩, 0⟩

/-- One hit and then two, their columns in another order, and an empty page. -/
def threeHitPages : List SearchReply :=
  [pageOf [1] [.scalars .int64 "year" [1818], .scalars .varChar "title" ["Frankenstein"]],
    pageOf [2, 3]
      [.scalars .varChar "title" ["Persuasion", "Emma"], .scalars .int64 "year" [1817, 1815]],
    pageOf [] []]

/-- Calls for three batches. -/
def threeCalls : List (Call × WriteLog) := [(.nextBatch, .empty), (.next, .empty), (.next, .empty)]

end Sample

/-- Limits are kept and the end is final for every kind of iteration, under all services, all
arguments that are accepted, and all orders of calls. -/
theorem accounts_of_start {σ : Type} (service : Service σ) (writes : WriteLog) (client : Client)
    (s : σ) :
    (∀ plan it s', RowCursor.start service writes client plan s = (.ok it, s') →
      (RowCursor.batches service).Accounts plan.query.limit plan.batchSize it s') ∧
    (∀ plan it s', BandSearch.start service writes client plan s = (.ok it, s') →
      (BandSearch.batches service).Accounts plan.limit plan.batchSize it s') ∧
    (∀ plan it s', TokenSearch.start service writes client plan s = (.ok it, s') →
      (TokenSearch.batches service).Accounts plan.limit plan.batchSize it s') := by
  refine ⟨?_, ?_, ?_⟩
  · intro plan it s' h
    obtain ⟨hplan, hreturned⟩ := RowCursor.start_frame h
    exact (RowCursor.ledger service _ _).accounts ⟨by rw [hplan], by rw [hplan]⟩ hreturned s'
  · intro plan it s' h
    obtain ⟨hplan, hreturned, _, hcache⟩ := BandSearch.start_frame h
    exact (BandSearch.ledger service _ _).accounts ⟨by rw [hplan], by rw [hplan], hcache⟩
      hreturned s'
  · intro plan it s' h
    have heq := TokenSearch.start_eq h
    subst heq
    exact (TokenSearch.ledger service plan.limit plan.batchSize).accounts
      ⟨rfl, rfl, [], .nil⟩ rfl s'

/-- Three rows arrive on two pages and are handed out, in batches of two at most. -/
theorem accounts_of_start_scripted :
    (∃ it s, RowCursor.start (Script.service 0) .empty .standard Sample.query
        (.ofReplies (Sample.threeRowPages.map .query)) = (.ok it, s) ∧
      (RowCursor.batches (Script.service 0)).Accounts none 2 it s ∧
      (RowCursor.batches (Script.service 0)).delivered
        ((RowCursor.batches (Script.service 0)).run Sample.threeCalls it s).1 = 3 ∧
      ((RowCursor.batches (Script.service 0)).run Sample.threeCalls it s).2.1.returned = 3) ∧
    (∃ it s, BandSearch.start (Script.service 0) .empty .standard Sample.search
        (.ofReplies (Sample.threeHitPages.map .search)) = (.ok it, s) ∧
      (BandSearch.batches (Script.service 0)).Accounts (some 3) 2 it s ∧
      (BandSearch.batches (Script.service 0)).delivered
        ((BandSearch.batches (Script.service 0)).run Sample.threeCalls it s).1 = 3 ∧
      ((BandSearch.batches (Script.service 0)).run Sample.threeCalls it s).2.1.returned = 3) ∧
    (∃ it s, TokenSearch.start (Script.service 0) .empty .standard Sample.search
        (.ofReplies (.search Sample.oneHit :: Sample.threeHitPages.map .search)) = (.ok it, s) ∧
      (TokenSearch.batches (Script.service 0)).Accounts (some 3) 2 it s ∧
      (TokenSearch.batches (Script.service 0)).delivered
        ((TokenSearch.batches (Script.service 0)).run Sample.threeCalls it s).1 = 3 ∧
      ((TokenSearch.batches (Script.service 0)).run Sample.threeCalls it s).2.1.returned = 3) := by
  refine ⟨?_, ?_, ?_⟩
  · obtain ⟨it, s, h, hrun⟩ := exists_ok_of_test
      (RowCursor.start (Script.service 0) .empty .standard Sample.query
        (.ofReplies (Sample.threeRowPages.map .query)))
      (fun it s => (RowCursor.batches (Script.service 0)).delivered
        ((RowCursor.batches (Script.service 0)).run Sample.threeCalls it s).1 == 3)
      (by decide +kernel)
    have haccounts := (accounts_of_start _ _ _ _).1 _ it s h
    have hdelivered := beq_iff_eq.mp hrun
    exact ⟨it, s, h, haccounts, hdelivered, (haccounts.returned_eq _).trans hdelivered⟩
  · obtain ⟨it, s, h, hrun⟩ := exists_ok_of_test
      (BandSearch.start (Script.service 0) .empty .standard Sample.search
        (.ofReplies (Sample.threeHitPages.map .search)))
      (fun it s => (BandSearch.batches (Script.service 0)).delivered
        ((BandSearch.batches (Script.service 0)).run Sample.threeCalls it s).1 == 3)
      (by decide +kernel)
    have haccounts := (accounts_of_start _ _ _ _).2.1 _ it s h
    have hdelivered := beq_iff_eq.mp hrun
    exact ⟨it, s, h, haccounts, hdelivered, (haccounts.returned_eq _).trans hdelivered⟩
  · obtain ⟨it, s, h, hrun⟩ := exists_ok_of_test
      (TokenSearch.start (Script.service 0) .empty .standard Sample.search
        (.ofReplies (.search Sample.oneHit :: Sample.threeHitPages.map .search)))
      (fun it s => (TokenSearch.batches (Script.service 0)).delivered
        ((TokenSearch.batches (Script.service 0)).run Sample.threeCalls it s).1 == 3)
      (by decide +kernel)
    have haccounts := (accounts_of_start _ _ _ _).2.2 _ it s h
    have hdelivered := beq_iff_eq.mp hrun
    exact ⟨it, s, h, haccounts, hdelivered, (haccounts.returned_eq _).trans hdelivered⟩

end VectorClient
