import VectorClient.Json.Reading
import VectorClient.Json.Text
import VectorClient.Ieee.Arithmetic
import VectorClient.HitPage
import VectorClient.Pipeline
import VectorClient.WriteLog
import VectorClient.Read.Request
import VectorClient.Read.Reply
import VectorClient.PageCache
import VectorClient.Iteration.RowCursor
import VectorClient.Iteration.SearchCursor
import VectorClient.Wire.Document
import VectorClient.Description
import VectorClient.Script
import VectorClient.Proofs.Column.Join
import VectorClient.Proofs.ResultSet.Merge
import VectorClient.Proofs.BandSearch.Accounts
import VectorClient.Proofs.WriteHistory
import VectorClient.Proofs.Iteration.Accounts
import VectorClient.Proofs.Iteration.Conservation
import VectorClient.Proofs.Iteration.Drain
import VectorClient.Proofs.Iteration.PageSize
import VectorClient.Proofs.Iteration.Snapshot
import VectorClient.Proofs.RowCursor.Table
import VectorClient.Proofs.RowCursor.Window
import VectorClient.Proofs.RowCursor.Failure
import VectorClient.Proofs.RowCursor.Surplus
import VectorClient.Proofs.BandSearch.Delivery
import VectorClient.Proofs.TokenSearch.Continued
import VectorClient.Proofs.TokenSearch.Failure
import VectorClient.Proofs.BandSearch.Exclusion
import VectorClient.Proofs.BandSearch.Width
import VectorClient.Proofs.Disturbance
import VectorClient.Proofs.Iteration.Refusal
import VectorClient.Proofs.Iteration.CallCount
import VectorClient.Proofs.ResultSet.Depth
import VectorClient.Proofs.HitPageNames
import VectorClient.Proofs.HalfVector
import VectorClient.Proofs.HalfVector.Payload
import VectorClient.Proofs.SparseVector.Payload
import VectorClient.Proofs.SparseVector.Sorting
import VectorClient.Proofs.Iteration.FilterText
import VectorClient.Proofs.Wire.SparseVector
import VectorClient.Proofs.ResultSet.FailedAppend
import VectorClient.Proofs.PageCache.Failure
import VectorClient.Proofs.PageCache.Recut
import VectorClient.Proofs.Column.Layout
import VectorClient.Proofs.Column.Rows
import VectorClient.Proofs.ResultSet.Rows
import VectorClient.Proofs.SearchPages.Names
import VectorClient.Proofs.SearchPages.Ranges
import VectorClient.Proofs.Retry.Backoff
