import VectorClient.Proofs.PageCache

/-!
# What a failing fetch loses

A fetch, one `take` from the cache, fails at the first page that does not go behind the rows
taken before it: its columns are others, or it cannot be cut where the fetch ends. The pages
behind it have not been looked at, and they are all that is left. The rows of the refused page
and those that were taken for the batch are neither in the batch, which does not exist, nor in
the cache any more. So there is no failure after which the cache holds what it held before.
-/

namespace VectorClient.PageCache

/-- Fetching `count` rows fails at `page`: the pages before it could be taken and do not have
enough rows, and the rows wanted from it cannot be put behind theirs. -/
structure FailsAt (output : HitPage) (count : Nat) (taken : List HitPage) (page : HitPage)
    (e : DataError) : Prop where
  short : rowCount taken < count
  hasRows : page.rowCount ≠ 0
  refused : ∃ joined, Takes output count taken (.ok joined) [] ∧
    absorbFront joined page (count - rowCount taken) = .error e

section Failure

variable {output page joined : HitPage} {count : Nat} {e : DataError}
variable {taken pages rest : List HitPage} {outcome : Except ClientError HitPage}

/-- Pages that do not suffice are taken first, and then those behind them. -/
theorem Takes.append (h : Takes output count taken (.ok joined) [])
    (hshort : rowCount taken < count)
    (hmore : Takes joined (count - rowCount taken) pages outcome rest) :
    Takes output count (taken ++ pages) outcome rest := by
  generalize hok : Except.ok joined = result at h
  generalize hnil : ([] : List HitPage) = left at h
  induction h with
  | exhausted =>
    cases hok
    exact hmore
  | enough => cases hnil
  | skipped hwanted hempty _ ih =>
    rw [rowCount_cons, hempty, Nat.zero_add] at hshort hmore
    exact .skipped hwanted hempty (ih hshort hmore hok hnil)
  | whole hsome hfits hjoined _ ih =>
    rw [rowCount_cons] at hshort hmore
    rw [← Nat.sub_sub] at hmore
    exact .whole hsome hfits hjoined (ih (by omega) hmore hok hnil)
  | cut => cases hnil
  | refused => cases hok

theorem FailsAt.takes (h : FailsAt output count taken page e) (rest : List HitPage) :
    Takes output count (taken ++ page :: rest) (.error (.ofReply e)) rest := by
  obtain ⟨joined, htaken, hrefused⟩ := h.refused
  exact htaken.append h.short (.refused (Nat.sub_ne_zero_of_lt h.short) h.hasRows hrefused)

theorem FailsAt.skipped (hempty : page.rowCount = 0) {next : HitPage}
    (h : FailsAt output count taken next e) : FailsAt output count (page :: taken) next e := by
  obtain ⟨joined, htaken, hrefused⟩ := h.refused
  have hwanted : count ≠ 0 := Nat.ne_of_gt (Nat.zero_lt_of_lt h.short)
  refine ⟨?_, h.hasRows, joined, .skipped hwanted hempty htaken, ?_⟩
  · rw [rowCount_cons, hempty, Nat.zero_add]
    exact h.short
  · rw [rowCount_cons, hempty, Nat.zero_add]
    exact hrefused

theorem FailsAt.whole (hsome : page.rowCount ≠ 0) (hfits : page.rowCount ≤ count)
    (hjoined : absorb output page = .ok joined) {next : HitPage}
    (h : FailsAt joined (count - page.rowCount) taken next e) :
    FailsAt output count (page :: taken) next e := by
  obtain ⟨result, htaken, hrefused⟩ := h.refused
  have hshort := h.short
  refine ⟨?_, h.hasRows, result, .whole hsome hfits hjoined htaken, ?_⟩
  · rw [rowCount_cons]
    omega
  · rw [rowCount_cons, ← Nat.sub_sub]
    exact hrefused

/-- The error of a fetch is that of the page at which it fails, by induction on how the rows are
taken. -/
theorem Takes.failsAt {error : ClientError} (h : Takes output count pages (.error error) rest) :
    ∃ taken page e, pages = taken ++ page :: rest ∧ error = .ofReply e ∧
      FailsAt output count taken page e := by
  generalize herror : Except.error error = outcome at h
  induction h with
  | exhausted => cases herror
  | enough => cases herror
  | @skipped _ _ first _ _ _ _ hempty _ ih =>
    obtain ⟨taken, page, e, rfl, he, hfails⟩ := ih herror
    exact ⟨first :: taken, page, e, rfl, he, hfails.skipped hempty⟩
  | @whole _ _ _ first _ _ _ hsome hfits hjoined _ ih =>
    obtain ⟨taken, page, e, rfl, he, hfails⟩ := ih herror
    exact ⟨first :: taken, page, e, rfl, he, hfails.whole hsome hfits hjoined⟩
  | cut => cases herror
  | @refused _ _ page _ e hwanted hsome hfailed =>
    cases herror
    exact ⟨[], page, e, rfl, rfl, Nat.pos_of_ne_zero hwanted, hsome, _, .exhausted, hfailed⟩

end Failure

/-- A fetch fails if and only if it comes to a page that does not go behind the rows taken before
it, and leaves the pages behind this one. -/
theorem take_error_iff {pages rest : List HitPage} {count : Nat} {template : HitPage}
    {error : ClientError} : take pages count template = (.error error, rest) ↔
      ∃ taken page e, pages = taken ++ page :: rest ∧ error = .ofReply e ∧
        FailsAt template.emptyLike count taken page e := by
  constructor
  · intro h
    exact (takes_of_takeInto h).failsAt
  · rintro ⟨taken, page, e, rfl, rfl, hfails⟩
    exact (hfails.takes rest).takeInto_eq

/-- No failure leaves the rows as they were. So the cache keeps them through every error of a
fetch exactly if there is no page at which the fetch fails. Otherwise the pages behind this page
stay, and its rows and those of the pages before it are lost. -/
theorem keepsRows_iff (pages : List HitPage) (count : Nat) (template : HitPage) :
    ((∀ error rest, take pages count template = (.error error, rest) →
        records rest = records pages) ↔
      ∀ taken page behind e, pages = taken ++ page :: behind →
        ¬ FailsAt template.emptyLike count taken page e) ∧
    ∀ error rest, take pages count template = (.error error, rest) →
      rowCount rest < rowCount pages ∧
      ∃ taken page e, pages = taken ++ page :: rest ∧ error = .ofReply e ∧
        FailsAt template.emptyLike count taken page e := by
  have hlost : ∀ taken page behind e, pages = taken ++ page :: behind →
      FailsAt template.emptyLike count taken page e → rowCount behind < rowCount pages := by
    intro taken page behind e hpages hfails
    have hrows := hfails.hasRows
    rw [hpages, rowCount_append, rowCount_cons]
    omega
  refine ⟨⟨?_, ?_⟩, ?_⟩
  · intro hkeeps taken page behind e hpages hfails
    have hless := hlost taken page behind e hpages hfails
    have hsame := hkeeps _ behind (take_error_iff.mpr ⟨taken, page, e, hpages, rfl, hfails⟩)
    rw [← length_records, hsame, length_records] at hless
    exact Nat.lt_irrefl _ hless
  · intro hnone error rest h
    obtain ⟨taken, page, e, hpages, _, hfails⟩ := take_error_iff.mp h
    exact absurd hfails (hnone taken page rest e hpages)
  · intro error rest h
    obtain ⟨taken, page, e, hpages, he, hfails⟩ := take_error_iff.mp h
    exact ⟨hlost taken page rest e hpages hfails, taken, page, e, hpages, he, hfails⟩

namespace Sample

/-- A page with one hit under a numeric key, and one with a hit under a text key. -/
def unlike : List HitPage :=
  [⟨"id", "score", ⟨[.scalars .int64 "id" [1], .scalars .float "score" [.ofNat 0]], .empty⟩⟩,
    ⟨"id", "score", ⟨[.scalars .varChar "id" ["Emma"], .scalars .float "score" [.ofNat 0]],
      .empty⟩⟩]

end Sample

/-- The first of two hits is lost together with the one that does not go behind it. -/
theorem keepsRows_iff_unlike :
    ∃ error, take Sample.unlike 2 .empty = (.error error, []) ∧ rowCount Sample.unlike = 2 ∧
      rowCount [] < rowCount Sample.unlike ∧
      ∃ taken page e, Sample.unlike = taken ++ [page] ∧ error = .ofReply e ∧
        FailsAt HitPage.empty.emptyLike 2 taken page e := by
  have hfails : take Sample.unlike 2 .empty =
      (.error (.ofReply (.typeMismatch "id" .int64 .varChar)), []) := rfl
  exact ⟨_, hfails, rfl, (keepsRows_iff Sample.unlike 2 .empty).2 _ _ hfails⟩

/-- Asked for one hit alone, the same cache gives it and keeps the other. -/
example : (take Sample.unlike 1 .empty).1.toOption.map HitPage.rowCount = some 1 ∧
    (take Sample.unlike 1 .empty).2.map HitPage.rowCount = [1] := ⟨rfl, rfl⟩

end VectorClient.PageCache
