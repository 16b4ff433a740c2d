import VectorClient.Proofs.SearchPages

/-!
# The names of a page's keys and scores

A page is made with a column of keys and a column of scores once it has a row, and cutting it
leaves its columns their names. Appending goes by the columns alone: a target keeps the names
of its keys and scores, but if it has no columns yet it takes those of the source, whatever they
are called. `Named.append_iff` says exactly when the two still belong together after that.
-/

namespace VectorClient

namespace ResultSet

theorem names_of_slice {r r' : ResultSet} {start stop : Nat} (h : r.slice start stop = .ok r') :
    r'.columns.map Column.name = r.columns.map Column.name :=
  names_of_forall₂ (fun _ _ hcut => (Column.slice_ok hcut).1) (slice_ok h).2

/-- Extending columns keeps their names, also behind an error. -/
theorem names_extend (pairs : List (Column × Column)) :
    (extend pairs).2.map Column.name = (pairs.map Prod.fst).map Column.name := by
  induction pairs with
  | nil => rfl
  | cons pair rest ih =>
      obtain ⟨target, source⟩ := pair
      rw [extend_cons]
      cases hjoin : target.append source with
      | error e => rfl
      | ok joined =>
          have hname := (Column.joined_of_append hjoin).name_eq
          simp only [List.map_cons, hname, ih]

/-- The columns that rows are appended to: those of the target, or those of the source if the
target has none. -/
def receiving (target source : ResultSet) : List Column :=
  if target.columns = [] then source.columns else target.columns

theorem names_append (target source : ResultSet) :
    (target.append source).2.columns.map Column.name =
      (target.receiving source).map Column.name := by
  have hnames : (appendColumns target.columns source.columns).2.map Column.name =
      (target.receiving source).map Column.name := by
    rw [appendColumns, receiving]
    by_cases hnil : target.columns = []
    · rw [hnil]
      rfl
    rw [if_neg (by simpa using hnil), if_neg hnil]
    cases hsources : target.columns.mapM (counterpart source.columns) with
    | error e => rfl
    | ok sources =>
        have hlength := (forall₂_of_mapM hsources).length_eq
        rw [names_extend, List.map_fst_zip (Nat.le_of_eq hlength)]
  rw [← hnames, append]
  rcases appendColumns target.columns source.columns with ⟨_ | _, columns⟩ <;> rfl

end ResultSet

namespace HitPage

/-- A page that has a row has its keys and its scores. -/
def Named (p : HitPage) : Prop :=
  0 < p.rowCount → (p.results.column? p.keyName).isSome ∧ (p.results.column? p.scoreName).isSome

/-- Both names of the page are among those of the columns. -/
def NamedIn (p : HitPage) (columns : List Column) : Prop :=
  p.keyName ∈ columns.map Column.name ∧ p.scoreName ∈ columns.map Column.name

theorem named_iff {p : HitPage} : p.Named ↔ (0 < p.rowCount → p.NamedIn p.columns) := by
  rw [Named, ResultSet.column?_isSome_iff, ResultSet.column?_isSome_iff]
  rfl

/-- The rows of the source can come under the names of the target: it has rows already, or none
comes, or the columns that they come to have both names. -/
def Fits (target source : HitPage) : Prop :=
  0 < target.rowCount ∨ (target.append source).2.rowCount = 0 ∨
    target.NamedIn (target.results.receiving source.results)

/-- A page without columns, or with a column of each name. -/
def Complete (p : HitPage) : Prop := p.columns = [] ∨ p.NamedIn p.columns

variable {p q : HitPage}

theorem named_of_ofColumns {keyName scoreName : String} {columns : List Column}
    {names : List String} (h : ofColumns keyName scoreName columns names = .ok p) : p.Named := by
  rw [ofColumns] at h
  cases hresults : ResultSet.ofColumns columns names with
  | error e =>
      rw [hresults] at h
      cases h
  | ok results =>
      rw [hresults] at h
      change (if results.rowCount = 0 then _ else _) = _ at h
      split at h
      · rename_i hzero
        cases h
        intro hpos
        exact absurd hzero (Nat.pos_iff_ne_zero.mp hpos)
      · split at h
        · cases h
        · rename_i hfound
          cases h
          intro _
          have hsome : ∀ name ∈ [keyName, scoreName], (results.column? name).isSome := by
            intro name hname
            have hnone := List.find?_eq_none.mp hfound name hname
            rwa [Bool.not_eq_true, Option.isNone_eq_false_iff] at hnone
          exact ⟨hsome keyName (by simp), hsome scoreName (by simp)⟩

theorem Named.slice {start stop : Nat} (hp : p.Named) (h : p.slice start stop = .ok q) :
    q.Named := by
  obtain ⟨hresults, hkey, hscore⟩ := columns_of_slice h
  have hnames := ResultSet.names_of_slice hresults
  have hrows := ResultSet.rowCount_slice hresults
  rw [named_iff, NamedIn] at hp ⊢
  intro hpos
  have hfull : 0 < p.rowCount := by
    change 0 < q.results.rowCount at hpos
    change 0 < p.results.rowCount
    omega
  obtain ⟨hkeys, hscores⟩ := hp hfull
  rw [columns, hnames, hkey, hscore]
  exact ⟨hkeys, hscores⟩

/-- The names of keys and scores still belong to columns after an append exactly if it fits. -/
theorem Named.append_iff (hp : p.Named) : (p.append q).2.Named ↔ p.Fits q := by
  have hnames := ResultSet.names_append p.results q.results
  have hnamed : (p.append q).2.NamedIn (p.append q).2.columns ↔
      p.NamedIn (p.results.receiving q.results) := by
    rw [NamedIn, NamedIn, ← hnames]
    rfl
  rw [named_iff, hnamed, Fits]
  constructor
  · intro h
    rcases Nat.eq_zero_or_pos (p.append q).2.rowCount with hzero | hpos
    · exact .inr (.inl hzero)
    · exact .inr (.inr (h hpos))
  · rintro (hfull | hzero | hin) hpos
    · have hne : p.results.columns ≠ [] := columns_ne_nil (Nat.pos_iff_ne_zero.mp hfull)
      rw [ResultSet.receiving, if_neg hne]
      exact named_iff.mp hp hfull
    · exact absurd hzero (Nat.pos_iff_ne_zero.mp hpos)
    · exact hin

/-- Pages of the same names fit if each has no columns yet or both of the columns. -/
theorem Complete.fits (hp : p.Complete) (hq : q.Complete) (hkey : q.keyName = p.keyName)
    (hscore : q.scoreName = p.scoreName) : p.Fits q := by
  rw [Fits, ResultSet.receiving]
  rcases hp with hnone | hin
  · rw [if_pos (show p.results.columns = [] from hnone)]
    rcases hq with hnone' | hin'
    · have hnames := ResultSet.names_append p.results q.results
      rw [ResultSet.receiving, if_pos (show p.results.columns = [] from hnone),
        show q.results.columns = [] from hnone'] at hnames
      exact .inr (.inl (rowCount_of_columns_eq_nil (List.map_eq_nil_iff.mp hnames)))
    · rw [NamedIn, hkey, hscore] at hin'
      exact .inr (.inr hin')
  · have hne : p.results.columns ≠ [] := by
      intro hnil
      have hmem := hin.1
      rw [columns, hnil] at hmem
      cases hmem
    rw [if_neg hne]
    exact .inr (.inr hin)

/-- The pages that come of pages made from columns, where every append is `Allowed`; behind an
error of an append stands what the target has become. -/
inductive Built (Allowed : HitPage → HitPage → Prop) : HitPage → Prop
  | ofColumns {keyName scoreName : String} {columns : List Column} {names : List String}
      {p : HitPage} (h : ofColumns keyName scoreName columns names = .ok p) : Built Allowed p
  | emptyLike {p : HitPage} (hp : Built Allowed p) : Built Allowed p.emptyLike
  | slice {p q : HitPage} {start stop : Nat} (hp : Built Allowed p)
      (h : p.slice start stop = .ok q) : Built Allowed q
  | append {p q : HitPage} (hp : Built Allowed p) (hq : Built Allowed q) (h : Allowed p q) :
      Built Allowed (p.append q).2

/-- By induction on how the page was made. -/
theorem Built.named (h : Built Fits p) : p.Named := by
  induction h with
  | ofColumns h => exact named_of_ofColumns h
  | emptyLike => exact fun hpos => absurd hpos (Nat.lt_irrefl 0)
  | slice _ h ih => exact ih.slice h
  | append _ _ hfits ih => exact ih.append_iff.mpr hfits

/-- However a page was made and whatever its names are: it has its keys and its scores once it
has a row, as long as rows are only appended where they fit. Of what is appended next it keeps
them exactly if that fits, and a complete page of the same names always fits a complete one. -/
theorem named_of_built {p : HitPage} (h : Built Fits p) :
    p.Named ∧
    (∀ q : HitPage, (p.append q).2.Named ↔ p.Fits q) ∧
    (∀ q : HitPage, p.Complete → q.Complete → q.keyName = p.keyName →
      q.scoreName = p.scoreName → p.Fits q) := by
  have hnamed := h.named
  refine ⟨hnamed, ?_, ?_⟩
  · intro q
    exact hnamed.append_iff
  · intro q hp hq hkey hscore
    exact hp.fits hq hkey hscore

namespace Sample

def columns : List Column := [.scalars .int64 "pk" [1], .scalars .float "distance" [.ofNat 0]]

def hit : HitPage := ⟨"pk", "distance", ⟨columns, .ofList []⟩⟩

end Sample

/-- A page without columns gets a row from a page of the same names. -/
theorem named_of_built_appended :
    Built Fits (Sample.hit.emptyLike.append Sample.hit).2 ∧
      (Sample.hit.emptyLike.append Sample.hit).2.rowCount = 1 ∧
      (Sample.hit.emptyLike.append Sample.hit).2.Named := by
  have hmade : ofColumns "pk" "distance" Sample.columns [] = .ok Sample.hit := rfl
  have hhit : Built Fits Sample.hit := .ofColumns hmade
  have hempty : Built Fits Sample.hit.emptyLike := .emptyLike hhit
  obtain ⟨-, hkept, hfits⟩ := named_of_built hempty
  have hfit : Sample.hit.emptyLike.Fits Sample.hit :=
    hfits _ (.inl rfl) (.inr ⟨by decide, by decide⟩) rfl rfl
  exact ⟨.append hempty hhit hfit, rfl, (hkept _).mpr hfit⟩

/-- It gets the row from a page of other names as well, but loses its key. -/
example :
    let page := (append ⟨"id", "score", .empty⟩ Sample.hit).2
    page.rowCount = 1 ∧ (page.results.column? page.keyName).isNone := by
  decide

end HitPage

end VectorClient
