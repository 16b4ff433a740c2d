import VectorClient.Proofs.Column.Rows
import VectorClient.Proofs.Dict
import VectorClient.Proofs.PrimaryKey
import VectorClient.Proofs.ResultSet.Merge

/-!
# Rows of appended and cut result sets

A result set is well-formed if no two columns have one name and every column has as many rows as
the result set, at every depth. To such a result set the rows of another can be appended if the
other has, for each of the columns, one of the same name and layout, wherever it stands and
whatever other columns there are. The columns stay in their order, and each has its own rows first.

A well-formed result set that was cut in two is put together again by appending one piece to the
other, and its rendered rows are cut where the columns are cut.
-/

namespace VectorClient.ResultSet

/-- Names tell the columns apart and no column is ragged. A set of names is kept in order. -/
structure WellFormed (r : ResultSet) : Prop where
  distinct : (r.columns.map Column.name).Nodup
  even : r.Even r.rowCount
  sorted : r.outputNames.Sorted

/-- Every column of the target has one of its name and layout in the source. -/
def Matches (target source : ResultSet) : Prop :=
  ∀ c ∈ target.columns, ∃ d ∈ source.columns, d.name = c.name ∧ c.Alike d

/-- `e` has the rows of `c`, and behind them those of the column of the same name in the source,
value by value and shown as documents. -/
def Lengthened (target source : ResultSet) (c e : Column) : Prop :=
  ∃ d, source.column? c.name = some d ∧ Column.Concat c d e ∧
    e.between 0 target.rowCount = c ∧
    e.between target.rowCount (target.rowCount + source.rowCount) = d

variable {target source r : ResultSet}

namespace WellFormed

theorem column?_eq (h : r.WellFormed) {c : Column} (hc : c ∈ r.columns) :
    r.column? c.name = some c :=
  find?_name_eq_of_mem h.distinct hc

theorem exists_primaryKeys? (h : r.WellFormed) {c : Column} (hc : c ∈ r.columns)
    (hkey : c.dataType.isPrimaryKeyType = true) : ∃ keys, r.primaryKeys? c.name = some keys := by
  obtain ⟨keys, hkeys⟩ := PrimaryKey.exists_ofColumn? hkey
  refine ⟨keys, ?_⟩
  rw [primaryKeys?, h.column?_eq hc]
  exact hkeys

end WellFormed

theorem Matches.exists_forall₂ (h : Matches target source) (hsource : source.WellFormed) :
    ∃ columns, List.Forall₂ (Extended source.columns) target.columns columns := by
  apply VectorClient.exists_forall₂
  intro c hc
  obtain ⟨d, hd, hname, halike⟩ := h c hc
  obtain ⟨e, he⟩ := Column.exists_append_iff.mpr halike
  exact ⟨e, extended_of_joined hsource.distinct hd hname (Column.joined_of_append he)⟩

theorem Extended.lengthened {c e : Column} (h : Extended source.columns c e)
    (htarget : target.WellFormed) (hsource : source.WellFormed) (hc : c ∈ target.columns) :
    Lengthened target source c e := by
  obtain ⟨d, hd, hjoin⟩ := h.joined
  have hname : d.name = c.name := by simpa using List.find?_some hd
  have hceven : c.Even target.rowCount := htarget.even c hc
  have hdeven : d.Even source.rowCount := hsource.even d (List.mem_of_find?_eq_some hd)
  refine ⟨d, hd, hjoin.concat ?_, ?_, ?_⟩
  · rwa [hceven.rowCount]
  · rw [hjoin.between_left (Nat.le_refl _) hceven, hceven.between_all]
  · rw [← Nat.add_zero target.rowCount, Nat.add_assoc, Nat.zero_add,
      hjoin.between_right hname.symm hceven, hdeven.between_all]

theorem names_of_extended {columns columns' : List Column}
    (h : List.Forall₂ (Extended source.columns) columns columns') :
    columns'.map Column.name = columns.map Column.name := by
  induction h with
  | nil => rfl
  | cons hext _ ih => rw [List.map_cons, List.map_cons, hext.name_eq, ih]

theorem WellFormed.of_extended {columns : List Column} (htarget : target.WellFormed)
    (hsource : source.WellFormed) (hne : target.columns ≠ [])
    (h : List.Forall₂ (Extended source.columns) target.columns columns) :
    WellFormed ⟨columns, target.outputNames.union source.outputNames⟩ ∧
      rowCount ⟨columns, target.outputNames.union source.outputNames⟩ =
        target.rowCount + source.rowCount := by
  have heven : Even (target.rowCount + source.rowCount)
      ⟨columns, target.outputNames.union source.outputNames⟩ := by
    intro e he
    obtain ⟨c, hc, hext⟩ := mem_right_of_forall₂ h he
    obtain ⟨d, hd, hjoin⟩ := hext.joined
    exact hjoin.even (htarget.even c hc) (hsource.even d (List.mem_of_find?_eq_some hd))
  have hcolumns : columns ≠ [] := by
    rintro rfl
    exact hne (List.forall₂_nil_right_iff.mp h)
  have hrows := (heven.level hcolumns).rowCount
  refine ⟨⟨?_, ?_, htarget.sorted.union _⟩, hrows⟩
  · rw [names_of_extended h]
    exact htarget.distinct
  · rw [hrows]
    exact heven

theorem primaryKeys?_of_extended
    (h : List.Forall₂ (Extended source.columns) target.columns r.columns) (name : String) :
    r.primaryKeys? name = (target.primaryKeys? name).bind fun keys =>
      (source.primaryKeys? name).map (keys ++ ·) := by
  cases hc : target.column? name with
  | none =>
      have hnone : r.column? name = none := by
        rw [← Option.not_isSome_iff_eq_none, column?_isSome_iff, names_of_extended h,
          ← column?_isSome_iff, hc]
        exact Bool.false_ne_true
      simp only [primaryKeys?, hc, hnone, Option.bind_none]
  | some c =>
      obtain ⟨e, he, hext⟩ := find?_name_of_forall₂ (fun _ _ hext => hext.name_eq) h hc
      obtain ⟨d, hd, hjoin⟩ := hext.joined
      have hname : c.name = name := by simpa using List.find?_some hc
      have hd' : source.column? name = some d := by rwa [hname] at hd
      have he' : r.column? name = some e := he
      simp only [primaryKeys?, hc, hd', he', Option.bind_some]
      exact PrimaryKey.ofColumn?_joined hjoin

section Split

theorem names_between (start stop : Nat) (r : ResultSet) :
    (r.between start stop).columns.map Column.name = r.columns.map Column.name := by
  simp only [between, List.map_map, Function.comp_def, Column.between_name]

/-- Cutting the columns cuts the rendered rows. -/
theorem rows_between (start stop : Nat) (r : ResultSet) :
    (r.between start stop).rows = (r.rows.take stop).drop start := by
  have hcount : rowCountOf (r.columns.map (Column.between start stop)) =
      min stop (rowCountOf r.columns) - start := rowCount_between start stop r
  simp only [rows, renderRows, between, List.filter_map, Function.comp_def, Column.between_name,
    List.map_map, hcount]
  apply List.ext_getElem
  · simp
  · intro row hleft _
    have hrow : start + row < stop := by
      simp only [List.length_map, List.length_range] at hleft
      omega
    simp only [List.getElem_map, List.getElem_range, List.getElem_drop, List.getElem_take,
      Column.cell?_between hrow]

/-- Two pieces that meet make up the whole. -/
theorem WellFormed.append_between (h : r.WellFormed) (hne : r.columns ≠ []) {k : Nat}
    (hk : k ≤ r.rowCount) :
    (r.between 0 k).append (r.between k r.rowCount) = (.ok (), r) := by
  have hback : ((r.between k r.rowCount).columns.map Column.name).Nodup := by
    rw [names_between]
    exact h.distinct
  have hcolumns : List.Forall₂ (Extended (r.between k r.rowCount).columns)
      (r.between 0 k).columns r.columns := by
    apply List.forall₂_map_left_iff.mpr
    apply List.forall₂_same.mpr
    intro c hc
    have hmeet := Column.joined_between (Nat.zero_le k) hk c
    rw [(h.even c hc).between_all] at hmeet
    refine extended_of_joined hback (List.mem_map_of_mem hc) ?_ hmeet
    rw [Column.between_name, Column.between_name]
  have hfront : (r.between 0 k).columns ≠ [] := by
    simpa [between] using hne
  rw [append_of_forall₂ hfront hcolumns]
  exact congrArg (fun names => (Except.ok (), ResultSet.mk r.columns names))
    (h.sorted.union_of_subset (List.Subset.refl _))

end Split

/-- The rows of a well-formed result set are appended to those of another by column name. That
succeeds if the other has columns and each has one of its name and layout in the first, in
whatever order and among whatever others; names and order of the columns stay, the rows of the
target come first in all of them, and so do its keys, and what was asked for is all that either
was asked for.

A well-formed result set, as this one is again, can be cut into two pieces, and the second
appended to the first gives back the whole. The rendered rows of a piece are those of the whole. -/
theorem append_and_split :
    (∀ target source : ResultSet, target.WellFormed → source.WellFormed → target.columns ≠ [] →
      Matches target source → ∃ r, target.append source = (.ok (), r) ∧ r.WellFormed ∧
        r.columns.map Column.name = target.columns.map Column.name ∧
        r.rowCount = target.rowCount + source.rowCount ∧
        (∀ e ∈ r.columns, e.Even (target.rowCount + source.rowCount)) ∧
        List.Forall₂ (Lengthened target source) target.columns r.columns ∧
        (∀ c ∈ target.columns, c.dataType.isPrimaryKeyType = true →
          ∃ keys others, target.primaryKeys? c.name = some keys ∧
            source.primaryKeys? c.name = some others ∧
            r.primaryKeys? c.name = some (keys ++ others)) ∧
        ∀ name, r.outputNames.contains name =
          (target.outputNames.contains name || source.outputNames.contains name)) ∧
    (∀ r : ResultSet, r.WellFormed →
      (∀ k, 0 < k → k < r.rowCount → ∃ front back, r.slice 0 k = .ok front ∧
        r.slice k r.rowCount = .ok back ∧ front.append back = (.ok (), r)) ∧
      ∀ start stop, start < stop → start < r.rowCount → ∃ piece, r.slice start stop = .ok piece ∧
        piece.rows = (r.rows.take stop).drop start) := by
  constructor
  · intro target source htarget hsource hne hmatches
    obtain ⟨columns, hcolumns⟩ := hmatches.exists_forall₂ hsource
    obtain ⟨hr, hrows⟩ := htarget.of_extended hsource hne hcolumns
    refine ⟨_, append_of_forall₂ hne hcolumns, hr, names_of_extended hcolumns, hrows,
      ?_, ?_, ?_, ?_⟩
    · rw [← hrows]
      exact hr.even
    · have hmembers : List.Forall₂ (fun c e => c ∈ target.columns ∧ Extended source.columns c e)
          target.columns columns :=
        (List.forall₂_and_left _ _).mpr ⟨fun _ hc => hc, hcolumns⟩
      exact hmembers.imp fun c e h => h.2.lengthened htarget hsource h.1
    · intro c hc hkey
      obtain ⟨d, hd, hname, halike⟩ := hmatches c hc
      obtain ⟨keys, hkeys⟩ := htarget.exists_primaryKeys? hc hkey
      obtain ⟨others, hothers⟩ := hsource.exists_primaryKeys? hd (halike.dataType_eq ▸ hkey)
      rw [hname] at hothers
      refine ⟨keys, others, hkeys, hothers, ?_⟩
      rw [primaryKeys?_of_extended hcolumns, hkeys, hothers]
      rfl
    · intro name
      exact NameSet.contains_union ..
  · intro r hr
    constructor
    · intro k hpos hk
      have hne : r.columns ≠ [] := by
        intro hnil
        rw [rowCount, hnil] at hk
        exact absurd hk (Nat.not_lt_zero k)
      refine ⟨r.between 0 k, r.between k r.rowCount, ?_, ?_, ?_⟩
      · exact slice_eq_between hr.even hpos (by omega)
      · exact slice_eq_between hr.even hk hk
      · exact hr.append_between hne (Nat.le_of_lt hk)
    · intro start stop hlt hstart
      exact ⟨r.between start stop, slice_eq_between hr.even hlt hstart, rows_between start stop r⟩

namespace Sample

/-- A book and its author, of which the number was asked for. -/
def shelf : ResultSet :=
  ⟨[.scalars .int64 "id" [1], .struct "author" [.scalars .varChar "name" ["Mary"]]],
    .ofList ["id"]⟩

/-- Two more, with another column and in another order. -/
def delivery : ResultSet :=
  ⟨[.scalars .bool "new" [true, false], .struct "author" [.scalars .varChar "name" ["Jane", "Ann"]],
    .scalars .int64 "id" [2, 3]], .ofList ["author"]⟩

theorem wellFormed_shelf : shelf.WellFormed where
  distinct := by decide
  even := by
    simp [shelf, Even, rowCount, rowCountOf, Column.Even, Column.EvenParts, Column.scalars,
      Column.rowCount]
  sorted := NameSet.sorted_ofList _

theorem wellFormed_delivery : delivery.WellFormed where
  distinct := by decide
  even := by
    simp [delivery, Even, rowCount, rowCountOf, Column.Even, Column.EvenParts, Column.scalars,
      Column.rowCount]
  sorted := NameSet.sorted_ofList _

theorem matches_delivery : Matches shelf delivery := by
  intro c hc
  rcases List.mem_pair.mp hc with rfl | rfl
  · exact ⟨.scalars .int64 "id" [2, 3], by simp [delivery], rfl, .flat rfl rfl⟩
  · refine ⟨.struct "author" [.scalars .varChar "name" ["Jane", "Ann"]], by simp [delivery],
      rfl, ?_⟩
    exact .struct (.cons rfl (.flat rfl rfl) .nil)

end Sample

/-- The three books can be cut behind the second one and put together again. -/
theorem append_and_split_delivery :
    ∃ r, Sample.shelf.append Sample.delivery = (.ok (), r) ∧ r.rowCount = 3 ∧
      r.primaryKeys? "id" = some [.int 1, .int 2, .int 3] ∧
      (∃ front back, r.slice 0 2 = .ok front ∧ r.slice 2 3 = .ok back ∧
        front.append back = (.ok (), r)) ∧
      ∃ piece, r.slice 1 9 = .ok piece ∧ piece.rows = (r.rows.take 9).drop 1 := by
  obtain ⟨hextend, hsplit⟩ := append_and_split
  obtain ⟨r, happend, hr, _, hrows, _, _, hkeys, _⟩ := hextend _ _ Sample.wellFormed_shelf
    Sample.wellFormed_delivery (List.cons_ne_nil _ _) Sample.matches_delivery
  have hrows' : r.rowCount = 3 := hrows
  obtain ⟨hhalves, hpiece⟩ := hsplit r hr
  rw [hrows'] at hhalves hpiece
  obtain ⟨keys, others, hfirst, hsecond, hboth⟩ :=
    hkeys (.scalars .int64 "id" [1]) (List.mem_cons_self ..) rfl
  refine ⟨r, happend, hrows', ?_, hhalves 2 (by decide) (by decide),
    hpiece 1 9 (by decide) (by decide)⟩
  cases hfirst
  cases hsecond
  exact hboth

end VectorClient.ResultSet
