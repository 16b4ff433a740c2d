import Mathlib.Data.List.Nodup
import Mathlib.Data.List.Perm.Basic
import VectorClient.Proofs.Column.Layout
import VectorClient.Proofs.ResultSet.Records

/-!
# Merged result sets

Appending goes by column name. An append that succeeded has joined every column of
the target to the first column of that name in the source. Between result sets of
one schema, which have the same uniquely named columns in any order, appending
succeeds, and the records of the source follow those of the target.
-/

namespace VectorClient.ResultSet

theorem counterpart_ok {source : List Column} {c d : Column} (h : counterpart source c = .ok d) :
    source.find? (fun d => d.name == c.name) = some d := by
  rw [counterpart] at h
  split at h
  · cases h
  · rename_i d' hfind
    split at h
    · cases h
      exact hfind
    · cases h

/-- `e` is the column `c` of a target after a source with the given columns was appended. -/
def Extended (source : List Column) (c e : Column) : Prop :=
  ∃ d, counterpart source c = .ok d ∧ c.append d = .ok e

theorem Extended.joined {source : List Column} {c e : Column} (h : Extended source c e) :
    ∃ d, source.find? (fun d => d.name == c.name) = some d ∧ Column.Joined c d e := by
  obtain ⟨d, hd, hjoin⟩ := h
  exact ⟨d, counterpart_ok hd, Column.joined_of_append hjoin⟩

theorem Extended.name_eq {source : List Column} {c e : Column} (h : Extended source c e) :
    e.name = c.name := by
  obtain ⟨d, _, hjoin⟩ := h.joined
  exact hjoin.name_eq

/-- A column that cannot be extended is left as it was. -/
theorem extend_cons (target source : Column) (rest : List (Column × Column)) :
    extend ((target, source) :: rest) =
      match target.append source with
      | .error e => (.error e, target :: rest.map Prod.fst)
      | .ok joined => ((extend rest).1, joined :: (extend rest).2) := by
  rw [extend]
  obtain ⟨joined, happend, hextend⟩ | ⟨e, happend, hextend⟩ := target.extend_cases source
  · rw [happend, hextend]
  · rw [happend, hextend]

theorem forall₂_of_extend {target sources columns source : List Column}
    (hsources : target.mapM (counterpart source) = .ok sources)
    (hextend : extend (target.zip sources) = (.ok (), columns)) :
    List.Forall₂ (Extended source) target columns := by
  have hpairs := forall₂_of_mapM hsources
  clear hsources
  induction hpairs generalizing columns with
  | nil =>
      cases hextend
      exact .nil
  | @cons c d rest ds hd _ ih =>
      rw [List.zip_cons_cons, extend_cons] at hextend
      cases hjoin : c.append d with
      | error e => rw [hjoin] at hextend; cases hextend
      | ok e =>
          rw [hjoin] at hextend
          obtain ⟨hout, rfl⟩ := Prod.mk.inj hextend
          exact .cons ⟨d, hd, hjoin⟩ (ih (Prod.ext hout rfl))

theorem extend_of_forall₂ {target columns source : List Column}
    (h : List.Forall₂ (Extended source) target columns) :
    ∃ sources, target.mapM (counterpart source) = .ok sources ∧
      extend (target.zip sources) = (.ok (), columns) := by
  induction h with
  | nil => exact ⟨[], rfl, rfl⟩
  | cons hce _ ih =>
      obtain ⟨d, hd, hjoin⟩ := hce
      obtain ⟨ds, hds, hextend⟩ := ih
      refine ⟨d :: ds, by rw [List.mapM_cons, hd, hds]; rfl, ?_⟩
      rw [List.zip_cons_cons, extend_cons, hjoin]
      simp only [hextend]

/-- A target without columns takes those of the source, any other is extended column by
column. -/
theorem joined_ok {target source r : ResultSet} (h : target.joined source = .ok r) :
    (target.columns = [] ∧ r.columns = source.columns) ∨
      (target.columns ≠ [] ∧ List.Forall₂ (Extended source.columns) target.columns r.columns) := by
  rw [joined, append] at h
  cases hcolumns : appendColumns target.columns source.columns with
  | mk outcome columns =>
      rw [hcolumns] at h
      cases outcome with
      | error e => cases h
      | ok =>
          cases h
          rw [appendColumns] at hcolumns
          split at hcolumns
          · rename_i hempty
            cases hcolumns
            exact .inl ⟨List.isEmpty_iff.mp hempty, rfl⟩
          · rename_i hempty
            refine .inr ⟨fun hnil => hempty (List.isEmpty_iff.mpr hnil), ?_⟩
            cases hsources : target.columns.mapM (counterpart source.columns) with
            | error e => rw [hsources] at hcolumns; cases hcolumns
            | ok sources =>
                rw [hsources] at hcolumns
                exact forall₂_of_extend hsources hcolumns

theorem column?_joined {target source r : ResultSet} (h : target.joined source = .ok r)
    {name : String} {c : Column} (hc : target.column? name = some c) :
    ∃ d e, source.column? name = some d ∧ Column.Joined c d e ∧ r.column? name = some e := by
  rcases joined_ok h with ⟨hnil, _⟩ | ⟨_, hcolumns⟩
  · rw [column?, hnil] at hc
    cases hc
  · obtain ⟨e, he, hext⟩ := find?_name_of_forall₂ (fun _ _ h => h.name_eq) hcolumns hc
    have hname : c.name = name := by simpa using List.find?_some hc
    obtain ⟨d, hd, hjoin⟩ := hext.joined
    rw [hname] at hd
    exact ⟨d, e, hd, hjoin, he⟩

theorem Level.joined {a b r : ResultSet} {n m : Nat} (ha : a.Level n) (hb : b.Level m)
    (hne : a.columns ≠ []) (h : a.joined b = .ok r) : r.Level (n + m) := by
  have hcolumns : List.Forall₂ (Extended b.columns) a.columns r.columns := by
    rcases joined_ok h with ⟨hnil, _⟩ | ⟨_, hcolumns⟩
    · exact absurd hnil hne
    · exact hcolumns
  have hall : ∀ e ∈ r.columns, e.rowCount = n + m := by
    intro e he
    obtain ⟨c, hc, hext⟩ := mem_right_of_forall₂ hcolumns he
    obtain ⟨d, hd, hjoin⟩ := hext.joined
    rw [hjoin.rowCount_eq, ha.columns c hc, hb.columns d (List.mem_of_find?_eq_some hd)]
  refine ⟨?_, hall⟩
  rw [ResultSet.rowCount]
  generalize hr : r.columns = columns at hcolumns hall
  cases columns with
  | nil => exact absurd (List.forall₂_nil_right_iff.mp hcolumns) hne
  | cons e rest => exact hall e (List.mem_cons_self ..)

theorem append_of_forall₂ {target source : ResultSet} {columns : List Column}
    (hne : target.columns ≠ [])
    (h : List.Forall₂ (Extended source.columns) target.columns columns) :
    target.append source =
      (.ok (), ⟨columns, target.outputNames.union source.outputNames⟩) := by
  obtain ⟨sources, hsources, hextend⟩ := extend_of_forall₂ h
  have hempty : target.columns.isEmpty = false := by simpa using hne
  have happend : appendColumns target.columns source.columns = (.ok (), columns) := by
    rw [appendColumns, hempty, hsources]
    exact hextend
  rw [append, happend]

theorem joined_of_forall₂ {target source : ResultSet} {columns : List Column}
    (hne : target.columns ≠ [])
    (h : List.Forall₂ (Extended source.columns) target.columns columns) :
    target.joined source = .ok ⟨columns, target.outputNames.union source.outputNames⟩ := by
  rw [joined, append_of_forall₂ hne h]

/-- The columns stand in any order, but they have the names and layouts of `schema`; none is
ragged and all have `n` rows. -/
structure Conforms (schema : List Column) (n : Nat) (r : ResultSet) : Prop where
  even : r.Even n
  layout : (r.columns.map Column.emptyLike).Perm schema

/-- Columns that a page can be merged by: there is one, and no two have the same name. -/
structure IsSchema (schema : List Column) : Prop where
  nonempty : schema ≠ []
  distinct : (schema.map Column.name).Nodup

theorem find?_name_eq_of_mem {columns : List Column} (hnames : (columns.map Column.name).Nodup)
    {c : Column} (hc : c ∈ columns) : columns.find? (fun d => d.name == c.name) = some c := by
  induction columns with
  | nil => cases hc
  | cons d rest ih =>
      rw [List.map_cons, List.nodup_cons] at hnames
      rw [find?_name_cons]
      rcases List.mem_cons.mp hc with rfl | hmem
      · rw [if_pos rfl]
      · have hne : d.name ≠ c.name := fun heq =>
          hnames.1 (heq ▸ List.mem_map_of_mem hmem)
        rw [if_neg hne]
        exact ih hnames.2 hmem

/-- Of uniquely named columns, one of the same name is appended if it is of the same layout. -/
theorem extended_of_joined {source : List Column} (hnames : (source.map Column.name).Nodup)
    {c d e : Column} (hd : d ∈ source) (hname : d.name = c.name) (hjoin : Column.Joined c d e) :
    Extended source c e := by
  refine ⟨d, ?_, Column.append_of_joined hjoin⟩
  rw [counterpart, ← hname, find?_name_eq_of_mem hnames hd]
  simp only [hjoin.dataType_eq, hjoin.elementType_eq, and_self, if_true]

namespace Conforms

variable {schema : List Column} {n m : Nat} {a b r : ResultSet}

theorem names_perm (h : a.Conforms schema n) :
    (a.columns.map Column.name).Perm (schema.map Column.name) := by
  have hnames := h.layout.map Column.name
  rwa [List.map_map, show Column.name ∘ Column.emptyLike = Column.name from
    funext Column.emptyLike_name] at hnames

theorem columns_ne_nil (hs : IsSchema schema) (h : a.Conforms schema n) : a.columns ≠ [] := by
  intro hnil
  have hlayout := h.layout
  rw [hnil, List.map_nil, List.nil_perm] at hlayout
  exact hs.nonempty hlayout

theorem rowCount_eq (hs : IsSchema schema) (h : a.Conforms schema n) : a.rowCount = n :=
  (h.even.level (h.columns_ne_nil hs)).rowCount

theorem between (h : a.Conforms schema n) (start stop : Nat) :
    (a.between start stop).Conforms schema (min stop n - start) := by
  refine ⟨h.even.between start stop, ?_⟩
  have hlayout := h.layout
  simpa only [ResultSet.between, List.map_map, Function.comp_def, Column.emptyLike_between]
    using hlayout

/-- Every column of the target finds one of its own layout in the source. -/
theorem extended (hs : IsSchema schema) (ha : a.Conforms schema n) (hb : b.Conforms schema m)
    {c : Column} (hc : c ∈ a.columns) : ∃ e, Extended b.columns c e := by
  have hmem : c.emptyLike ∈ b.columns.map Column.emptyLike :=
    (ha.layout.trans hb.layout.symm).mem_iff.mp (List.mem_map_of_mem hc)
  obtain ⟨d, hd, hlayout⟩ := List.mem_map.mp hmem
  have hname : d.name = c.name := by
    rw [← Column.emptyLike_name d, ← Column.emptyLike_name c, hlayout]
  obtain ⟨e, he⟩ := Column.append_of_sameLayout (Column.sameLayout_of_emptyLike_eq hlayout.symm)
  refine ⟨e, extended_of_joined ?_ hd hname (Column.joined_of_append he)⟩
  exact hb.names_perm.nodup_iff.mpr hs.distinct

end Conforms

theorem emptyLike_of_extended {source columns columns' : List Column}
    (h : List.Forall₂ (Extended source) columns columns') :
    columns'.map Column.emptyLike = columns.map Column.emptyLike := by
  induction h with
  | nil => rfl
  | cons hext _ ih =>
      obtain ⟨d, _, hjoin⟩ := hext.joined
      rw [List.map_cons, List.map_cons, hjoin.emptyLike_eq, ih]

theorem Conforms.column?_isSome {schema : List Column} {n : Nat} {r : ResultSet}
    (h : r.Conforms schema n) (name : String) :
    (r.column? name).isSome ↔ name ∈ schema.map Column.name := by
  rw [← h.names_perm.mem_iff, column?, List.find?_isSome, List.mem_map]
  simp only [beq_iff_eq]

section Join

variable {schema : List Column} {n m : Nat} {a b r : ResultSet}

theorem Conforms.joined (hs : IsSchema schema) (ha : a.Conforms schema n)
    (hb : b.Conforms schema m) : ∃ r, a.joined b = .ok r ∧ r.Conforms schema (n + m) := by
  obtain ⟨columns, hcolumns⟩ : ∃ columns, List.Forall₂ (Extended b.columns) a.columns columns :=
    exists_forall₂ fun c hc => ha.extended hs hb hc
  refine ⟨_, joined_of_forall₂ (ha.columns_ne_nil hs) hcolumns, ?_, ?_⟩
  · intro e he
    obtain ⟨c, hc, hext⟩ := mem_right_of_forall₂ hcolumns he
    obtain ⟨d, hd, hjoin⟩ := hext.joined
    exact hjoin.even (ha.even c hc) (hb.even d (List.mem_of_find?_eq_some hd))
  · rw [emptyLike_of_extended hcolumns]
    exact ha.layout

/-- The rows of the target come first, also when its columns stand in another order. -/
theorem records_joined (hs : IsSchema schema) (ha : a.Conforms schema n)
    (hb : b.Conforms schema m) (h : a.joined b = .ok r) : r.records = a.records ++ b.records := by
  have hr : r.Conforms schema (n + m) := by
    obtain ⟨r', hr', hconforms⟩ := ha.joined hs hb
    rw [h] at hr'
    cases hr'
    exact hconforms
  have hcolumn : ∀ name, (a.column? name = none ∧ b.column? name = none ∧ r.column? name = none) ∨
      ∃ c d e, a.column? name = some c ∧ b.column? name = some d ∧ r.column? name = some e ∧
        c.Even n ∧ c.name = d.name ∧ Column.Joined c d e := by
    intro name
    cases hc : a.column? name with
    | none =>
        have hnot : name ∉ schema.map Column.name := by
          rw [← ha.column?_isSome, hc]
          nofun
        refine .inl ⟨rfl, ?_, ?_⟩
        · rw [← Option.not_isSome_iff_eq_none, hb.column?_isSome]
          exact hnot
        · rw [← Option.not_isSome_iff_eq_none, hr.column?_isSome]
          exact hnot
    | some c =>
        obtain ⟨d, e, hd, hjoin, he⟩ := column?_joined h hc
        have hcname : c.name = name := by simpa using List.find?_some hc
        have hdname : d.name = name := by simpa using List.find?_some hd
        exact .inr ⟨c, d, e, rfl, hd, he, ha.even c (List.mem_of_find?_eq_some hc),
          hcname.trans hdname.symm, hjoin⟩
  have hleft : ∀ row, row < n → r.record row = a.record row := by
    intro row hrow
    funext name
    rcases hcolumn name with ⟨hc, _, he⟩ | ⟨c, d, e, hc, _, he, heven, _, hjoin⟩
    · simp only [record, hc, he]
    · simp only [record, hc, he, Option.map_some]
      rw [hjoin.between_left (by omega) heven]
  have hright : ∀ row, r.record (n + row) = b.record row := by
    intro row
    funext name
    rcases hcolumn name with ⟨_, hd, he⟩ | ⟨c, d, e, _, hd, he, heven, hname, hjoin⟩
    · simp only [record, hd, he, Option.map_none]
    · simp only [record, hd, he, Option.map_some]
      rw [Nat.add_assoc, hjoin.between_right hname heven]
  rw [records, records, records, hr.rowCount_eq hs, ha.rowCount_eq hs, hb.rowCount_eq hs,
    List.range_add, List.map_append, List.map_map]
  congr 1
  · refine List.map_congr_left fun row hrow => ?_
    exact hleft row (List.mem_range.mp hrow)
  · refine List.map_congr_left fun row _ => ?_
    exact hright row

end Join

end VectorClient.ResultSet
