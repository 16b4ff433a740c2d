import VectorClient.HitPage
import VectorClient.Proofs.ResultSet.Merge

/-!
# Appends that fail

Before any column is extended, each is compared with its counterpart by type and element
type. Of two flat columns this leaves nothing open. Of two struct columns it says nothing about
their parts, and whether these agree comes out only when the struct is extended in its turn.

So a failed append has changed its target in one case alone: a struct column behind the first
column has other parts than its counterpart. Then the columns before it are extended, it and
those behind it are as they were, and the columns no longer have the same number of rows if the
source had any.
-/

namespace VectorClient

namespace ResultSet

variable {target source left : ResultSet} {columns sources : List Column} {c d : Column}
variable {e : DataError}

theorem types_of_counterpart (h : counterpart columns c = .ok d) :
    c.dataType = d.dataType ∧ c.elementType = d.elementType := by
  rw [counterpart] at h
  split at h
  · cases h
  · split at h
    · rename_i _ htypes
      cases h
      exact htypes
    · cases h

/-- A counterpart of another layout is one of a struct column. -/
theorem dataType_of_counterpart (h : counterpart columns c = .ok d)
    (hlayout : c.sameLayout d = false) : c.dataType = .struct := by
  obtain ⟨htype, helement⟩ := types_of_counterpart h
  cases c with
  | struct => rfl
  | flat name k rows =>
      cases d with
      | struct => exact htype
      | flat name' l rows' =>
          have hkind : k = l := RowKind.eq_of_types htype helement
          simp [Column.sameLayout, hkind] at hlayout

/-- Every column finds a counterpart of its layout or none. -/
def LayoutsAgree (columns source : List Column) : Prop :=
  ∀ c ∈ columns, ∀ d, counterpart source c = .ok d → c.sameLayout d = true

/-- What has become of a target when a struct column that is not its first could not be
extended. -/
inductive Torn (target source : ResultSet) : ResultSet → Prop
  | intro {before extended after : List Column} {c d : Column} (hbefore : before ≠ [])
      (hcolumns : target.columns = before ++ c :: after) (hstruct : c.dataType = .struct)
      (hd : counterpart source.columns c = .ok d) (hlayout : c.sameLayout d = false)
      (hextended : List.Forall₂ (Extended source.columns) before extended) :
      Torn target source { target with columns := extended ++ c :: after }

/-- The first column that cannot be extended stays, and so do those behind it. -/
theorem extend_error {after : List Column}
    (hsources : List.Forall₂ (fun c d => counterpart source.columns c = .ok d) columns sources)
    (h : extend (columns.zip sources) = (.error e, after)) :
    ∃ before extended c d rest, columns = before ++ c :: rest ∧ after = extended ++ c :: rest ∧
      counterpart source.columns c = .ok d ∧ c.append d = .error e ∧
      List.Forall₂ (Extended source.columns) before extended := by
  induction hsources generalizing after with
  | nil => cases h
  | @cons c d rest sources hd hrest ih =>
      rw [List.zip_cons_cons, extend_cons] at h
      cases hjoin : c.append d with
      | error e' =>
          rw [hjoin] at h
          cases h
          refine ⟨[], [], c, d, rest, rfl, ?_, hd, hjoin, .nil⟩
          rw [List.map_fst_zip (Nat.le_of_eq hrest.length_eq), List.nil_append]
      | ok joined =>
          rw [hjoin] at h
          obtain ⟨houtcome, rfl⟩ := Prod.mk.inj h
          obtain ⟨before, extended, c', d', behind, rfl, hafter, hd', hjoin', hextended⟩ :=
            ih (Prod.ext houtcome rfl)
          exact ⟨c :: before, joined :: extended, c', d', behind, rfl,
            congrArg (joined :: ·) hafter, hd', hjoin', .cons ⟨d, hd, hjoin⟩ hextended⟩

theorem torn_of_append_error (h : target.append source = (.error e, left)) :
    left = target ∨ Torn target source left := by
  rw [append] at h
  cases hcolumns : appendColumns target.columns source.columns with
  | mk outcome after =>
      rw [hcolumns] at h
      cases outcome with
      | ok => cases h
      | error e' =>
          cases h
          rw [appendColumns] at hcolumns
          split at hcolumns
          · cases hcolumns
          split at hcolumns
          · -- the comparison of types has refused a column
            cases hcolumns
            exact .inl rfl
          · rename_i sources hsources
            obtain ⟨before, extended, c, d, rest, hbefore, rfl, hd, hjoin, hextended⟩ :=
              extend_error (forall₂_of_mapM hsources) hcolumns
            cases before with
            | nil =>
                cases hextended
                left
                rw [List.nil_append, ← List.nil_append (c :: rest), ← hbefore]
            | cons first before =>
                have hlayout : c.sameLayout d = false := by
                  by_contra htrue
                  obtain ⟨joined, hok⟩ :=
                    Column.append_of_sameLayout (Bool.not_eq_false _ ▸ htrue)
                  rw [hjoin] at hok
                  cases hok
                right
                exact .intro (List.cons_ne_nil _ _) hbefore (dataType_of_counterpart hd hlayout)
                  hd hlayout hextended

namespace Torn

theorem outputNames_eq (h : Torn target source left) : left.outputNames = target.outputNames := by
  cases h
  rfl

theorem not_layoutsAgree (h : Torn target source left) :
    ¬ LayoutsAgree target.columns.tail source.columns := by
  intro hagree
  cases h with
  | @intro before extended after c d hbefore hcolumns hstruct hd hlayout hextended =>
      have hmem : c ∈ target.columns.tail := by
        rw [hcolumns, List.tail_append_of_ne_nil hbefore]
        exact List.mem_append_right _ (List.mem_cons_self ..)
      rw [hagree c hmem d hd] at hlayout
      cases hlayout

/-- The columns that were extended have more rows than the others. -/
theorem not_level {n m : Nat} (h : Torn target source left) (htarget : target.Level n)
    (hsource : source.Level m) (hpos : 0 < m) (k : Nat) : ¬ left.Level k := by
  intro hlevel
  cases h with
  | @intro before extended after c d hbefore hcolumns hstruct hd hlayout hextended =>
      cases hextended with
      | nil => exact hbefore rfl
      | @cons first joined before extended hfirst hrest =>
          obtain ⟨d', hd', hjoin⟩ := hfirst.joined
          have hjoined : joined.rowCount = n + m := by
            rw [hjoin.rowCount_eq, htarget.columns first (by simp [hcolumns]),
              hsource.columns d' (List.mem_of_find?_eq_some hd')]
          have hc : c.rowCount = n := htarget.columns c (by simp [hcolumns])
          have hsame : joined.rowCount = c.rowCount := by
            rw [hlevel.columns joined (by simp), hlevel.columns c (by simp)]
          omega

end Torn

theorem eq_of_layoutsAgree (h : target.append source = (.error e, left))
    (hagree : LayoutsAgree target.columns.tail source.columns) : left = target := by
  obtain hsame | htorn := torn_of_append_error h
  · exact hsame
  · exact absurd hagree htorn.not_layoutsAgree

end ResultSet

open ResultSet in
/-- A failed append leaves the names of a result set alone, and all of it unless it tears the
columns: a struct column that is not the first has other parts than its counterpart, and the
columns before it are extended already. Where the counterparts of the columns behind the first
have the layouts of these, the target is as it was. A torn target whose columns had the same
number of rows has lost that, if there was a row to append. It is the same with pages, whose
names of keys and scores stay as well. -/
theorem unchanged_of_append_error {target source left : ResultSet} {e : DataError}
    (h : target.append source = (.error e, left)) :
    left.outputNames = target.outputNames ∧
    (left = target ∨ Torn target source left) ∧
    (LayoutsAgree target.columns.tail source.columns → left = target) ∧
    (∀ n m, target.Level n → source.Level m → 0 < m → left ≠ target → ∀ k, ¬ left.Level k) ∧
    ∀ keyName scoreName q, q.results = source →
      (HitPage.mk keyName scoreName target).append q =
        (.error e, ⟨keyName, scoreName, left⟩) := by
  have htorn := torn_of_append_error h
  refine ⟨?_, htorn, eq_of_layoutsAgree h, ?_, ?_⟩
  · obtain rfl | htorn := htorn
    · rfl
    · exact htorn.outputNames_eq
  · intro n m htarget hsource hpos hne k
    exact (htorn.resolve_left hne).not_level htarget hsource hpos k
  · intro keyName scoreName q hq
    rw [HitPage.append, hq, h]

namespace Sample

/-- One book, with its author and a year of the given kind. -/
def book (id : Int64) (part : String) (year : Column) : ResultSet :=
  ⟨[.scalars .int64 "id" [id], .struct "author" [.scalars .int64 part [1797]], year], .ofList []⟩

/-- A book whose year is a number. -/
def numbered (id : Int64) (part : String) : ResultSet :=
  book id part (.scalars .int64 "year" [1818])

/-- A book whose year is a text. -/
def worded (id : Int64) (part : String) : ResultSet :=
  book id part (.scalars .varChar "year" ["MDCCCXVIII"])

end Sample

/-- The parts of the authors agree, the years do not. -/
theorem unchanged_of_append_error_worded :
    ∃ left, (Sample.numbered 1 "born").append (Sample.worded 2 "born") =
        (.error (.typeMismatch "year" .int64 .varChar), left) ∧
      left = Sample.numbered 1 "born" ∧
      (HitPage.mk "id" "year" (Sample.numbered 1 "born")).append
          ⟨"id", "year", Sample.worded 2 "born"⟩ =
        (.error (.typeMismatch "year" .int64 .varChar), ⟨"id", "year", left⟩) := by
  have hagree : ResultSet.LayoutsAgree (Sample.numbered 1 "born").columns.tail
      (Sample.worded 2 "born").columns := by
    intro c hc d hd
    rcases List.mem_pair.mp hc with rfl | rfl
    · cases hd
      rfl
    · cases hd
  have hfails : (Sample.numbered 1 "born").append (Sample.worded 2 "born") =
      (.error (.typeMismatch "year" .int64 .varChar), Sample.numbered 1 "born") := rfl
  obtain ⟨_, _, hsame, _, hpages⟩ := unchanged_of_append_error hfails
  exact ⟨_, hfails, hsame hagree, hpages "id" "year" _ rfl⟩

/-- The parts of the authors do not agree, which is noticed behind the column of the ids. -/
example :
    let left := ((Sample.numbered 1 "born").append (Sample.numbered 2 "died")).2
    left.columns.map Column.rowCount = [2, 1, 1] := by
  decide

end VectorClient
