import VectorClient.Proofs.Column.Join

/-!
# Columns of one layout

Two columns are alike if their rows have the same type, or if they are structs with as many parts,
of which those that correspond have one name and are alike. What the columns themselves are
called, and how many rows they have, does not matter.

Rows are appended in place, and a struct is extended part by part. This could leave some parts
longer than others, but the layouts are compared first and at every depth: of alike parts none
fails, and of others none is extended. So a column is either extended as a whole or left as
it was.
-/

namespace VectorClient

theorem Scalar.eq_of_dataType {s t : Scalar} (h : s.dataType = t.dataType) : s = t := by
  revert h
  cases s <;> cases t <;> decide

/-- The types of rows and of their elements tell their kind. -/
theorem RowKind.eq_of_types {k l : RowKind} (htype : k.dataType = l.dataType)
    (helement : k.elementType = l.elementType) : k = l := by
  cases k with
  | scalar s =>
      cases l with
      | scalar t => rw [Scalar.eq_of_dataType htype]
      | _ => cases s <;> cases htype
  | array s =>
      cases l with
      | array t => rw [Scalar.eq_of_dataType (Option.some.inj helement)]
      | scalar t => cases t <;> cases htype
      | _ => cases htype
  | _ =>
      cases l with
      | scalar t => cases t <;> cases htype
      | array t => cases htype
      | _ =>
          revert htype
          decide

namespace Column

mutual

/-- The columns have the same layout. Their own names are not compared, those of parts are. -/
inductive Alike : Column → Column → Prop
  | flat {n m : String} {k l : RowKind} {a : List k.Row} {b : List l.Row}
      (htype : k.dataType = l.dataType) (helement : k.elementType = l.elementType) :
      Alike (.flat n k a) (.flat m l b)
  | struct {n m : String} {ps qs : List Column} (hparts : AlikeParts ps qs) :
      Alike (.struct n ps) (.struct m qs)

inductive AlikeParts : List Column → List Column → Prop
  | nil : AlikeParts [] []
  | cons {p q : Column} {ps qs : List Column} (hname : p.name = q.name) (h : Alike p q)
      (hrest : AlikeParts ps qs) : AlikeParts (p :: ps) (q :: qs)

end

theorem Alike.dataType_eq {c d : Column} (h : c.Alike d) : c.dataType = d.dataType := by
  cases h with
  | flat htype => exact htype
  | struct => rfl

mutual

theorem sameLayout_iff_alike : ∀ {c d : Column}, sameLayout c d = true ↔ c.Alike d
  | .flat n k a, .flat m l b => by
      rw [sameLayout, decide_eq_true_eq]
      constructor
      · rintro rfl
        exact .flat rfl rfl
      · rintro ⟨htype, helement⟩
        exact RowKind.eq_of_types htype helement
  | .struct n ps, .struct m qs => by
      rw [sameLayout, samePartLayouts_iff_alikeParts]
      exact ⟨.struct, fun | .struct hparts => hparts⟩
  | .flat _ _ _, .struct _ _ => ⟨nofun, nofun⟩
  | .struct _ _, .flat _ _ _ => ⟨nofun, nofun⟩

theorem samePartLayouts_iff_alikeParts :
    ∀ {ps qs : List Column}, samePartLayouts ps qs = true ↔ AlikeParts ps qs
  | [], [] => ⟨fun _ => .nil, fun _ => rfl⟩
  | p :: ps, q :: qs => by
      rw [samePartLayouts, Bool.and_eq_true, Bool.and_eq_true, beq_iff_eq,
        sameLayout_iff_alike, samePartLayouts_iff_alikeParts]
      constructor
      · rintro ⟨⟨hname, h⟩, hrest⟩
        exact .cons hname h hrest
      · intro hboth
        cases hboth with
        | cons hname h hrest => exact ⟨⟨hname, h⟩, hrest⟩
  | [], _ :: _ => ⟨nofun, nofun⟩
  | _ :: _, [] => ⟨nofun, nofun⟩

end

mutual

/-- What extending a column in place makes of it when it succeeds. -/
theorem extend_of_append :
    ∀ {c d e : Column}, append c d = .ok e → extend c d = (.ok (), e)
  | .flat n k a, .flat m l b, e, h => by
      rw [append] at h
      rw [extend]
      split at h
      · rename_i hkind
        cases h
        rw [dif_pos hkind]
      · cases h
  | .struct n ps, .struct m qs, e, h => by
      rw [append] at h
      rw [extend]
      split at h
      · rename_i hlayout
        cases hparts : appendParts ps qs with
        | error err =>
            rw [hparts] at h
            cases h
        | ok rs =>
            rw [hparts] at h
            cases h
            rw [if_pos hlayout, extendParts_of_append hparts]
      · cases h
  | .flat _ _ _, .struct _ _, _, h => by cases h
  | .struct _ _, .flat _ _ _, _, h => by cases h

theorem extendParts_of_append :
    ∀ {ps qs rs : List Column}, appendParts ps qs = .ok rs → extendParts ps qs = (.ok (), rs)
  | p :: ps, q :: qs, rs, h => by
      rw [appendParts] at h
      cases hhead : append p q with
      | error err =>
          rw [hhead] at h
          cases h
      | ok r =>
          cases htail : appendParts ps qs with
          | error err =>
              rw [hhead, htail] at h
              cases h
          | ok rest =>
              rw [hhead, htail] at h
              cases h
              simp only [extendParts, extend_of_append hhead, extendParts_of_append htail]
  | [], _, _, h => by
      cases h
      rfl
  | _ :: _, [], _, h => by
      cases h
      rfl

end

/-- Parts are only extended if none of them fails, so there is nothing to take back. -/
theorem extend_of_append_error {c d : Column} {err : DataError} (h : append c d = .error err) :
    extend c d = (.error err, c) := by
  cases c with
  | flat n k a =>
      cases d with
      | flat m l b =>
          rw [append] at h
          rw [extend]
          split at h
          · cases h
          · rename_i hkind
            cases h
            rw [dif_neg hkind]
      | struct => cases h; rfl
  | struct n ps =>
      cases d with
      | flat => cases h; rfl
      | struct m qs =>
          rw [append] at h
          rw [extend]
          split at h
          · rename_i hlayout
            obtain ⟨rs, hrs⟩ := appendParts_of_sameLayout hlayout
            rw [hrs] at h
            cases h
          · rename_i hlayout
            cases h
            rw [if_neg hlayout]

/-- Extending a column in place is all or nothing. -/
theorem extend_cases (c d : Column) :
    (∃ e, c.append d = .ok e ∧ c.extend d = (.ok (), e)) ∨
      ∃ err, c.append d = .error err ∧ c.extend d = (.error err, c) := by
  cases h : c.append d with
  | ok e => exact .inl ⟨e, rfl, extend_of_append h⟩
  | error err => exact .inr ⟨err, rfl, extend_of_append_error h⟩

theorem extend_eq_ok_iff {c d e : Column} : c.extend d = (.ok (), e) ↔ c.append d = .ok e := by
  refine ⟨fun h => ?_, extend_of_append⟩
  obtain ⟨e', happend, hextend⟩ | ⟨err, _, hextend⟩ := c.extend_cases d
  · rw [h] at hextend
    cases hextend
    exact happend
  · rw [h] at hextend
    cases hextend

mutual

theorem Joined.alike : ∀ {c d e : Column}, Joined c d e → c.Alike d
  | _, _, _, .flat => .flat rfl rfl
  | _, _, _, .struct h => .struct h.alikeParts

theorem JoinedParts.alikeParts : ∀ {ps qs rs : List Column}, JoinedParts ps qs rs → AlikeParts ps qs
  | _, _, _, .nil => .nil
  | _, _, _, .cons hname h hs => .cons hname h.alike hs.alikeParts

end

mutual

theorem append_of_joined : ∀ {c d e : Column}, Joined c d e → append c d = .ok e
  | _, _, _, .flat => by rw [append, dif_pos rfl]
  | _, _, _, .struct h => by
      rw [append, if_pos (samePartLayouts_iff_alikeParts.mpr h.alikeParts), appendParts_of_joined h]
      rfl

theorem appendParts_of_joined :
    ∀ {ps qs rs : List Column}, JoinedParts ps qs rs → appendParts ps qs = .ok rs
  | _, _, _, .nil => rfl
  | _, _, _, .cons _ h hs => by
      rw [appendParts, append_of_joined h, appendParts_of_joined hs]
      rfl

end

theorem extend_of_joined {c d e : Column} (h : Joined c d e) : c.extend d = (.ok (), e) :=
  extend_of_append (append_of_joined h)

theorem exists_append_iff {c d : Column} : (∃ e, c.append d = .ok e) ↔ c.Alike d := by
  constructor
  · rintro ⟨e, h⟩
    exact (joined_of_append h).alike
  · intro h
    exact append_of_sameLayout (sameLayout_iff_alike.mpr h)

/-- Appending in place succeeds on columns of one layout, whatever their names are and whether or
not their parts have as many rows, and puts the rows of the second column behind those of the
first at every depth. If the layouts differ somewhere it fails, and then the first column is as
it was, at every depth as well. -/
theorem extended_or_unchanged (c d : Column) :
    ((∃ e, c.extend d = (.ok (), e)) ↔ c.Alike d) ∧
    (∀ e, c.extend d = (.ok (), e) → Joined c d e) ∧
    ∀ err left, c.extend d = (.error err, left) → left = c := by
  refine ⟨?_, ?_, ?_⟩
  · rw [← exists_append_iff]
    exact exists_congr fun e => extend_eq_ok_iff
  · intro e h
    exact joined_of_append (extend_eq_ok_iff.mp h)
  · intro err left h
    obtain ⟨e, _, hextend⟩ | ⟨err', _, hextend⟩ := c.extend_cases d
    · rw [h] at hextend
      cases hextend
    · rw [h] at hextend
      cases hextend
      rfl

namespace Sample

/-- A number and, one level below it, a column of another kind. -/
def entry (x : Column) : Column :=
  .struct "entry" [.scalars .int64 "n" [1], .struct "inner" [.scalars .bool "known" [true], x]]

def number : Column := entry (.scalars .int64 "x" [1])

def text : Column := entry (.scalars .varChar "x" ["1"])

theorem not_alike : ¬ number.Alike text := by
  intro h
  rw [← sameLayout_iff_alike] at h
  revert h
  decide

end Sample

/-- The parts that differ stand at the end, behind others that agree. -/
theorem extended_or_unchanged_nested :
    (∃ err, Sample.number.extend Sample.text = (.error err, Sample.number)) ∧
      ∃ e, Sample.number.extend Sample.number = (.ok (), e) ∧
        Joined Sample.number Sample.number e := by
  obtain ⟨hunlike, _, hsame⟩ := extended_or_unchanged Sample.number Sample.text
  obtain ⟨halike, hjoined, _⟩ := extended_or_unchanged Sample.number Sample.number
  constructor
  · rcases h : Sample.number.extend Sample.text with ⟨err | ⟨⟩, left⟩
    · rw [hsame err left h]
      exact ⟨err, rfl⟩
    · exact absurd (hunlike.mp ⟨left, h⟩) Sample.not_alike
  · obtain ⟨e, he⟩ := halike.mpr (sameLayout_iff_alike.mp (by decide))
    exact ⟨e, he, hjoined e he⟩

end Column

end VectorClient
