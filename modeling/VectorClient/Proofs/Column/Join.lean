import VectorClient.Proofs.Column.Range

/-!
# Joined columns

`Joined` relates two columns to the one that appending makes of them. Appending
succeeds exactly on equal layouts, so everything that holds of joined columns
holds of an append that succeeded, at whatever depth its columns are ragged.
-/

namespace VectorClient.Column

mutual

/-- The rows of the second column stand behind those of the first, at every depth. -/
inductive Joined : Column → Column → Column → Prop
  | flat {n m : String} {k : RowKind} {a b : List k.Row} :
      Joined (.flat n k a) (.flat m k b) (.flat n k (a ++ b))
  | struct {n m : String} {ps qs rs : List Column} :
      JoinedParts ps qs rs → Joined (.struct n ps) (.struct m qs) (.struct n rs)

inductive JoinedParts : List Column → List Column → List Column → Prop
  | nil : JoinedParts [] [] []
  | cons {p q r : Column} {ps qs rs : List Column} :
      p.name = q.name → Joined p q r → JoinedParts ps qs rs →
      JoinedParts (p :: ps) (q :: qs) (r :: rs)

end

mutual

theorem joined_of_append : ∀ {c d e : Column}, append c d = .ok e → Joined c d e
  | .flat n k a, .flat m l b, e, h => by
      rw [append] at h
      split at h
      · rename_i hk
        subst hk
        cases h
        exact .flat
      · cases h
  | .struct n ps, .struct m qs, e, h => by
      rw [append] at h
      split at h
      · rename_i hlayout
        cases hparts : appendParts ps qs with
        | error err => rw [hparts] at h; cases h
        | ok rs =>
            rw [hparts] at h
            cases h
            exact .struct (joinedParts_of_append hlayout hparts)
      · cases h
  | .flat _ _ _, .struct _ _, _, h => by cases h
  | .struct _ _, .flat _ _ _, _, h => by cases h

theorem joinedParts_of_append : ∀ {ps qs rs : List Column}, samePartLayouts ps qs = true →
    appendParts ps qs = .ok rs → JoinedParts ps qs rs
  | [], [], rs, _, h => by
      cases h
      exact .nil
  | p :: ps, q :: qs, rs, hlayout, h => by
      simp only [samePartLayouts, Bool.and_eq_true, beq_iff_eq] at hlayout
      rw [appendParts] at h
      cases hhead : append p q with
      | error err => rw [hhead] at h; cases h
      | ok r =>
          cases htail : appendParts ps qs with
          | error err => rw [hhead, htail] at h; cases h
          | ok rest =>
              rw [hhead, htail] at h
              cases h
              exact .cons hlayout.1.1 (joined_of_append hhead)
                (joinedParts_of_append hlayout.2 htail)
  | [], _ :: _, _, hlayout, _ => by cases hlayout
  | _ :: _, [], _, hlayout, _ => by cases hlayout

end

mutual

theorem append_of_sameLayout :
    ∀ {c d : Column}, sameLayout c d = true → ∃ e, append c d = .ok e
  | .flat n k a, .flat m l b, h => by
      simp only [sameLayout, decide_eq_true_eq] at h
      subst h
      exact ⟨_, by rw [append, dif_pos rfl]⟩
  | .struct n ps, .struct m qs, h => by
      simp only [sameLayout] at h
      obtain ⟨rs, hrs⟩ := appendParts_of_sameLayout h
      exact ⟨.struct n rs, by rw [append, if_pos h, hrs]; rfl⟩
  | .flat _ _ _, .struct _ _, h => by cases h
  | .struct _ _, .flat _ _ _, h => by cases h

theorem appendParts_of_sameLayout :
    ∀ {ps qs : List Column}, samePartLayouts ps qs = true → ∃ rs, appendParts ps qs = .ok rs
  | [], [], _ => ⟨[], rfl⟩
  | p :: ps, q :: qs, h => by
      simp only [samePartLayouts, Bool.and_eq_true, beq_iff_eq] at h
      obtain ⟨r, hr⟩ := append_of_sameLayout h.1.2
      obtain ⟨rs, hrs⟩ := appendParts_of_sameLayout h.2
      exact ⟨r :: rs, by rw [appendParts, hr, hrs]; rfl⟩
  | [], _ :: _, h => by cases h
  | _ :: _, [], h => by cases h

end

@[simp] theorem emptyLike_name (c : Column) : c.emptyLike.name = c.name := by
  cases c <;> rfl

mutual

/-- Columns that are the same without their rows have the same layout. -/
theorem sameLayout_of_emptyLike_eq :
    ∀ {c d : Column}, c.emptyLike = d.emptyLike → sameLayout c d = true
  | .flat n k a, .flat m l b, h => by
      simp only [emptyLike, flat.injEq] at h
      simp [sameLayout, h.2.1]
  | .struct n ps, .struct m qs, h => by
      simp only [emptyLike, struct.injEq] at h
      exact samePartLayouts_of_emptyParts_eq h.2
  | .flat _ _ _, .struct _ _, h => by cases h
  | .struct _ _, .flat _ _ _, h => by cases h

theorem samePartLayouts_of_emptyParts_eq :
    ∀ {ps qs : List Column}, emptyParts ps = emptyParts qs → samePartLayouts ps qs = true
  | [], [], _ => rfl
  | p :: ps, q :: qs, h => by
      simp only [emptyParts, List.cons.injEq] at h
      have hname : p.name = q.name := by
        rw [← emptyLike_name p, ← emptyLike_name q, h.1]
      simp only [samePartLayouts, Bool.and_eq_true, beq_iff_eq]
      exact ⟨⟨hname, sameLayout_of_emptyLike_eq h.1⟩, samePartLayouts_of_emptyParts_eq h.2⟩
  | [], _ :: _, h => by cases h
  | _ :: _, [], h => by cases h

end

namespace Joined

variable {c d e : Column}

theorem name_eq (h : Joined c d e) : e.name = c.name := by
  cases h <;> rfl

theorem dataType_eq (h : Joined c d e) : c.dataType = d.dataType := by
  cases h <;> rfl

theorem elementType_eq (h : Joined c d e) : c.elementType = d.elementType := by
  cases h <;> rfl

theorem rowCount_eq {c d e : Column} (h : Joined c d e) :
    e.rowCount = c.rowCount + d.rowCount := by
  induction c using Column.rowCount.induct generalizing d e with
  | case1 => cases h; simp [Column.rowCount]
  | case2 => cases h with | struct hp => cases hp; simp [Column.rowCount]
  | case3 name part rest ih =>
      cases h with
      | struct hp => cases hp with | cons hn hj hrest => simpa only [Column.rowCount] using ih hj

theorem rowsOf?_eq (h : Joined c d e) {kind : RowKind} {a b : List kind.Row}
    (hc : c.rowsOf? kind = some a) (hd : d.rowsOf? kind = some b) :
    e.rowsOf? kind = some (a ++ b) := by
  rw [eq_flat_of_rowsOf? hc, eq_flat_of_rowsOf? hd] at h
  cases h
  exact rowsOf?_flat _ _ _

theorem rowsOf?_eq_none (h : Joined c d e) {kind : RowKind} (hc : c.rowsOf? kind = none) :
    d.rowsOf? kind = none ∧ e.rowsOf? kind = none := by
  cases h with
  | struct => exact ⟨rfl, rfl⟩
  | @flat n m k a b =>
      have hkind : k ≠ kind := by
        rintro rfl
        rw [rowsOf?_flat] at hc
        cases hc
      exact ⟨dif_neg hkind, dif_neg hkind⟩

end Joined

mutual

theorem Joined.emptyLike_eq : ∀ {c d e : Column}, Joined c d e → e.emptyLike = c.emptyLike
  | _, _, _, .flat => rfl
  | _, _, _, .struct h => by simp only [emptyLike, JoinedParts.emptyParts_eq h]

theorem JoinedParts.emptyParts_eq :
    ∀ {ps qs rs : List Column}, JoinedParts ps qs rs → emptyParts rs = emptyParts ps
  | _, _, _, .nil => rfl
  | _, _, _, .cons _ h hs => by
      simp only [emptyParts, Joined.emptyLike_eq h, JoinedParts.emptyParts_eq hs]

end

mutual

theorem Joined.even {n m : Nat} :
    ∀ {c d e : Column}, Joined c d e → c.Even n → d.Even m → e.Even (n + m)
  | _, _, _, .flat, hc, hd => by
      simp only [Even] at hc hd ⊢
      rw [List.length_append, hc, hd]
  | _, _, _, .struct h, hc, hd =>
      ⟨by rw [Joined.rowCount_eq (.struct h), hc.1, hd.1], JoinedParts.even h hc.2 hd.2⟩

theorem JoinedParts.even {n m : Nat} :
    ∀ {ps qs rs : List Column}, JoinedParts ps qs rs → EvenParts n ps → EvenParts m qs →
      EvenParts (n + m) rs
  | _, _, _, .nil, _, _ => trivial
  | _, _, _, .cons _ h hs, hc, hd => ⟨h.even hc.1 hd.1, hs.even hc.2 hd.2⟩

end

mutual

/-- The rows of the first column stay where they are. -/
theorem Joined.between_left {n start stop : Nat} (hstop : stop ≤ n) :
    ∀ {c d e : Column}, Joined c d e → c.Even n → e.between start stop = c.between start stop
  | _, _, _, .flat, hc => by
      simp only [Even] at hc
      simp only [between]
      rw [List.take_append_of_le_length (by omega)]
  | _, _, _, .struct h, hc => by
      simp only [between, JoinedParts.between_left hstop h hc.2]

theorem JoinedParts.between_left {n start stop : Nat} (hstop : stop ≤ n) :
    ∀ {ps qs rs : List Column}, JoinedParts ps qs rs → EvenParts n ps →
      partsBetween start stop rs = partsBetween start stop ps
  | _, _, _, .nil, _ => rfl
  | _, _, _, .cons _ h hs, hc => by
      simp only [partsBetween, h.between_left hstop hc.1, hs.between_left hstop hc.2]

end

mutual

/-- The rows of the second column follow, under the name of the first. -/
theorem Joined.between_right {n start stop : Nat} :
    ∀ {c d e : Column}, Joined c d e → c.name = d.name → c.Even n →
      e.between (n + start) (n + stop) = d.between start stop
  | _, _, _, .flat, hname, hc => by
      simp only [Even] at hc
      simp only [name] at hname
      simp only [between, hname]
      rw [← hc, List.take_length_add_append, List.drop_length_add_append]
  | _, _, _, .struct h, hname, hc => by
      simp only [name] at hname
      simp only [between, JoinedParts.between_right h hc.2, hname]

theorem JoinedParts.between_right {n start stop : Nat} :
    ∀ {ps qs rs : List Column}, JoinedParts ps qs rs → EvenParts n ps →
      partsBetween (n + start) (n + stop) rs = partsBetween start stop qs
  | _, _, _, .nil, _ => rfl
  | _, _, _, .cons hname h hs, hc => by
      simp only [partsBetween, h.between_right hname hc.1, hs.between_right hc.2]

end

end VectorClient.Column
