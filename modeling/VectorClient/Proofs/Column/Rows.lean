import VectorClient.Column.Cell
import VectorClient.Proofs.Column.Layout

/-!
# Rows of cut and joined columns

Cutting a column and appending to it are `take`, `drop` and `++` on its rows, at every depth. So
the cells of a piece are those of the whole column further on, the cells of a joined column are
those of the two columns one after the other, and a column that was cut in two is put together
again by appending one piece to the other. This is true of the columns of every kind, and of structs
whose parts have the same number of rows.
-/

namespace VectorClient.Column

section Cells

variable {c d e : Column} {n row : Nat}

mutual

theorem cell?_between {start stop row : Nat} (h : start + row < stop) :
    ∀ c : Column, (c.between start stop).cell? row = c.cell? (start + row)
  | flat name kind rows => by
      rw [between, cell?, cell?, List.getElem?_drop, List.getElem?_take_of_lt h]
  | struct name parts => by
      rw [between, cell?, cell?, partCells_partsBetween h parts]

theorem partCells_partsBetween {start stop row : Nat} (h : start + row < stop) :
    ∀ parts : List Column,
      partCells row (partsBetween start stop parts) = partCells (start + row) parts
  | [] => rfl
  | part :: rest => by
      rw [partsBetween, partCells, partCells, cell?_between h part, partCells_partsBetween h rest,
        between_name]

end

@[simp] theorem cell?_rename (name : String) (c : Column) :
    (c.rename name).cell? row = c.cell? row := by
  cases c <;> rfl

@[simp] theorem rename_name (name : String) (c : Column) : (c.rename name).name = name := by
  cases c <;> rfl

/-- The name of the second column is of no account. -/
theorem Joined.rename_right (h : Joined c d e) (name : String) : Joined c (d.rename name) e := by
  cases h with
  | flat => exact .flat
  | struct hparts => exact .struct hparts

theorem Joined.cell?_left (h : Joined c d e) (hc : c.Even n) (hrow : row < n) :
    e.cell? row = c.cell? row := by
  have hfront : e.between 0 n = c.between 0 n := h.between_left (Nat.le_refl n) hc
  have hrow' : 0 + row < n := by omega
  rw [← Nat.zero_add row, ← cell?_between hrow' e, hfront, cell?_between hrow' c]

theorem Joined.cell?_right (h : Joined c d e) (hc : c.Even n) (row : Nat) :
    e.cell? (n + row) = d.cell? row := by
  have hback : e.between (n + 0) (n + (row + 1)) = (d.rename c.name).between 0 (row + 1) :=
    (h.rename_right c.name).between_right (rename_name ..).symm hc
  calc e.cell? (n + row)
    _ = (e.between (n + 0) (n + (row + 1))).cell? row := (cell?_between (by omega) e).symm
    _ = ((d.rename c.name).between 0 (row + 1)).cell? row := by rw [hback]
    _ = (d.rename c.name).cell? (0 + row) := cell?_between (by omega) _
    _ = d.cell? row := by rw [Nat.zero_add, cell?_rename]

end Cells

section Pieces

mutual

/-- Two ranges that meet make up the range that covers both. -/
theorem joined_between {i j k : Nat} (hij : i ≤ j) (hjk : j ≤ k) :
    ∀ c : Column, Joined (c.between i j) (c.between j k) (c.between i k)
  | flat name kind rows => by
      have hrows : (rows.take j).drop i ++ (rows.take k).drop j = (rows.take k).drop i := by
        rw [List.drop_take, List.drop_take, List.drop_take,
          show k - i = (j - i) + (k - j) by omega, List.take_add, List.drop_drop,
          Nat.add_sub_cancel' hij]
      simp only [between, ← hrows]
      exact .flat
  | struct name parts => by
      simp only [between]
      exact .struct (joinedParts_between hij hjk parts)

theorem joinedParts_between {i j k : Nat} (hij : i ≤ j) (hjk : j ≤ k) :
    ∀ parts : List Column,
      JoinedParts (partsBetween i j parts) (partsBetween j k parts) (partsBetween i k parts)
  | [] => .nil
  | part :: rest =>
      .cons (by rw [between_name, between_name]) (joined_between hij hjk part)
        (joinedParts_between hij hjk rest)

end

mutual

theorem Even.between_all {n : Nat} : ∀ {c : Column}, c.Even n → c.between 0 n = c
  | flat _ _ _, h => by
      simp only [Even] at h
      rw [between, ← h, List.take_length, List.drop_zero]
  | struct _ _, h => by
      rw [between, EvenParts.between_all h.2]

theorem EvenParts.between_all {n : Nat} :
    ∀ {parts : List Column}, EvenParts n parts → partsBetween 0 n parts = parts
  | [], _ => rfl
  | _ :: _, h => by
      rw [partsBetween, Even.between_all h.1, EvenParts.between_all h.2]

end

end Pieces

@[simp] theorem between_dataType (start stop : Nat) (c : Column) :
    (c.between start stop).dataType = c.dataType := by
  cases c <;> rfl

@[simp] theorem between_elementType (start stop : Nat) (c : Column) :
    (c.between start stop).elementType = c.elementType := by
  cases c <;> rfl

/-- A range that is empty or begins behind the last row cannot be cut out of any column. -/
theorem slice_eq_error {start stop : Nat} :
    ∀ {c : Column}, stop ≤ start ∨ c.rowCount ≤ start →
      c.slice start stop = .error (.invalidRange c.name start stop c.rowCount)
  | flat _ _ _, h => by
      rw [slice]
      exact if_pos h
  | struct _ _, h => by
      rw [slice]
      exact if_pos h

/-- `piece` has the name, the type and the layout of `whole`, and its rows from `start` up to
`stop`, all of which are there at every depth. -/
structure Piece (whole : Column) (start stop : Nat) (piece : Column) : Prop where
  name : piece.name = whole.name
  dataType : piece.dataType = whole.dataType
  elementType : piece.elementType = whole.elementType
  layout : piece.emptyLike = whole.emptyLike
  even : piece.Even (stop - start)
  cells : ∀ row < stop - start, piece.cell? row = whole.cell? (start + row)

theorem Even.piece {c : Column} {n start stop : Nat} (h : c.Even n) (hstop : stop ≤ n) :
    Piece c start stop (c.between start stop) := by
  constructor
  case name => exact between_name ..
  case dataType => exact between_dataType ..
  case elementType => exact between_elementType ..
  case layout => exact emptyLike_between ..
  case even =>
    have heven : (c.between start stop).Even (min stop n - start) := even_between h
    rwa [Nat.min_eq_left hstop] at heven
  case cells =>
    intro row hrow
    apply cell?_between
    omega

/-- `e` has the name and the layout of `c`, and the rows of `c` and then those of `d`. -/
structure Concat (c d e : Column) : Prop where
  name : e.name = c.name
  layout : e.emptyLike = c.emptyLike
  rowCount : e.rowCount = c.rowCount + d.rowCount
  even : d.Even d.rowCount → e.Even (c.rowCount + d.rowCount)
  front : ∀ row < c.rowCount, e.cell? row = c.cell? row
  back : ∀ row, e.cell? (c.rowCount + row) = d.cell? row

theorem Joined.concat {c d e : Column} (h : Joined c d e) (hc : c.Even c.rowCount) :
    Concat c d e where
  name := h.name_eq
  layout := h.emptyLike_eq
  rowCount := h.rowCount_eq
  even := h.even hc
  front _ hrow := h.cell?_left hc hrow
  back := h.cell?_right hc

/-- Whatever the kind of a column and however deep its structs are nested, as long as their
parts have the same number of rows: a range can be cut out if it is not empty and begins within
the rows, and then it has the rows from there on, as many as there are up to its end. Any column
of the same layout can be appended, and its rows then follow. The two pieces of a column that
was cut in two make up the column again, and a piece without rows adds nothing. -/
theorem rows_of_even {c : Column} (h : c.Even c.rowCount) :
    (∀ start stop, stop ≤ start ∨ c.rowCount ≤ start →
      c.slice start stop = .error (.invalidRange c.name start stop c.rowCount)) ∧
    (∀ start stop, start < stop → start < c.rowCount →
      ∃ piece, c.slice start stop = .ok piece ∧
        Piece c start (min stop c.rowCount) piece) ∧
    (∀ d, c.Alike d → ∃ e, c.extend d = (.ok (), e) ∧ Concat c d e) ∧
    (∀ k, 0 < k → k < c.rowCount →
      ∃ front back, c.slice 0 k = .ok front ∧ c.slice k c.rowCount = .ok back ∧
        front.extend back = (.ok (), c)) ∧
    c.emptyLike.extend c = (.ok (), c) ∧ c.extend c.emptyLike = (.ok (), c) := by
  have hall : c.between 0 c.rowCount = c := h.between_all
  have hjoined : ∀ k ≤ c.rowCount, Joined (c.between 0 k) (c.between k c.rowCount) c := by
    intro k hk
    have hmeet := joined_between (Nat.zero_le k) hk c
    rwa [hall] at hmeet
  refine ⟨fun _ _ => slice_eq_error, ?_, ?_, ?_, ?_, ?_⟩
  · intro start stop hlt hstart
    refine ⟨c.between start stop, slice_eq_between hlt hstart h, ?_⟩
    rw [← between_min start stop h]
    exact h.piece (Nat.min_le_right ..)
  · intro d halike
    obtain ⟨e, he⟩ := exists_append_iff.mpr halike
    exact ⟨e, extend_of_append he, (joined_of_append he).concat h⟩
  · intro k hpos hk
    refine ⟨c.between 0 k, c.between k c.rowCount, ?_, ?_, ?_⟩
    · exact slice_eq_between hpos (by omega) h
    · exact slice_eq_between hk hk h
    · exact extend_of_joined (hjoined k (Nat.le_of_lt hk))
  · have hfirst := hjoined 0 (Nat.zero_le _)
    rw [between_self, hall] at hfirst
    exact extend_of_joined hfirst
  · have hlast := hjoined c.rowCount (Nat.le_refl _)
    rw [between_self, hall] at hlast
    exact extend_of_joined hlast

namespace Sample

/-- A number and, one level below it, some texts for each of three rows. -/
def tagged : Column :=
  .struct "entry" [.scalars .int64 "n" [1, 2, 3],
    .struct "inner" [.flat "tags" (.array .varChar) [["a"], [], ["b", "c"]]]]

theorem even_tagged : tagged.Even 3 := by
  simp [tagged, Even, EvenParts, scalars, rowCount]

end Sample

/-- The texts of the second and the third row are cut out, and appended once more to all three. -/
theorem rows_of_even_tagged :
    Sample.tagged.Even 3 ∧
      (∃ piece, Sample.tagged.slice 1 9 = .ok piece ∧ Piece Sample.tagged 1 3 piece ∧
        ∃ e, Sample.tagged.extend piece = (.ok (), e) ∧ Concat Sample.tagged piece e) ∧
      ∃ front back, Sample.tagged.slice 0 1 = .ok front ∧ Sample.tagged.slice 1 3 = .ok back ∧
        front.extend back = (.ok (), Sample.tagged) := by
  have heven := Sample.even_tagged
  obtain ⟨_, hcut, hextend, hsplit, _⟩ := rows_of_even (c := Sample.tagged) heven
  obtain ⟨piece, hslice, hpiece⟩ := hcut 1 9 (by decide) (by decide)
  have halike : Sample.tagged.Alike piece :=
    sameLayout_iff_alike.mp (sameLayout_of_emptyLike_eq hpiece.layout.symm)
  obtain ⟨e, he, hconcat⟩ := hextend piece halike
  exact ⟨heven, ⟨piece, hslice, hpiece, e, he, hconcat⟩, hsplit 1 (by decide) (by decide)⟩

end VectorClient.Column
