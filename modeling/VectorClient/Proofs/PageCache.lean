import VectorClient.PageCache
import VectorClient.Proofs.ResultSet.Merge

/-!
# What a page cache holds

The rows of a page can be read in several ways: by their number alone, as hits with
a key and a score, or as records. A `PageView` is any reading that cutting and
joining of pages respect. Under every such reading `PageCache.take` cuts the rows at
hand in two, whatever the sizes of the pages were: the page that it returns has the
first of them, the cache has the others.

`Takes` says how rows are taken without saying how they are read. What holds of every
way of taking them is proved by induction on it.
-/

namespace VectorClient

/-- A reading of pages as lists of rows `ρ`. -/
structure PageView (ρ : Type) where
  Shows : HitPage → List ρ → Prop
  rowCount_eq : ∀ {p rows}, Shows p rows → p.rowCount = rows.length
  bare : ∀ {p}, p.columns = [] → Shows p []
  slice : ∀ {p q rows start stop}, Shows p rows → p.slice start stop = .ok q →
    Shows q ((rows.take stop).drop start)
  joined : ∀ {p q r xs ys}, Shows p xs → xs ≠ [] → Shows q ys → p.joined q = .ok r →
    Shows r (xs ++ ys)

/-- The pages that a view shows can be cut and joined wherever rows remain. -/
structure PageView.Total {ρ : Type} (V : PageView ρ) : Prop where
  slice : ∀ {p rows start stop}, V.Shows p rows → start < stop → start < rows.length →
    ∃ q, p.slice start stop = .ok q
  joined : ∀ {p q xs ys}, V.Shows p xs → xs ≠ [] → V.Shows q ys → ys ≠ [] →
    ∃ r, p.joined q = .ok r

namespace HitPage

theorem columns_of_slice {p q : HitPage} {start stop : Nat} (h : p.slice start stop = .ok q) :
    p.results.slice start stop = .ok q.results ∧ q.keyName = p.keyName ∧
      q.scoreName = p.scoreName := by
  rw [slice] at h
  cases hr : p.results.slice start stop with
  | error e => rw [hr] at h; cases h
  | ok r =>
      rw [hr] at h
      cases h
      exact ⟨rfl, rfl, rfl⟩

theorem columns_of_joined {p q r : HitPage} (h : p.joined q = .ok r) :
    p.results.joined q.results = .ok r.results ∧ r.keyName = p.keyName ∧
      r.scoreName = p.scoreName := by
  rw [joined] at h
  cases hr : p.results.joined q.results with
  | error e => rw [hr] at h; cases h
  | ok results =>
      rw [hr] at h
      cases h
      exact ⟨rfl, rfl, rfl⟩

theorem rowCount_of_columns_eq_nil {p : HitPage} (h : p.columns = []) : p.rowCount = 0 := by
  rw [columns] at h
  rw [rowCount, ResultSet.rowCount, h, ResultSet.rowCountOf]

theorem columns_ne_nil {p : HitPage} (h : p.rowCount ≠ 0) : p.columns ≠ [] :=
  fun hnil => h (rowCount_of_columns_eq_nil hnil)

theorem isEmpty_iff {p : HitPage} : p.isEmpty = true ↔ p.rowCount = 0 := beq_iff_eq

end HitPage

namespace PageCache

@[simp] theorem rowCount_cons (page : HitPage) (pages : List HitPage) :
    rowCount (page :: pages) = page.rowCount + rowCount pages := rfl

theorem rowCount_append (pages pages' : List HitPage) :
    rowCount (pages ++ pages') = rowCount pages + rowCount pages' := by
  induction pages with
  | nil => exact (Nat.zero_add _).symm
  | cons page pages ih => rw [List.cons_append, rowCount_cons, ih, rowCount_cons, Nat.add_assoc]

/-- The rows of all pages, read by column name. -/
def records (pages : List HitPage) : List Record :=
  pages.flatMap fun page => page.results.records

theorem length_records (pages : List HitPage) : (records pages).length = rowCount pages := by
  induction pages with
  | nil => rfl
  | cons page pages ih =>
      rw [records, List.flatMap_cons, List.length_append, ResultSet.length_records]
      exact congrArg _ ih

theorem slices_of_split {page head tail : HitPage} {count : Nat}
    (h : split page count = .ok (head, tail)) :
    page.slice 0 count = .ok head ∧ page.slice count page.rowCount = .ok tail := by
  rw [split] at h
  cases hhead : page.slice 0 count with
  | error e => rw [hhead] at h; cases h
  | ok head' =>
      cases htail : page.slice count page.rowCount with
      | error e => rw [hhead, htail] at h; cases h
      | ok tail' =>
          rw [hhead, htail] at h
          cases h
          exact ⟨rfl, rfl⟩

/-- Puts the rows of a page behind `output`, as many as are wanted. -/
def absorbFront (output page : HitPage) (wanted : Nat) : Except DataError HitPage :=
  if page.rowCount ≤ wanted then absorb output page
  else do
    let (head, _) ← split page wanted
    absorb output head

/-- How rows are taken, one page after the other: `Takes output wanted pages outcome rest` says
that taking `wanted` rows of `pages` behind `output` ends with `outcome` and leaves `rest`. -/
inductive Takes : HitPage → Nat → List HitPage → Except ClientError HitPage → List HitPage → Prop
  | exhausted {output wanted} : Takes output wanted [] (.ok output) []
  | enough {output page pages} : Takes output 0 (page :: pages) (.ok output) (page :: pages)
  | skipped {output wanted page pages outcome rest} :
      wanted ≠ 0 → page.rowCount = 0 → Takes output wanted pages outcome rest →
      Takes output wanted (page :: pages) outcome rest
  | whole {output joined wanted page pages outcome rest} :
      page.rowCount ≠ 0 → page.rowCount ≤ wanted → absorb output page = .ok joined →
      Takes joined (wanted - page.rowCount) pages outcome rest →
      Takes output wanted (page :: pages) outcome rest
  | cut {output joined head tail wanted page pages} :
      wanted ≠ 0 → wanted < page.rowCount → split page wanted = .ok (head, tail) →
      absorb output head = .ok joined →
      Takes output wanted (page :: pages) (.ok joined) (tail :: pages)
  | refused {output wanted page pages e} :
      wanted ≠ 0 → page.rowCount ≠ 0 → absorbFront output page wanted = .error e →
      Takes output wanted (page :: pages) (.error (.ofReply e)) pages

section Takes

variable {output : HitPage} {wanted : Nat} {pages rest : List HitPage}
variable {outcome : Except ClientError HitPage}

theorem takes_takeInto (output : HitPage) (wanted : Nat) (pages : List HitPage) :
    Takes output wanted pages (takeInto output wanted pages).1
      (takeInto output wanted pages).2 := by
  induction pages generalizing output wanted with
  | nil => exact .exhausted
  | cons page pages ih =>
      rw [takeInto]
      split
      · rename_i hzero
        subst hzero
        exact .enough
      rename_i hwanted
      split
      · rename_i hempty
        exact .skipped hwanted hempty (ih ..)
      rename_i hsome
      split
      · rename_i hfits
        cases hjoined : absorb output page with
        | error e => exact .refused hwanted hsome (by rw [absorbFront, if_pos hfits, hjoined])
        | ok joined => exact .whole hsome hfits hjoined (ih ..)
      · rename_i hfits
        cases hsplit : split page wanted with
        | error e =>
            exact .refused hwanted hsome (by rw [absorbFront, if_neg hfits, hsplit]; rfl)
        | ok parts =>
            obtain ⟨head, tail⟩ := parts
            simp only
            cases hjoined : absorb output head with
            | error e =>
                refine .refused hwanted hsome ?_
                rw [absorbFront, if_neg hfits, hsplit]
                exact hjoined
            | ok joined => exact .cut hwanted (Nat.lt_of_not_le hfits) hsplit hjoined

theorem takes_of_takeInto (h : takeInto output wanted pages = (outcome, rest)) :
    Takes output wanted pages outcome rest := by
  have htakes := takes_takeInto output wanted pages
  rwa [h] at htakes

theorem Takes.takeInto_eq (h : Takes output wanted pages outcome rest) :
    takeInto output wanted pages = (outcome, rest) := by
  induction h with
  | exhausted => rfl
  | enough => rfl
  | skipped hwanted hempty _ ih => rw [takeInto, if_neg hwanted, if_pos hempty, ih]
  | whole hsome hfits hjoined _ ih =>
      have hwanted := Nat.ne_of_gt (Nat.lt_of_lt_of_le (Nat.pos_of_ne_zero hsome) hfits)
      rw [takeInto, if_neg hwanted, if_neg hsome, if_pos hfits, hjoined]
      exact ih
  | cut hwanted hlt hsplit hjoined =>
      have hsome := Nat.ne_of_gt (Nat.zero_lt_of_lt hlt)
      rw [takeInto, if_neg hwanted, if_neg hsome, if_neg (Nat.not_le_of_lt hlt), hsplit]
      simp only [hjoined]
  | @refused output wanted page _ e hwanted hsome hfailed =>
      rw [takeInto, if_neg hwanted, if_neg hsome]
      rw [absorbFront] at hfailed
      split at hfailed
      · rename_i hfits
        rw [if_pos hfits, hfailed]
      · rename_i hfits
        rw [if_neg hfits]
        cases hsplit : split page wanted with
        | error e =>
            rw [hsplit] at hfailed
            cases hfailed
            rfl
        | ok parts =>
            rw [hsplit] at hfailed
            have hhead : absorb output parts.1 = .error e := hfailed
            simp only [hhead]

end Takes

variable {ρ : Type} {V : PageView ρ}

/-- The pages of a cache show these rows, one page after the other. -/
inductive Holds (V : PageView ρ) : List HitPage → List ρ → Prop
  | nil : Holds V [] []
  | cons {page : HitPage} {pages : List HitPage} {xs ys : List ρ} :
      V.Shows page xs → Holds V pages ys → Holds V (page :: pages) (xs ++ ys)

namespace Holds

variable {pages pages' : List HitPage} {page : HitPage} {xs ys : List ρ}

theorem rowCount_eq (h : Holds V pages ys) : PageCache.rowCount pages = ys.length := by
  induction h with
  | nil => rfl
  | cons hpage _ ih =>
      rw [rowCount_cons, ih, V.rowCount_eq hpage, List.length_append]

theorem append_pages (h : Holds V pages xs) (h' : Holds V pages' ys) :
    Holds V (pages ++ pages') (xs ++ ys) := by
  induction h with
  | nil => exact h'
  | cons hpage _ ih =>
      rw [List.append_assoc]
      exact .cons hpage ih

theorem append (h : Holds V pages ys) (hpage : V.Shows page xs) :
    Holds V (pages ++ [page]) (ys ++ xs) := by
  have hone := Holds.cons hpage .nil
  rw [List.append_nil] at hone
  exact h.append_pages hone

/-- Pages without rows do not count. -/
theorem of_concat (h : Holds V (pages ++ [page]) ys) (hzero : page.rowCount = 0) :
    Holds V pages ys := by
  induction pages generalizing ys with
  | nil =>
      cases h with
      | @cons _ _ xs _ hpage hnil =>
          cases hnil
          rw [V.rowCount_eq hpage, List.length_eq_zero_iff] at hzero
          subst hzero
          exact .nil
  | cons first pages ih =>
      cases h with
      | cons hfirst hrest => exact .cons hfirst (ih hrest)

end Holds

theorem exists_holds {pages : List HitPage} (h : ∀ page ∈ pages, ∃ rows, V.Shows page rows) :
    ∃ rows, Holds V pages rows := by
  induction pages with
  | nil => exact ⟨[], .nil⟩
  | cons page pages ih =>
      obtain ⟨⟨xs, hpage⟩, hpages⟩ := List.forall_mem_cons.mp h
      obtain ⟨ys, hys⟩ := ih hpages
      exact ⟨xs ++ ys, .cons hpage hys⟩

variable {output page : HitPage} {pages rest : List HitPage} {xs ys zs : List ρ} {wanted : Nat}

theorem absorb_ok (hout : V.Shows output xs) (hbegun : output.columns = [] ∨ xs ≠ [])
    (hpage : V.Shows page zs) {r : HitPage} (h : absorb output page = .ok r) :
    V.Shows r (xs ++ zs) := by
  rw [absorb] at h
  split at h
  · rename_i hempty
    cases h
    have hzero := HitPage.rowCount_of_columns_eq_nil (List.isEmpty_iff.mp hempty)
    rw [V.rowCount_eq hout] at hzero
    rw [List.length_eq_zero_iff.mp hzero, List.nil_append]
    exact hpage
  · rename_i hempty
    rcases hbegun with hnil | hne
    · exact absurd (List.isEmpty_iff.mpr hnil) hempty
    · exact V.joined hout hne hpage h

theorem split_ok (hpage : V.Shows page zs) {head tail : HitPage}
    (h : split page wanted = .ok (head, tail)) :
    V.Shows head (zs.take wanted) ∧ V.Shows tail (zs.drop wanted) := by
  obtain ⟨hhead, htail⟩ := slices_of_split h
  have hfirst := V.slice hpage hhead
  have hsecond := V.slice hpage htail
  rw [V.rowCount_eq hpage, List.take_length] at hsecond
  exact ⟨hfirst, hsecond⟩

/-- What was taken and what is left are the rows at hand, cut after `wanted` of them. -/
theorem takeInto_ok (hpages : Holds V pages ys) (hout : V.Shows output xs)
    (hbegun : output.columns = [] ∨ xs ≠ [])
    (h : takeInto output wanted pages = (.ok page, rest)) :
    V.Shows page (xs ++ ys.take wanted) ∧ Holds V rest (ys.drop wanted) := by
  generalize houtcome : Except.ok page = outcome at h
  have htakes := takes_of_takeInto h
  clear h
  induction htakes generalizing xs ys with
  | exhausted =>
      cases houtcome
      cases hpages
      rw [List.take_nil, List.drop_nil, List.append_nil]
      exact ⟨hout, .nil⟩
  | enough =>
      cases houtcome
      rw [List.take_zero, List.drop_zero, List.append_nil]
      exact ⟨hout, hpages⟩
  | skipped _ hempty _ ih =>
      cases hpages with
      | cons hfirst hpages =>
          rw [V.rowCount_eq hfirst] at hempty
          rw [List.length_eq_zero_iff.mp hempty, List.nil_append]
          exact ih hpages hout hbegun houtcome
  | whole hsome hfits hjoined _ ih =>
      cases hpages with
      | @cons _ _ zs ys hfirst hpages =>
          have hcount := V.rowCount_eq hfirst
          have hrows : xs ++ zs ≠ [] := by
            intro hnil
            rw [(List.append_eq_nil_iff.mp hnil).2] at hcount
            exact hsome hcount
          have htaken := ih hpages (absorb_ok hout hbegun hfirst hjoined) (.inr hrows) houtcome
          rw [hcount] at htaken hfits
          rwa [List.take_append, List.drop_append, List.take_of_length_le hfits,
            List.drop_of_length_le hfits, List.nil_append, ← List.append_assoc]
  | cut _ hlt hsplit hjoined =>
      cases houtcome
      cases hpages with
      | @cons _ _ zs ys hfirst hpages =>
          obtain ⟨hhead, htail⟩ := split_ok hfirst hsplit
          rw [V.rowCount_eq hfirst] at hlt
          have hle := Nat.le_of_lt hlt
          rw [List.take_append_of_le_length hle, List.drop_append_of_le_length hle]
          exact ⟨absorb_ok hout hbegun hhead hjoined, .cons htail hpages⟩
  | refused => cases houtcome

/-- The cache is one of shown pages also when the rows could not be joined. -/
theorem takeInto_rest (hpages : Holds V pages ys)
    {outcome : Except ClientError HitPage} (h : takeInto output wanted pages = (outcome, rest)) :
    ∃ zs, Holds V rest zs := by
  have htakes := takes_of_takeInto h
  clear h
  induction htakes generalizing ys with
  | exhausted => exact ⟨[], .nil⟩
  | enough => exact ⟨ys, hpages⟩
  | skipped _ _ _ ih =>
      cases hpages with
      | cons _ hpages => exact ih hpages
  | whole _ _ _ _ ih =>
      cases hpages with
      | cons _ hpages => exact ih hpages
  | cut _ _ hsplit _ =>
      cases hpages with
      | cons hfirst hpages => exact ⟨_, .cons (split_ok hfirst hsplit).2 hpages⟩
  | refused =>
      cases hpages with
      | cons _ hpages => exact ⟨_, hpages⟩

theorem absorb_total (hV : V.Total) (hout : V.Shows output xs)
    (hbegun : output.columns = [] ∨ xs ≠ []) (hpage : V.Shows page zs) (hzs : zs ≠ []) :
    ∃ r, absorb output page = .ok r := by
  rw [absorb]
  split
  · exact ⟨page, rfl⟩
  · rename_i hempty
    rcases hbegun with hnil | hne
    · exact absurd (List.isEmpty_iff.mpr hnil) hempty
    · exact hV.joined hout hne hpage hzs

theorem split_total (hV : V.Total) (hpage : V.Shows page zs) (hpos : 0 < wanted)
    (hlt : wanted < zs.length) : ∃ parts, split page wanted = .ok parts := by
  have hcount := V.rowCount_eq hpage
  obtain ⟨head, hhead⟩ := hV.slice hpage hpos (by omega : 0 < zs.length)
  obtain ⟨tail, htail⟩ : ∃ tail, page.slice wanted page.rowCount = .ok tail :=
    hV.slice hpage (by omega) hlt
  exact ⟨(head, tail), by rw [split, hhead, htail]; rfl⟩

theorem takeInto_total (hV : V.Total) (hpages : Holds V pages ys) (hout : V.Shows output xs)
    (hbegun : output.columns = [] ∨ xs ≠ []) :
    ∃ page rest, takeInto output wanted pages = (.ok page, rest) := by
  induction hpages generalizing output xs wanted with
  | nil => exact ⟨output, [], by rw [takeInto]⟩
  | @cons first pages zs ys hfirst hpages ih =>
      have hcount := V.rowCount_eq hfirst
      rw [takeInto]
      split
      · exact ⟨_, _, rfl⟩
      split
      · exact ih hout hbegun
      have hzs : zs ≠ [] := by
        rintro rfl
        contradiction
      split
      · obtain ⟨joined, hr⟩ := absorb_total hV hout hbegun hfirst hzs
        rw [hr]
        refine ih (absorb_ok hout hbegun hfirst hr) (.inr ?_)
        intro hnil
        exact hzs (List.append_eq_nil_iff.mp hnil).2
      · obtain ⟨⟨head, tail⟩, hsplit⟩ : ∃ parts, split first wanted = .ok parts :=
          split_total hV hfirst (by omega) (by omega)
        have hhead := (split_ok hfirst hsplit).1
        have hne : zs.take wanted ≠ [] := by
          intro hnil
          rcases List.take_eq_nil_iff.mp hnil with hzero | hnil'
          · omega
          · exact hzs hnil'
        obtain ⟨joined, hr⟩ := absorb_total hV hout hbegun hhead hne
        rw [hsplit]
        simp only [hr]
        exact ⟨_, _, rfl⟩

section Take

variable {template : HitPage}

theorem take_zero (pages : List HitPage) (template : HitPage) :
    take pages 0 template = (.ok template.emptyLike, pages) := by
  cases pages <;> rfl

theorem take_ok (hpages : Holds V pages ys) (h : take pages wanted template = (.ok page, rest)) :
    V.Shows page (ys.take wanted) ∧ Holds V rest (ys.drop wanted) :=
  takeInto_ok hpages (V.bare rfl) (.inl rfl) h

theorem take_rest (hpages : Holds V pages ys) {outcome : Except ClientError HitPage}
    (h : take pages wanted template = (outcome, rest)) : ∃ zs, Holds V rest zs :=
  takeInto_rest hpages h

theorem take_total (hV : V.Total) (hpages : Holds V pages ys) :
    ∃ page rest, take pages wanted template = (.ok page, rest) :=
  takeInto_total hV hpages (V.bare rfl) (.inl rfl)

end Take

end PageCache

/-- The reading of pages by their number of rows alone. -/
def PageView.level : PageView Unit where
  Shows p rows := p.results.Level rows.length
  rowCount_eq h := h.rowCount
  bare h := ⟨HitPage.rowCount_of_columns_eq_nil h, fun c hc => by
    rw [HitPage.columns] at h
    rw [h] at hc
    cases hc⟩
  slice hp h := by
    have hlevel := hp.slice (HitPage.columns_of_slice h).1
    rwa [List.length_drop, List.length_take]
  joined hp hne hq h := by
    have hzero := fun hnil => hne (List.length_eq_zero_iff.mp
      (hp.rowCount.symm.trans (HitPage.rowCount_of_columns_eq_nil hnil)))
    rw [List.length_append]
    exact hp.joined hq hzero (HitPage.columns_of_joined h).1

/-- The records of a page with the columns of a schema. A page without columns has none. -/
inductive HitPage.ShowsRecords (schema : List Column) : HitPage → List Record → Prop
  | bare {p : HitPage} : p.columns = [] → ShowsRecords schema p []
  | records {p : HitPage} {n : Nat} :
      p.results.Conforms schema n → ShowsRecords schema p p.results.records

namespace HitPage.ShowsRecords

variable {schema : List Column} {p q r : HitPage} {xs ys : List Record}

theorem records_eq (h : ShowsRecords schema p xs) : p.results.records = xs := by
  cases h with
  | bare hnil => exact ResultSet.records_of_rowCount_eq_zero (rowCount_of_columns_eq_nil hnil)
  | records _ => rfl

theorem conforms (h : ShowsRecords schema p xs) (hne : xs ≠ []) :
    ∃ n, p.results.Conforms schema n := by
  cases h with
  | bare _ => exact absurd rfl hne
  | records hconforms => exact ⟨_, hconforms⟩

theorem rowCount_eq (h : ShowsRecords schema p xs) : p.rowCount = xs.length := by
  rw [← h.records_eq, ResultSet.length_records, rowCount]

theorem slice_eq {n start stop : Nat} (hp : p.results.Conforms schema n) (hlt : start < stop)
    (hn : start < n) :
    p.slice start stop = .ok { p with results := p.results.between start stop } := by
  rw [HitPage.slice, ResultSet.slice_eq_between hp.even hlt hn]
  rfl

theorem slice {start stop : Nat} (hs : ResultSet.IsSchema schema) (h : ShowsRecords schema p xs)
    (hq : p.slice start stop = .ok q) : ShowsRecords schema q ((xs.take stop).drop start) := by
  obtain ⟨hresults, _⟩ := columns_of_slice hq
  have hcut := (ResultSet.slice_ok hresults).2
  cases h with
  | bare hnil =>
      rw [columns] at hnil
      rw [hnil, List.forall₂_nil_left_iff] at hcut
      rw [List.take_nil, List.drop_nil]
      exact .bare hcut
  | @records n hconforms =>
      obtain ⟨c, rest, hcolumns⟩ := List.exists_cons_of_ne_nil (hconforms.columns_ne_nil hs)
      -- a cut that succeeded lies within its columns
      have hrange : start < stop ∧ start < n := by
        have hrows := (hconforms.even c (by rw [hcolumns]; exact List.mem_cons_self ..)).rowCount
        rw [hcolumns, List.forall₂_cons_left_iff] at hcut
        obtain ⟨c', _, hslice, _⟩ := hcut
        obtain ⟨_, _, hlt, hn⟩ := Column.slice_ok hslice
        exact ⟨hlt, hrows ▸ hn⟩
      rw [slice_eq hconforms hrange.1 hrange.2] at hq
      cases hq
      rw [← ResultSet.records_between]
      exact .records (hconforms.between start stop)

theorem joined (hs : ResultSet.IsSchema schema) (hp : ShowsRecords schema p xs) (hne : xs ≠ [])
    (hq : ShowsRecords schema q ys) (h : p.joined q = .ok r) :
    ShowsRecords schema r (xs ++ ys) := by
  obtain ⟨hresults, _⟩ := columns_of_joined h
  cases hp with
  | bare _ => exact absurd rfl hne
  | records hconforms =>
      cases hq with
      | bare hnil =>
          -- the columns of the target have found nothing to join
          obtain ⟨c, rest, hcolumns⟩ := List.exists_cons_of_ne_nil (hconforms.columns_ne_nil hs)
          rcases ResultSet.joined_ok hresults with ⟨htarget, _⟩ | ⟨_, hextended⟩
          · rw [hcolumns] at htarget
            cases htarget
          · rw [hcolumns, List.forall₂_cons_left_iff] at hextended
            obtain ⟨_, _, hext, _⟩ := hextended
            obtain ⟨d, hd, _⟩ := hext.joined
            rw [columns] at hnil
            rw [hnil] at hd
            cases hd
      | records hconforms' =>
          obtain ⟨r', hr', hr⟩ := hconforms.joined hs hconforms'
          rw [hresults] at hr'
          cases hr'
          rw [← ResultSet.records_joined hs hconforms hconforms' hresults]
          exact .records hr

end HitPage.ShowsRecords

/-- The reading of pages as records by column name. -/
def PageView.records {schema : List Column} (hs : ResultSet.IsSchema schema) : PageView Record where
  Shows := HitPage.ShowsRecords schema
  rowCount_eq := HitPage.ShowsRecords.rowCount_eq
  bare := .bare
  slice := .slice hs
  joined := .joined hs

theorem PageView.records_total {schema : List Column} (hs : ResultSet.IsSchema schema) :
    (records hs).Total where
  slice := by
    intro p rows start stop h hlt hn
    obtain ⟨n, hconforms⟩ := h.conforms (List.ne_nil_of_length_pos (Nat.zero_lt_of_lt hn))
    rw [← h.rowCount_eq, HitPage.rowCount, hconforms.rowCount_eq hs] at hn
    exact ⟨_, HitPage.ShowsRecords.slice_eq hconforms hlt hn⟩
  joined := by
    intro p q xs ys hp hxs hq hys
    obtain ⟨n, hconforms⟩ := hp.conforms hxs
    obtain ⟨m, hconforms'⟩ := hq.conforms hys
    obtain ⟨r, hr, _⟩ := hconforms.joined hs hconforms'
    exact ⟨{ p with results := r }, by rw [HitPage.joined, hr]; rfl⟩

end VectorClient
