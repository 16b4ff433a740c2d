import VectorClient.PrimaryKey

/-!
# Reading the literals of keys

A literal is an integer in decimal or a text in quotes. Inside the quotes a backslash makes the
next character stand for itself, and the first quote that is not protected so ends the text.
Whatever a key holds, this reads its literal as that key and no further. So a list of keys is read
from their literals one by one, also where the characters between two literals, or those after the
last one, occur in the keys.
-/

namespace VectorClient.PrimaryKey

variable {cs t : List Char} {k : PrimaryKey}

section Reader

/-- What stands before the first unprotected quote, and what follows that quote. -/
def readQuoted : List Char → Option (List Char × List Char)
  | [] => none
  | '"' :: t => some ([], t)
  | '\\' :: c :: t => (readQuoted t).map fun (s, t) => (c :: s, t)
  | c :: t => (readQuoted t).map fun (s, t) => (c :: s, t)

/-- A number from all digits that the text begins with, if there is one. -/
def readNatural (cs : List Char) : Option (Nat × List Char) :=
  if cs.takeWhile Char.isDigit = [] then none
  else some (Nat.ofDigitChars 10 (cs.takeWhile Char.isDigit) 0, cs.dropWhile Char.isDigit)

def readInteger : List Char → Option (Int × List Char)
  | '-' :: cs => (readNatural cs).map fun (n, t) => (-n, t)
  | cs => (readNatural cs).map fun (n, t) => (n, t)

/-- An integer is a key if 64 bits hold it. -/
def ofInteger? (i : Int) : Option PrimaryKey :=
  if (Int64.ofInt i).toInt = i then some (.int (.ofInt i)) else none

/-- The key that the literal at the beginning of a text stands for, and the text behind it. -/
def readLiteral : List Char → Option (PrimaryKey × List Char)
  | '"' :: cs => (readQuoted cs).map fun (s, t) => (.text (.ofList s), t)
  | cs => (readInteger cs).bind fun (i, t) => (ofInteger? i).map (·, t)

theorem ofInteger?_toInt (i : Int64) : ofInteger? i.toInt = some (.int i) := by
  rw [ofInteger?, Int64.ofInt_toInt, if_pos rfl]

theorem length_lt_of_readQuoted {s : List Char} (h : readQuoted cs = some (s, t)) :
    t.length < cs.length := by
  induction cs using readQuoted.induct generalizing s with
  | case1 => cases h
  | case2 rest =>
      cases h
      exact Nat.lt_succ_self _
  | case3 c rest ih =>
      rw [readQuoted, Option.map_eq_some_iff] at h
      obtain ⟨⟨s', t'⟩, hread, heq⟩ := h
      cases heq
      have hlt := ih hread
      rw [List.length_cons, List.length_cons]
      omega
  | case4 c rest hquote hbackslash ih =>
      rw [readQuoted, Option.map_eq_some_iff] at h
      · obtain ⟨⟨s', t'⟩, hread, heq⟩ := h
        cases heq
        exact Nat.lt_succ_of_lt (ih hread)
      · exact hquote
      · exact hbackslash

theorem length_lt_of_readNatural {n : Nat} (h : readNatural cs = some (n, t)) :
    t.length < cs.length := by
  rw [readNatural] at h
  split at h
  · cases h
  · rename_i hdigits
    cases h
    have hsplit : cs.takeWhile Char.isDigit ++ cs.dropWhile Char.isDigit = cs :=
      List.takeWhile_append_dropWhile
    have hlength := congrArg List.length hsplit
    have hpos := List.length_pos_iff.mpr hdigits
    rw [List.length_append] at hlength
    omega

theorem length_lt_of_readInteger {i : Int} (h : readInteger cs = some (i, t)) :
    t.length < cs.length := by
  rw [readInteger.eq_def] at h
  split at h
  · obtain ⟨⟨n, t'⟩, hread, heq⟩ := Option.map_eq_some_iff.mp h
    cases heq
    exact Nat.lt_succ_of_lt (length_lt_of_readNatural hread)
  · obtain ⟨⟨n, t'⟩, hread, heq⟩ := Option.map_eq_some_iff.mp h
    cases heq
    exact length_lt_of_readNatural hread

/-- No literal is empty. -/
theorem length_lt_of_readLiteral (h : readLiteral cs = some (k, t)) : t.length < cs.length := by
  rw [readLiteral.eq_def] at h
  split at h
  · obtain ⟨⟨s, t'⟩, hread, heq⟩ := Option.map_eq_some_iff.mp h
    cases heq
    exact Nat.lt_succ_of_lt (length_lt_of_readQuoted hread)
  · obtain ⟨⟨i, t'⟩, hread, hkey⟩ := Option.bind_eq_some_iff.mp h
    obtain ⟨k', _, heq⟩ := Option.map_eq_some_iff.mp hkey
    cases heq
    exact length_lt_of_readInteger hread

/-- Literals as long as a comma and a space follow, at least one. -/
def readLiterals (cs : List Char) : Option (List PrimaryKey × List Char) :=
  match _h : readLiteral cs with
  | none => none
  | some (key, ',' :: ' ' :: t) => (readLiterals t).map fun (keys, t) => (key :: keys, t)
  | some (key, t) => some ([key], t)
termination_by cs.length
decreasing_by
  have hlt := length_lt_of_readLiteral _h
  rw [List.length_cons, List.length_cons] at hlt
  omega

end Reader

section ReadBack

/-- Nothing here continues a number. -/
def NoDigit (t : List Char) : Prop := t.head?.any Char.isDigit = false

instance (t : List Char) : Decidable (NoDigit t) :=
  inferInstanceAs (Decidable (t.head?.any Char.isDigit = false))

theorem readQuoted_escaped (s t : List Char) :
    readQuoted (s.flatMap escapeChar ++ '"' :: t) = some (s, t) := by
  induction s with
  | nil => rfl
  | cons c s ih =>
      rw [List.flatMap_cons, List.append_assoc, escapeChar]
      split
      · rw [List.cons_append, List.cons_append, List.nil_append, readQuoted, ih, Option.map_some]
      · rename_i hplain
        obtain ⟨hquote, hbackslash⟩ := not_or.mp hplain
        rw [List.cons_append, List.nil_append, readQuoted, ih, Option.map_some]
        · exact hquote
        · intro d rest hc
          exact absurd hc hbackslash

theorem readNatural_toDigits (n : Nat) (ht : NoDigit t) :
    readNatural (Nat.toDigits 10 n ++ t) = some (n, t) := by
  have hdigits : ∀ c ∈ Nat.toDigits 10 n, c.isDigit = true := fun c hc =>
    Nat.isDigit_of_mem_toDigits (by decide) (by decide) hc
  have htake : t.takeWhile Char.isDigit = [] := by
    cases t with
    | nil => rfl
    | cons c t => exact List.takeWhile_cons_of_neg (Bool.eq_false_iff.mp ht)
  have hdrop : t.dropWhile Char.isDigit = t := by
    cases t with
    | nil => rfl
    | cons c t => exact List.dropWhile_cons_of_neg (Bool.eq_false_iff.mp ht)
  rw [readNatural, List.takeWhile_append_of_pos hdigits, List.dropWhile_append_of_pos hdigits,
    htake, hdrop, List.append_nil, if_neg Nat.toDigits_ne_nil,
    Nat.ofDigitChars_toDigits (by decide) (by decide)]

theorem readInteger_toString (i : Int) (ht : NoDigit t) :
    readInteger ((toString i).toList ++ t) = some (i, t) := by
  rw [Int.toString_eq_repr, Int.repr_eq_if]
  split
  · rename_i hpos
    have hread := readNatural_toDigits i.toNat ht
    rw [Nat.toList_repr, readInteger.eq_def]
    split
    · -- no digit is a minus sign
      rename_i heq
      rw [heq] at hread
      cases hread
    · rw [hread]
      change some ((i.toNat : Int), t) = some (i, t)
      rw [Int.toNat_of_nonneg hpos]
  · rename_i hneg
    have hread := readNatural_toDigits (-i).toNat ht
    rw [String.toList_append, Nat.toList_repr]
    change (readNatural (Nat.toDigits 10 (-i).toNat ++ t)).map _ = _
    rw [hread]
    change some (-((-i).toNat : Int), t) = some (i, t)
    rw [Int.toNat_of_nonneg (by omega), Int.neg_neg]

/-- The literal of a key is read as that key, whatever follows it, unless that continues a
number. -/
theorem readLiteral_filterLiteral (k : PrimaryKey) (ht : NoDigit t) :
    readLiteral (k.filterLiteral.toList ++ t) = some (k, t) := by
  cases k with
  | int i =>
      have hread := readInteger_toString i.toInt ht
      rw [filterLiteral, readLiteral.eq_def]
      split
      · -- no integer begins with a quote
        rename_i heq
        rw [heq] at hread
        cases hread
      · rw [hread]
        change (ofInteger? i.toInt).map (·, t) = some (.int i, t)
        rw [ofInteger?_toInt]
        rfl
  | text s =>
      have hliteral : (filterLiteral (.text s)).toList ++ t =
          '"' :: (s.toList.flatMap escapeChar ++ '"' :: t) := by
        simp [filterLiteral]
      rw [hliteral, readLiteral, readQuoted_escaped]
      change some (PrimaryKey.text (.ofList s.toList), t) = some (.text s, t)
      rw [String.ofList_toList]

theorem readLiteral_filterLiteral_self (k : PrimaryKey) :
    readLiteral k.filterLiteral.toList = some (k, []) := by
  have hread := readLiteral_filterLiteral k (t := []) (by decide)
  rwa [List.append_nil] at hread

theorem filterLiteral_injective : Function.Injective filterLiteral := by
  intro k k' h
  have hread := readLiteral_filterLiteral_self k
  rw [h, readLiteral_filterLiteral_self k'] at hread
  cases hread
  rfl

end ReadBack

section Lists

variable {keys : List PrimaryKey}

theorem readLiterals_of_separator (h : readLiteral cs = some (k, ',' :: ' ' :: t)) :
    readLiterals cs = (readLiterals t).map fun (keys, t) => (k :: keys, t) := by
  rw [readLiterals]
  split
  · rename_i hnone
    rw [h] at hnone
    cases hnone
  · rename_i hsome
    rw [h] at hsome
    cases hsome
    rfl
  · rename_i hother hsome
    rw [h] at hsome
    cases hsome
    exact absurd rfl (hother _)

theorem readLiterals_of_end (h : readLiteral cs = some (k, t)) (hend : ¬ [',', ' '] <+: t) :
    readLiterals cs = some ([k], t) := by
  rw [readLiterals]
  split
  · rename_i hnone
    rw [h] at hnone
    cases hnone
  · rename_i hsome
    rw [h] at hsome
    cases hsome
    exact absurd ⟨_, rfl⟩ hend
  · rename_i hsome
    rw [h] at hsome
    cases hsome
    rfl

/-- The literals of the keys, with a comma and a space between two of them. -/
def literals (keys : List PrimaryKey) : String := ", ".intercalate (keys.map filterLiteral)

/-- The literals of a list are read as its keys. What follows them may be anything that neither
continues a number nor announces another literal. -/
theorem readLiterals_literals (hkeys : keys ≠ []) (ht : NoDigit t) (hend : ¬ [',', ' '] <+: t) :
    readLiterals ((literals keys).toList ++ t) = some (keys, t) := by
  induction keys with
  | nil => exact absurd rfl hkeys
  | cons k rest ih =>
      cases rest with
      | nil =>
          have hliterals : literals [k] = k.filterLiteral := String.intercalate_singleton
          rw [hliterals]
          exact readLiterals_of_end (readLiteral_filterLiteral k ht) hend
      | cons k' rest =>
          have hrest := ih (List.cons_ne_nil k' rest)
          have hliterals : (literals (k :: k' :: rest)).toList ++ t =
              k.filterLiteral.toList ++ ',' :: ' ' :: ((literals (k' :: rest)).toList ++ t) := by
            simp [literals]
          have hcomma : NoDigit (',' :: ' ' :: ((literals (k' :: rest)).toList ++ t)) := by
            simp [NoDigit]
          rw [hliterals, readLiterals_of_separator (readLiteral_filterLiteral k hcomma), hrest]
          rfl

theorem readLiterals_literals_self (hkeys : keys ≠ []) :
    readLiterals (literals keys).toList = some (keys, []) := by
  have hread := readLiterals_literals (t := []) hkeys (by decide) (by decide)
  rwa [List.append_nil] at hread

end Lists

end VectorClient.PrimaryKey
