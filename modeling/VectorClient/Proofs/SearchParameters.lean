import VectorClient.Proofs.Decimal
import VectorClient.Proofs.Dict
import VectorClient.Proofs.Ieee.Monotone
import VectorClient.Read.Request

/-!
# Parameters of searches

The parameters of a search are a part of one fixed list of names, each given once. So
every bound that a search has is found under its name, and what an iteration adds under
names of its own is not mixed up with it. The text of a bound gives back the bound.
-/

namespace VectorClient.SearchArguments

/-- All parameters that a search can have, in the order in which it gives them. -/
def parameterNames : List String :=
  [Parameter.annsField, Parameter.topk, Parameter.offset, Parameter.roundDecimal,
    Parameter.ignoreGrowing, Parameter.metricType, Parameter.radius, Parameter.rangeFilter,
    Parameter.groupByField, Parameter.params]

theorem optionalParameter_sublist {α : Type} (name : String) (text : α → String) (a : Option α) :
    ((optionalParameter name text a).map Prod.fst).Sublist [name] := by
  cases a with
  | none => exact List.nil_sublist _
  | some a => exact List.Sublist.refl _

/-- The parameters in front of the bounds. -/
def leading (args : SearchArguments) : List (String × String) :=
  (if args.annsField.isEmpty then [] else [(Parameter.annsField, args.annsField)])
  ++ [(Parameter.topk, toString args.limit),
      (Parameter.offset, toString args.offset),
      (Parameter.roundDecimal, toString args.roundDecimal),
      (Parameter.ignoreGrowing, Parameter.flag args.ignoreGrowing)]
  ++ optionalParameter Parameter.metricType Metric.name args.metric

/-- The parameters behind the bounds. -/
def trailing (args : SearchArguments) : List (String × String) :=
  optionalParameter Parameter.groupByField id args.groupBy ++ [(Parameter.params, args.extraText)]

theorem parameterList_eq (args : SearchArguments) : args.parameterList =
    args.leading ++ optionalParameter Parameter.radius boundText args.radius ++
      (optionalParameter Parameter.rangeFilter boundText args.rangeFilter ++ args.trailing) := by
  simp only [parameterList, leading, trailing, List.append_assoc]

theorem leading_sublist (args : SearchArguments) : (args.leading.map Prod.fst).Sublist
    [Parameter.annsField, Parameter.topk, Parameter.offset, Parameter.roundDecimal,
      Parameter.ignoreGrowing, Parameter.metricType] := by
  have hanns : ((if args.annsField.isEmpty then [] else [(Parameter.annsField, args.annsField)]).map
      Prod.fst).Sublist [Parameter.annsField] := by
    split
    · exact List.nil_sublist _
    · exact List.Sublist.refl _
  rw [leading, List.map_append, List.map_append]
  exact (hanns.append (List.Sublist.refl _)).append (optionalParameter_sublist ..)

theorem trailing_sublist (args : SearchArguments) :
    (args.trailing.map Prod.fst).Sublist [Parameter.groupByField, Parameter.params] := by
  rw [trailing, List.map_append]
  exact (optionalParameter_sublist ..).append (List.Sublist.refl _)

theorem parameterList_sublist (args : SearchArguments) :
    (args.parameterList.map Prod.fst).Sublist parameterNames := by
  rw [parameterList_eq, List.map_append, List.map_append, List.map_append]
  exact (args.leading_sublist.append (optionalParameter_sublist ..)).append
    ((optionalParameter_sublist ..).append args.trailing_sublist)

theorem nodup_parameterList (args : SearchArguments) :
    (args.parameterList.map Prod.fst).Nodup :=
  args.parameterList_sublist.nodup (by decide)

theorem get?_other (args : SearchArguments) {name : String} (h : name ∉ parameterNames) :
    (Dict.ofList args.parameterList).get? name = none :=
  Dict.get?_ofList_of_not_mem fun hmem => h (args.parameterList_sublist.subset hmem)

/-- A parameter that is given in one place is found there. -/
theorem get?_optionalParameter {α : Type} {name : String} {text : α → String} {a : Option α}
    {front back : List (String × String)} (hfront : name ∉ front.map Prod.fst)
    (hback : name ∉ back.map Prod.fst) :
    (Dict.ofList (front ++ optionalParameter name text a ++ back)).get? name = a.map text := by
  rw [Dict.ofList, List.foldl_append, List.foldl_append, Dict.get?_foldl_of_not_mem hback]
  cases a with
  | none => exact Dict.get?_ofList_of_not_mem hfront
  | some a => exact (Dict.get?_insert ..).trans (if_pos rfl)

theorem get?_radius (args : SearchArguments) :
    (Dict.ofList args.parameterList).get? Parameter.radius = args.radius.map boundText := by
  rw [parameterList_eq]
  refine get?_optionalParameter ?_ ?_
  · intro hmem
    exact absurd (args.leading_sublist.subset hmem) (by decide)
  · rw [List.map_append]
    intro hmem
    have hbehind := (optionalParameter_sublist Parameter.rangeFilter boundText
      args.rangeFilter).append args.trailing_sublist
    exact absurd (hbehind.subset hmem) (by decide)

theorem get?_rangeFilter (args : SearchArguments) :
    (Dict.ofList args.parameterList).get? Parameter.rangeFilter =
      args.rangeFilter.map boundText := by
  rw [parameterList_eq, ← List.append_assoc]
  refine get?_optionalParameter ?_ ?_
  · rw [List.map_append]
    intro hmem
    have hbefore := args.leading_sublist.append
      (optionalParameter_sublist Parameter.radius boundText args.radius)
    exact absurd (hbefore.subset hmem) (by decide)
  · intro hmem
    exact absurd (args.trailing_sublist.subset hmem) (by decide)

theorem request_eq {args : SearchArguments} {targets : Column} (h : args.vectors? = .ok targets)
    (context : ReadContext) : args.request context = .ok { args.options.request context with
      parameters := .ofList args.parameterList, targets } := by
  rw [request, h]

theorem eq_of_request {args : SearchArguments} {context : ReadContext} {r : SearchRequest}
    (h : args.request context = .ok r) :
    ∃ targets, args.vectors? = .ok targets ∧ r = { args.options.request context with
      parameters := .ofList args.parameterList, targets } := by
  rw [request] at h
  split at h
  · cases h
  · rename_i targets htargets
    cases h
    exact ⟨targets, htargets, rfl⟩

theorem request_error {args : SearchArguments} {e : ClientError} (h : args.vectors? = .error e)
    (context : ReadContext) : args.request context = .error e := by
  rw [request, h]

section Bounds

open Ieee

variable {x : Binary64}

/-- The bound that a text is for. -/
def readBound (text : String) : Binary64 :=
  if text = boundLayout.nan then .nan
  else if text = boundLayout.infinity then .ofMagnitude false Format.binary64.infinity
  else if text = boundLayout.negativeInfinity then .ofMagnitude true Format.binary64.infinity
  else
    match text.toList with
    | '-' :: digits => .ofMagnitude true (Decimal.readMagnitude .binary64 digits)
    | digits => .ofMagnitude false (Decimal.readMagnitude .binary64 digits)

/-- The text of a number is a sign and a text that begins with a digit and gives back the
magnitude. -/
theorem boundText_of_isFinite (h : x.isFinite = true) :
    ∃ c rest, boundText x = (if x.isNegative then "-" else "") ++ String.ofList (c :: rest) ∧
      c.isDigit = true ∧ Decimal.readMagnitude .binary64 (c :: rest) = x.magnitude := by
  have hnan := Word.isNaN_of_isFinite h
  have hinfinite := Word.isInfinite_of_isFinite h
  rw [boundText, FloatLayout.write, hnan, hinfinite, if_neg Bool.false_ne_true,
    if_neg Bool.false_ne_true]
  by_cases hzero : x.magnitude = 0
  · rw [if_pos hzero, hzero]
    exact ⟨'0', [], rfl, by decide, by decide +kernel⟩
  · rw [if_neg hzero]
    have hread := Decimal.readMagnitude_shortest (f := .binary64) (by decide)
      (Nat.le_of_lt (Word.magnitude_lt h)) boundLayout.tie
    obtain ⟨c, rest, htext, hc⟩ := Decimal.head_positional
      (Decimal.shortest .binary64 boundLayout.tie x.magnitude)
    rw [htext] at hread
    refine ⟨c, rest, ?_, hc, hread⟩
    rw [← htext, String.ofList_toList]
    rfl

theorem readBound_of_digit {c : Char} {rest : List Char} (hc : c.isDigit = true)
    (negative : Bool) :
    readBound ((if negative then "-" else "") ++ String.ofList (c :: rest)) =
      .ofMagnitude negative (Decimal.readMagnitude .binary64 (c :: rest)) := by
  have hother : ∀ text : String, text.toList.any Char.isDigit = false →
      (if negative then "-" else "") ++ String.ofList (c :: rest) ≠ text := by
    rintro text hnone rfl
    refine List.any_eq_false.mp hnone c ?_ hc
    rw [String.toList_append, String.toList_ofList]
    exact List.mem_append_right _ List.mem_cons_self
  rw [readBound, if_neg (hother _ (by decide)), if_neg (hother _ (by decide)),
    if_neg (hother _ (by decide)), String.toList_append, String.toList_ofList]
  cases negative with
  | true => rfl
  | false =>
      change (match c :: rest with
        | '-' :: digits => Word.ofMagnitude true (Decimal.readMagnitude .binary64 digits)
        | digits => Word.ofMagnitude false (Decimal.readMagnitude .binary64 digits)) = _
      split
      · rename_i hminus
        cases hminus
        cases hc
      · rfl

/-- A bound reads back from its text, but all NaNs have one text. -/
theorem readBound_boundText (x : Binary64) : readBound (boundText x) = x.canonical := by
  rcases x.isFinite_or with hfinite | hinfinite | hnan
  · obtain ⟨c, rest, htext, hc, hread⟩ := boundText_of_isFinite hfinite
    rw [htext, readBound_of_digit hc, hread, Word.ofMagnitude_magnitude, Word.canonical,
      Word.isNaN_of_isFinite hfinite, if_neg Bool.false_ne_true]
  · have hmagnitude := Word.infinity_of_isInfinite hinfinite
    have hnan : x.isNaN = false := decide_eq_false (by omega)
    have hword := x.ofMagnitude_magnitude
    rw [boundText, FloatLayout.write, Word.canonical, hnan, if_neg Bool.false_ne_true,
      if_neg Bool.false_ne_true, if_pos hinfinite, ← hword, hmagnitude]
    cases x.isNegative <;> rfl
  · rw [boundText, FloatLayout.write, Word.canonical, if_pos hnan, if_pos hnan]
    rfl

/-- Bounds with the same text are the same bound, or both are NaNs. -/
theorem canonical_eq_of_boundText_eq {x y : Option Binary64}
    (h : x.map boundText = y.map boundText) : x.map Word.canonical = y.map Word.canonical := by
  have hread : ∀ bound : Option Binary64,
      bound.map Word.canonical = (bound.map boundText).map readBound := by
    intro bound
    rw [Option.map_map]
    exact Option.map_congr fun x _ => (readBound_boundText x).symm
  rw [hread, h, ← hread]

end Bounds

end VectorClient.SearchArguments
