import Fapi2As.Js.Map
import Fapi2As.Js.Value
import Mathlib.Data.List.Induction

set_option relaxedAutoImplicit false
set_option autoImplicit false

/-!
# The form body parser

A form body is read entry by entry. A name that occurs once has a string as its value; a name that
occurs again has the array of its values, so that a later layer can reject it.

## Main definitions

* `Fapi2As.valuesOf`, `Fapi2As.withoutNames` — the values of a name in a list of entries, and the
  rest of it.
* `Fapi2As.formOf`, `Fapi2As.parseFormBody` — the parsed form.

## Main results

* `Fapi2As.get_formOf` — the value of a name in a parsed form.
* `Fapi2As.isArray_formOf` — exactly the repeated names have arrays.
-/

namespace Fapi2As

open Js

/-! ## Entries -/

/-- The values of a name in a query, in order. -/
def valuesOf (name : String) (query : List (String × String)) : List String :=
  (query.filter fun e => e.1 = name).map (·.2)

/-- The parameters of a query that have none of the names. -/
def withoutNames (names : List String) (query : List (String × String)) : List (String × String) :=
  query.filter fun e => !names.contains e.1

/-- A name that is left out has no values. -/
lemma valuesOf_withoutNames_of_mem {names : List String} {name : String} (h : name ∈ names)
    (query : List (String × String)) : valuesOf name (withoutNames names query) = [] := by
  simp only [valuesOf, withoutNames, List.filter_filter, List.map_eq_nil_iff,
    List.filter_eq_nil_iff]
  intro e _ he
  simp only [Bool.and_eq_true, decide_eq_true_eq, Bool.not_eq_true', List.contains_eq_mem,
    decide_eq_false_iff_not] at he
  exact he.2 (he.1 ▸ h)

/-- A name that is not left out keeps its values. -/
lemma valuesOf_withoutNames_of_notMem {names : List String} {name : String} (h : name ∉ names)
    (query : List (String × String)) :
    valuesOf name (withoutNames names query) = valuesOf name query := by
  simp only [valuesOf, withoutNames, List.filter_filter]
  congr 1
  refine List.filter_congr fun e _ => ?_
  by_cases he : e.1 = name
  · simp [he, h]
  · simp [he]

/-! ## Forms -/

/-- A form with one more entry. -/
def addEntry (out : Params) (entry : String × String) : Params :=
  match out.get entry.1 with
  | none => assocSet entry.1 (.str entry.2) out
  | some (.arr existing) => assocSet entry.1 (.arr (existing ++ [.str entry.2])) out
  | some existing => assocSet entry.1 (.arr [existing, .str entry.2]) out

/-- The form of a list of entries. -/
def formOf (entries : List (String × String)) : Params := entries.foldl addEntry []

/-- `registerFormBodyParser`: the form of a body whose entries `URLSearchParams` lists; a body with
too many parameters is refused. -/
def parseFormBody (urlSearchParams : String → List (String × String)) (raw : String) :
    Option Params :=
  if 256 ≤ raw.toList.count '&' then none else some (formOf (urlSearchParams raw))

/-- The value of a name in a form, by its values in the entries. -/
def formValue : List String → Option Json
  | [] => none
  | [v] => some (.str v)
  | vs => some (.arr (vs.map .str))

/-- One more value of a name. -/
lemma get_addEntry {out : Params} {name v : String} {vs : List String}
    (h : out.get name = formValue vs) :
    (addEntry out (name, v)).get name = formValue (vs ++ [v]) := by
  unfold addEntry
  simp only [h]
  cases vs with
  | nil => simp [formValue, Params.get, assoc_assocSet]
  | cons a vs =>
    cases vs with
    | nil => simp [formValue, Params.get, assoc_assocSet]
    | cons b vs => simp [formValue, Params.get, assoc_assocSet]

/-- An entry of another name. -/
lemma get_addEntry_ne {out : Params} {name : String} {entry : String × String}
    (h : entry.1 ≠ name) : (addEntry out entry).get name = out.get name := by
  unfold addEntry
  split <;> simp [Params.get, assoc_assocSet, Ne.symm h]

/-- **The value of a name in a form** is made of its values in the entries. -/
lemma get_formOf (entries : List (String × String)) (name : String) :
    (formOf entries).get name = formValue (valuesOf name entries) := by
  induction entries using List.reverseRecOn with
  | nil => rfl
  | append_singleton entries entry ih =>
    have hfold : formOf (entries ++ [entry]) = addEntry (formOf entries) entry := by
      simp [formOf, List.foldl_append]
    rw [hfold]
    by_cases he : entry.1 = name
    · have hvalues : valuesOf name (entries ++ [entry]) = valuesOf name entries ++ [entry.2] := by
        simp [valuesOf, List.filter_append, he]
      subst he
      rw [hvalues]
      exact get_addEntry ih
    · have hvalues : valuesOf name (entries ++ [entry]) = valuesOf name entries := by
        simp [valuesOf, List.filter_append, he]
      rw [hvalues, get_addEntry_ne he, ih]

/-- **Exactly the repeated names have arrays.** -/
lemma isArray_formOf (entries : List (String × String)) (name : String) :
    isArray ((formOf entries).get name) = true ↔ 2 ≤ (valuesOf name entries).length := by
  rw [get_formOf]
  cases valuesOf name entries with
  | nil => simp [formValue, isArray]
  | cons a vs =>
    cases vs with
    | nil => simp [formValue, isArray]
    | cons b vs => simp [formValue, isArray]

end Fapi2As
