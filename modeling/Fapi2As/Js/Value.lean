import Mathlib.Data.Rat.Floor
import Fapi2As.Js.Map

set_option relaxedAutoImplicit false
set_option autoImplicit false

/-!
# Values and dates

The values that come out of JSON texts and form bodies, and the time values of `Date`. Numbers
are exact rationals: a JSON number is a decimal fraction, and the engine only adds, compares and
scales them. A `Date` is a whole number of milliseconds or invalid; building one from a number
cuts the fraction off and gives the invalid date outside the range of time values, and every
comparison with the invalid date is false.

## Main definitions

* `Js.Json` — JSON values; `Js.Params` — the string-keyed records of untyped values.
* `Js.Date`, `Js.newDate` — dates and their construction from a number of milliseconds.
* `Js.Date.isPast`, `Js.Date.isAfter` — `d.getTime() <= now` and `d.getTime() > now`.

## Main results

* `Js.newDate_natCast` — a whole number of milliseconds in range is its own time value.
-/

namespace Js

/-- A JSON value. The fields of an object are in order. -/
inductive Json : Type
  | null
  | bool (b : Bool)
  | num (q : ℚ)
  | str (s : String)
  | arr (l : List Json)
  | obj (fields : List (String × Json))

namespace Json

mutual

/-- Equality of JSON values, by recursion. -/
def same : Json → Json → Bool
  | null, null => true
  | bool a, bool b => a = b
  | num p, num q => p = q
  | str s, str t => s = t
  | arr l, arr m => sameList l m
  | obj l, obj m => sameFields l m
  | _, _ => false

/-- Equality of arrays. -/
def sameList : List Json → List Json → Bool
  | [], [] => true
  | a :: l, b :: m => same a b && sameList l m
  | _, _ => false

/-- Equality of fields. -/
def sameFields : List (String × Json) → List (String × Json) → Bool
  | [], [] => true
  | (s, a) :: l, (t, b) :: m => s = t && same a b && sameFields l m
  | _, _ => false

end

mutual

lemma same_iff : ∀ a b : Json, same a b = true ↔ a = b
  | null, b => by cases b <;> simp [same]
  | bool _, b => by cases b <;> simp [same]
  | num _, b => by cases b <;> simp [same]
  | str _, b => by cases b <;> simp [same]
  | arr l, b => by cases b <;> simp [same, sameList_iff l]
  | obj l, b => by cases b <;> simp [same, sameFields_iff l]

lemma sameList_iff : ∀ l m : List Json, sameList l m = true ↔ l = m
  | [], m => by cases m <;> simp [sameList]
  | a :: l, m => by cases m <;> simp [sameList, same_iff a, sameList_iff l]

lemma sameFields_iff : ∀ l m : List (String × Json), sameFields l m = true ↔ l = m
  | [], m => by cases m <;> simp [sameFields]
  | (s, a) :: l, m => by
    cases m with
    | nil => simp [sameFields]
    | cons e m =>
      obtain ⟨t, b⟩ := e
      simp [sameFields, same_iff a, sameFields_iff l, and_assoc]

end

instance : DecidableEq Json := fun a b => decidable_of_iff (same a b = true) (same_iff a b)

end Json

/-- A record of untyped values, as a form body or the claims of a token: a name that is absent
has the value `undefined`. -/
abbrev Params := List (String × Json)

/-- The value of a name, `none` for `undefined`. -/
def Params.get (p : Params) (name : String) : Option Json := assoc name p

/-- `typeof v === "string" && v !== "" ? v : undefined`. -/
def str : Option Json → Option String
  | some (.str s) => if s = "" then none else some s
  | _ => none

lemma str_eq_some {s t : String} (h : str (some (.str s)) = some t) : s = t := by
  simp only [str] at h
  split_ifs at h
  exact Option.some.inj h

/-- A string that is read is not empty. -/
lemma str_ne_empty {v : Option Json} {s : String} (h : str v = some s) : s ≠ "" := by
  unfold str at h
  split at h
  · split_ifs at h with hne
    rw [← Option.some.inj h]
    exact hne
  · cases h

/-- `Array.isArray(v)`. -/
def isArray : Option Json → Bool
  | some (.arr _) => true
  | _ => false

/-- A date: its time value in milliseconds since the epoch, `none` for the invalid date. -/
abbrev Date := Option ℤ

/-- The largest absolute value of a time value, a hundred million days. -/
def maxTime : ℕ := 8640000000000000

/-- `new Date(q)` of a number: a fraction is cut off towards zero, and a value out of range
gives the invalid date. -/
def newDate (q : ℚ) : Date := if |q| ≤ maxTime then some (q.num.tdiv q.den) else none

/-- `d.getTime() <= now.getTime()`. -/
def Date.isPast (d : Date) (now : ℕ) : Bool :=
  match d with
  | some t => t ≤ now
  | none => false

/-- `d.getTime() > now.getTime()`. -/
def Date.isAfter (d : Date) (now : ℕ) : Bool :=
  match d with
  | some t => now < t
  | none => false

/-- `Math.floor(d.getTime() / 1000)` as a JSON value: the invalid date gives `NaN`, which is
written as `null`. -/
def Date.seconds (d : Date) : Json :=
  match d with
  | some t => .num (t / 1000 : ℤ)
  | none => .null

/-- A whole number of milliseconds in range is its own time value. -/
lemma newDate_natCast {n : ℕ} (h : n ≤ maxTime) : newDate n = some (n : ℤ) := by
  simp [newDate, h]

/-- The time value of a number in range: its floor, or its ceiling below zero. -/
lemma newDate_eq_some {q : ℚ} {a : ℤ} (h : newDate q = some a) :
    (0 ≤ q → a = ⌊q⌋) ∧ (q ≤ 0 → a = ⌈q⌉) := by
  unfold newDate at h
  split_ifs at h
  obtain rfl := Option.some.inj h
  have hfloor : ∀ r : ℚ, 0 ≤ r → r.num.tdiv r.den = ⌊r⌋ := by
    intro r hr
    rw [Int.tdiv_eq_ediv_of_nonneg (Rat.num_nonneg.mpr hr), Rat.floor_def']
  refine ⟨hfloor q, fun hq => ?_⟩
  have hneg := hfloor (-q) (neg_nonneg.mpr hq)
  rw [Rat.neg_num, Rat.neg_den, Int.neg_tdiv, Int.floor_neg] at hneg
  exact neg_injective hneg

/-- A date is no earlier than the whole numbers below it. -/
lemma le_newDate {q : ℚ} {n a : ℤ} (hn : (n : ℚ) ≤ q) (h : newDate q = some a) : n ≤ a := by
  obtain ⟨hpos, hneg⟩ := newDate_eq_some h
  rcases le_total 0 q with hq | hq
  · rw [hpos hq]
    exact Int.le_floor.mpr hn
  · rw [hneg hq]
    exact_mod_cast hn.trans (Int.le_ceil q)

end Js
