import Mathlib.Data.List.Count
import Mathlib.Tactic.Common

set_option relaxedAutoImplicit false
set_option autoImplicit false

/-!
# Instants that are spaced

Instants with more than a gap between each and the next bound how many of them an interval can hold.

## Main definitions

* `Quota.Spaced` — instants in order, with a gap between any two.

## Main results

* `Quota.Spaced.countP_le` — how many of them an interval of some width holds.
-/

namespace Quota

/-- Instants in order, more than a gap apart. -/
def Spaced (gap : ℕ) (times : List ℕ) : Prop := times.Pairwise fun s t => s + gap < t

variable {gap t b : ℕ} {times : List ℕ}

/-- Spaced instants reach further the more of them there are. -/
lemma Spaced.reach (h : Spaced gap (t :: times)) (hb : ∀ s ∈ t :: times, s ≤ b) :
    t + times.length * (gap + 1) ≤ b := by
  induction times generalizing t with
  | nil => simpa using hb t
  | cons s times ih =>
    obtain ⟨hfirst, hrest⟩ := List.pairwise_cons.mp h
    have hs : t + gap < s := hfirst s List.mem_cons_self
    have hlast := ih hrest fun x hx => hb x (List.mem_cons_of_mem t hx)
    rw [List.length_cons, Nat.succ_mul]
    omega

/-- **An interval holds few spaced instants**: one, and one more for each gap that fits into it. -/
theorem Spaced.countP_le (h : Spaced gap times) (t width : ℕ) :
    times.countP (fun s => t ≤ s ∧ s ≤ t + width) ≤ width / (gap + 1) + 1 := by
  rw [List.countP_eq_length_filter]
  have hsub : Spaced gap (times.filter fun s => t ≤ s ∧ s ≤ t + width) :=
    List.Pairwise.sublist List.filter_sublist h
  have hin : ∀ s ∈ times.filter (fun s => t ≤ s ∧ s ≤ t + width), t ≤ s ∧ s ≤ t + width :=
    fun s hs => by simpa using (List.mem_filter.mp hs).2
  generalize times.filter (fun s => t ≤ s ∧ s ≤ t + width) = inside at hsub hin
  cases inside with
  | nil => simp
  | cons s inside =>
    have hreach := hsub.reach fun x hx => (hin x hx).2
    have hfirst := (hin s List.mem_cons_self).1
    have hfit : inside.length ≤ width / (gap + 1) :=
      (Nat.le_div_iff_mul_le (by omega : 0 < gap + 1)).mpr (by omega)
    rw [List.length_cons]
    omega

end Quota
