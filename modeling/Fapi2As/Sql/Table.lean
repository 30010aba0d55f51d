import Fapi2As.Js.Map

set_option relaxedAutoImplicit false
set_option autoImplicit false

/-!
# Statements on a table

The statements of SQL on one table with a primary key, as functions of its rows: a condition is a
test of the key and the rest of a row, and a statement gives the rows it returns, or their number,
with the table after it.

Most statements of a program fix the primary key in their condition. Such a statement is a lookup
or a change of one row, whatever else the condition tests.

## Main definitions

* `Sql.select`, `Sql.update`, `Sql.insert`, `Sql.upsert`, `Sql.deleteLimit` — the statements.

## Main results

* `Sql.head?_select_key`, `Sql.update_key` — a statement whose condition fixes the key.
-/

namespace Sql

open Js

variable {κ ρ : Type} [DecidableEq κ]

/-- `select … where p`: the rows that meet the condition. -/
def select (t : Map κ ρ) (p : κ → ρ → Bool) : List ρ := (t.filter p).values

/-- `update … set f where p returning *`: the rows that met the condition, as they are now, and the
table. -/
def update (t : Map κ ρ) (p : κ → ρ → Bool) (f : ρ → ρ) : List ρ × Map κ ρ :=
  ((select t p).map f, t.mapVals fun k row => if p k row then f row else row)

/-- `insert`: the table with the row, whose key is free. -/
def insert (t : Map κ ρ) (key : κ) (row : ρ) : Map κ ρ := t.set key row

/-- `insert … on conflict (key) do update … where p`, which writes the row in the place of one that
meets the condition: the number of rows written, and the table. -/
def upsert (t : Map κ ρ) (key : κ) (row : ρ) (p : ρ → Bool) : ℕ × Map κ ρ :=
  match t.get? key with
  | some old => if p old then (1, t.set key row) else (0, t)
  | none => (1, t.set key row)

/-- `delete … where ctid in (select ctid … where p limit n)`: which rows go, of more than `n`, is
the choice of the database. -/
def deleteLimit (t : Map κ ρ) (p : ρ → Bool) (n : ℕ) (chosen : List κ) : Map κ ρ :=
  t.filter fun k row => !((chosen.take n).contains k && p row)

variable (t : Map κ ρ) (key : κ) (p : ρ → Bool)

/-- The rows of a selection by key. -/
lemma select_key :
    select t (fun k row => decide (k = key) && p row) = ((t.get? key).filter p).toList := by
  have hlist : ∀ l : List (κ × ρ), (l.map Prod.fst).Nodup →
      ((l.filter fun e => decide (e.1 = key) && p e.2).map Prod.snd) =
        ((assoc key l).filter p).toList := by
    intro l hl
    induction l with
    | nil => rfl
    | cons e l ih =>
      rw [List.map_cons, List.nodup_cons] at hl
      simp only [assoc]
      by_cases hk : e.1 = key
      · -- the key is found: no later entry has it
        have hrest : (l.filter fun e => decide (e.1 = key) && p e.2) = [] := by
          refine List.filter_eq_nil_iff.mpr fun e' he' => ?_
          have hne : e'.1 ≠ key := fun hk' =>
            hl.1 (List.mem_map.mpr ⟨e', he', hk'.trans hk.symm⟩)
          simp [hne]
        rw [if_pos hk, List.filter_cons, hrest]
        cases hp : p e.2 <;> simp [hk, hp, Option.filter]
      · rw [if_neg hk, List.filter_cons, if_neg (by simp [hk]), ih hl.2]
  exact hlist t.entries t.nodup

/-- **A selection by key** is a lookup. -/
lemma head?_select_key :
    (select t (fun k row => decide (k = key) && p row)).head? = (t.get? key).filter p := by
  rw [select_key]
  cases (t.get? key).filter p <;> rfl

/-- A selection by key without another condition. -/
lemma head?_select_pk : (select t (fun k _ => decide (k = key))).head? = t.get? key := by
  have h := head?_select_key t key fun _ => true
  simp only [Bool.and_true] at h
  rw [h]
  cases t.get? key <;> rfl

/-- The table after an update by key. -/
lemma update_key_snd (f : ρ → ρ) :
    (update t (fun k row => decide (k = key) && p row) f).2 =
      t.modify key fun row => if p row then f row else row := by
  simp only [update, Map.modify]
  refine Map.mapVals_congr fun k row _ => ?_
  by_cases hk : k = key <;> simp [hk]

/-- **An update by key** sets the row of the key, if it is there and meets the condition. -/
lemma update_key (f : ρ → ρ) :
    update t (fun k row => decide (k = key) && p row) f =
      match (t.get? key).filter p with
      | some row => ([f row], t.set key (f row))
      | none => ([], t) := by
  refine Prod.ext ?_ ?_
  · simp only [update, select_key]
    cases (t.get? key).filter p <;> rfl
  · rw [update_key_snd]
    cases h : (t.get? key).filter p with
    | some row =>
      obtain ⟨hrow, hp⟩ := Option.filter_eq_some_iff.mp h
      rw [Map.modify_eq_set hrow, if_pos hp]
    | none =>
      refine Map.modify_eq_self fun row hrow => ?_
      rw [hrow] at h
      exact if_neg (by simpa [Option.filter] using h)

end Sql
