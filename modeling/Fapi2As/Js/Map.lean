import Mathlib.Tactic.Common
import Mathlib.Data.List.Nodup

set_option relaxedAutoImplicit false
set_option autoImplicit false

/-!
# Insertion-ordered maps

The `Map` of ECMAScript: at most one entry per key, iterated in the order in which the keys were
first set; setting a key that is present replaces its value in place. The entries are a list
that carries the proof that its keys are distinct, so the number of entries is the number of
keys, and every operation is characterised by what it does to lookups.

## Main definitions

* `Js.Map` — maps; `Js.Map.get?`, `Js.Map.set`, `Js.Map.filter`, `Js.Map.mapVals` — lookup,
  update, deletion of the entries that fail a test, and in-place change of all values.
* `Js.Map.Renamed` — two maps that differ in the spelling of their keys only.

## Main results

* `Js.Map.get?_set`, `Js.Map.get?_filter`, `Js.Map.get?_mapVals` — lookups after each operation.
* `Js.Map.Renamed.get?`, `Js.Map.Renamed.set` — a map with renamed keys answers and changes alike.
-/

namespace Js

variable {κ ρ : Type} [DecidableEq κ]

/-- The value of the first entry with a key. -/
def assoc (k : κ) : List (κ × ρ) → Option ρ
  | [] => none
  | (k', v) :: l => if k' = k then some v else assoc k l

/-- Replace the value of a key in place, or add the key at the end. -/
def assocSet (k : κ) (v : ρ) : List (κ × ρ) → List (κ × ρ)
  | [] => [(k, v)]
  | (k', v') :: l => if k' = k then (k, v) :: l else (k', v') :: assocSet k v l

/-- A key set in a list is a key of the list or the one set. -/
lemma mem_keys_assocSet {k k' : κ} {v : ρ} {l : List (κ × ρ)}
    (h : k' ∈ (assocSet k v l).map Prod.fst) : k' = k ∨ k' ∈ l.map Prod.fst := by
  induction l with
  | nil => exact .inl (by simpa [assocSet] using h)
  | cons e l ih =>
    simp only [assocSet] at h
    split_ifs at h with he
    · simp only [List.map_cons, List.mem_cons] at h ⊢
      exact h.imp_right .inr
    · simp only [List.map_cons, List.mem_cons] at h ⊢
      rcases h with h | h
      · exact .inr (.inl h)
      · exact (ih h).imp_right .inr

/-- The entries after setting a key are the one set and those that were there. -/
lemma eq_or_mem_of_mem_assocSet {k : κ} {v : ρ} {l : List (κ × ρ)} {e : κ × ρ}
    (h : e ∈ assocSet k v l) : e = (k, v) ∨ e ∈ l := by
  induction l with
  | nil => exact .inl (by simpa [assocSet] using h)
  | cons e' l ih =>
    simp only [assocSet] at h
    split_ifs at h
    · exact (List.mem_cons.mp h).imp_right (List.mem_cons_of_mem _)
    · rcases List.mem_cons.mp h with rfl | h
      · exact .inr List.mem_cons_self
      · exact (ih h).imp_right (List.mem_cons_of_mem _)

/-- Setting a key keeps the entries of the others. -/
lemma mem_assocSet_of_ne {k : κ} {v : ρ} {l : List (κ × ρ)} {e : κ × ρ} (h : e ∈ l)
    (hne : e.1 ≠ k) :
    e ∈ assocSet k v l := by
  induction l with
  | nil => cases h
  | cons e' l ih =>
    simp only [assocSet]
    rcases List.mem_cons.mp h with rfl | h
    · rw [if_neg hne]
      exact List.mem_cons_self
    · split_ifs
      · exact List.mem_cons_of_mem _ h
      · exact List.mem_cons_of_mem _ (ih h)

/-- Setting a key keeps the keys distinct. -/
lemma nodup_assocSet (k : κ) (v : ρ) {l : List (κ × ρ)} (h : (l.map Prod.fst).Nodup) :
    ((assocSet k v l).map Prod.fst).Nodup := by
  induction l with
  | nil => simp [assocSet]
  | cons e l ih =>
    rw [List.map_cons, List.nodup_cons] at h
    simp only [assocSet]
    split_ifs with hk
    · subst hk
      exact List.nodup_cons.mpr h
    · obtain ⟨he, hl⟩ := h
      rw [List.map_cons, List.nodup_cons]
      refine ⟨fun hm => ?_, ih hl⟩
      rcases mem_keys_assocSet hm with h' | h'
      · exact hk h'
      · exact he h'

lemma assoc_assocSet (k k' : κ) (v : ρ) (l : List (κ × ρ)) :
    assoc k' (assocSet k v l) = if k' = k then some v else assoc k' l := by
  induction l with
  | nil => simp [assocSet, assoc, eq_comm]
  | cons e l ih =>
    simp only [assocSet]
    split_ifs with h1 h2 h2
    · simp [assoc, h2]
    · simp only [assoc, if_neg (Ne.symm h2), h1]
    · simp only [assoc, h2, if_neg h1]
      simpa [h2] using ih
    · simp only [assoc]
      simpa [h2] using congrArg (fun x => if e.1 = k' then some e.2 else x) ih

/-- The first entry with a key in two lists is in the first list, if it is there. -/
lemma assoc_append (k : κ) (l m : List (κ × ρ)) :
    assoc k (l ++ m) = (assoc k l).or (assoc k m) := by
  induction l with
  | nil => simp [assoc]
  | cons e l ih =>
    simp only [List.cons_append, assoc]
    split_ifs
    · simp
    · exact ih

/-- An entry that is found is in the list. -/
lemma mem_of_assoc {k : κ} {v : ρ} {l : List (κ × ρ)} (h : assoc k l = some v) : (k, v) ∈ l := by
  induction l with
  | nil => cases h
  | cons e l ih =>
    simp only [assoc] at h
    split_ifs at h with hk
    · obtain rfl := Option.some.inj h
      exact List.mem_cons.mpr (.inl (Prod.ext hk.symm rfl))
    · exact List.mem_cons_of_mem _ (ih h)

/-- A key that no entry has is not found. -/
lemma assoc_eq_none {k : κ} {l : List (κ × ρ)} (h : k ∉ l.map Prod.fst) : assoc k l = none := by
  induction l with
  | nil => rfl
  | cons e l ih =>
    simp only [List.map_cons, List.mem_cons, not_or] at h
    simp only [assoc, if_neg (Ne.symm h.1), ih h.2]

/-- A key that is not found is the key of no entry. -/
lemma not_mem_of_assoc_eq_none {k : κ} {l : List (κ × ρ)} (h : assoc k l = none) :
    k ∉ l.map Prod.fst := by
  induction l with
  | nil => exact List.not_mem_nil
  | cons e l ih =>
    simp only [assoc] at h
    split_ifs at h with hk
    rw [List.map_cons, List.mem_cons, not_or]
    exact ⟨Ne.symm hk, ih h⟩

lemma assoc_filter (p : κ → ρ → Bool) (k : κ) {l : List (κ × ρ)} (h : (l.map Prod.fst).Nodup) :
    assoc k (l.filter fun e => p e.1 e.2) = (assoc k l).filter (p k) := by
  induction l with
  | nil => rfl
  | cons e l ih =>
    rw [List.map_cons, List.nodup_cons] at h
    obtain ⟨he, hl⟩ := h
    rw [List.filter_cons]
    by_cases hk : e.1 = k
    · subst hk
      have hn : assoc e.1 (l.filter fun e => p e.1 e.2) = none := by
        rw [ih hl, assoc_eq_none he]
        rfl
      split_ifs with hp
      · simp [assoc, Option.filter, hp]
      · rw [hn]
        simp [assoc, Option.filter, hp]
    · split_ifs with hp
      · simpa only [assoc, if_neg hk] using ih hl
      · simpa only [assoc, if_neg hk] using ih hl

lemma assoc_map (f : κ → ρ → ρ) (k : κ) (l : List (κ × ρ)) :
    assoc k (l.map fun e => (e.1, f e.1 e.2)) = (assoc k l).map (f k) := by
  induction l with
  | nil => rfl
  | cons e l ih =>
    by_cases hk : e.1 = k
    · subst hk
      simp [assoc]
    · simpa only [List.map_cons, assoc, if_neg hk] using ih

/-- A `Map`: its entries in insertion order, one for each key. -/
structure Map (κ ρ : Type) where
  /-- The entries. -/
  entries : List (κ × ρ)
  /-- No key has two entries. -/
  nodup : (entries.map Prod.fst).Nodup

namespace Map

/-- The map without entries. -/
def empty : Map κ ρ := ⟨[], List.nodup_nil⟩

/-- The value of a key. -/
def get? (m : Map κ ρ) (k : κ) : Option ρ := assoc k m.entries

/-- Give a key a value. -/
def set (m : Map κ ρ) (k : κ) (v : ρ) : Map κ ρ :=
  ⟨assocSet k v m.entries, nodup_assocSet k v m.nodup⟩

/-- The number of entries. -/
def size (m : Map κ ρ) : ℕ := m.entries.length

/-- The values, in insertion order. -/
def values (m : Map κ ρ) : List ρ := m.entries.map Prod.snd

/-- Keep the entries that pass a test. -/
def filter (m : Map κ ρ) (p : κ → ρ → Bool) : Map κ ρ :=
  ⟨m.entries.filter fun e => p e.1 e.2, m.nodup.sublist (List.filter_sublist.map _)⟩

/-- Change every value in place. -/
def mapVals (m : Map κ ρ) (f : κ → ρ → ρ) : Map κ ρ :=
  ⟨m.entries.map fun e => (e.1, f e.1 e.2),
    by simpa [List.map_map, Function.comp_def] using m.nodup⟩

/-- Change the value of one key, if it is there. -/
def modify (m : Map κ ρ) (k : κ) (f : ρ → ρ) : Map κ ρ :=
  m.mapVals fun k' v => if k' = k then f v else v

/-- A value that is looked up is one of the values. -/
lemma mem_values {m : Map κ ρ} {k : κ} {v : ρ} (h : m.get? k = some v) : v ∈ m.values :=
  List.mem_map.mpr ⟨(k, v), mem_of_assoc h, rfl⟩

/-- An entry is found under its key. -/
lemma get?_of_mem {m : Map κ ρ} {k : κ} {v : ρ} (h : (k, v) ∈ m.entries) : m.get? k = some v := by
  cases hk : m.get? k with
  | none => exact absurd (List.mem_map_of_mem h) (not_mem_of_assoc_eq_none hk)
  | some v' =>
    have hmem : (k, v') ∈ m.entries := mem_of_assoc hk
    have hsame := List.inj_on_of_nodup_map m.nodup hmem h rfl
    rw [(Prod.mk.inj hsame).2]

/-- A value is one of the values exactly when it is found under some key. -/
lemma mem_values_iff {m : Map κ ρ} {v : ρ} : v ∈ m.values ↔ ∃ k, m.get? k = some v := by
  refine ⟨fun h => ?_, fun ⟨k, h⟩ => mem_values h⟩
  obtain ⟨⟨k, v'⟩, he, rfl⟩ := List.mem_map.mp h
  exact ⟨k, get?_of_mem he⟩

@[simp] lemma get?_empty (k : κ) : (empty : Map κ ρ).get? k = none := rfl

lemma get?_set (m : Map κ ρ) (k k' : κ) (v : ρ) :
    (m.set k v).get? k' = if k' = k then some v else m.get? k' := assoc_assocSet k k' v m.entries

@[simp] lemma get?_set_self (m : Map κ ρ) (k : κ) (v : ρ) : (m.set k v).get? k = some v := by
  simp [get?_set]

lemma get?_filter (m : Map κ ρ) (p : κ → ρ → Bool) (k : κ) :
    (m.filter p).get? k = (m.get? k).filter (p k) := assoc_filter p k m.nodup

omit [DecidableEq κ] in
lemma size_filter_le (m : Map κ ρ) (p : κ → ρ → Bool) : (m.filter p).size ≤ m.size :=
  List.length_filter_le _ _

/-- Setting a key adds at most one entry. -/
lemma size_set_le (m : Map κ ρ) (k : κ) (v : ρ) : (m.set k v).size ≤ m.size + 1 := by
  have hlist : ∀ l : List (κ × ρ), (assocSet k v l).length ≤ l.length + 1 := by
    intro l
    induction l with
    | nil => simp [assocSet]
    | cons e l ih =>
      simp only [assocSet]
      split_ifs
      · simp
      · simpa using ih
  exact hlist m.entries

/-- Setting a key that is there adds no entry. -/
lemma size_set_of_some {m : Map κ ρ} {k : κ} {w : ρ} (h : m.get? k = some w) (v : ρ) :
    (m.set k v).size = m.size := by
  have hlist : ∀ l : List (κ × ρ), assoc k l = some w → (assocSet k v l).length = l.length := by
    intro l hl
    induction l with
    | nil => cases hl
    | cons e l ih =>
      simp only [assocSet]
      split_ifs with hk
      · rfl
      · rw [assoc, if_neg hk] at hl
        simpa using ih hl
  exact hlist m.entries h

/-- Removing a key that is there leaves fewer entries. -/
lemma size_filter_lt {m : Map κ ρ} {p : κ → ρ → Bool} {k : κ} {v : ρ} (h : m.get? k = some v)
    (hp : p k v = false) : (m.filter p).size < m.size := by
  apply List.length_filter_lt_length_iff_exists.mpr
  exact ⟨(k, v), mem_of_assoc h, by simpa using hp⟩

lemma get?_mapVals (m : Map κ ρ) (f : κ → ρ → ρ) (k : κ) :
    (m.mapVals f).get? k = (m.get? k).map (f k) := assoc_map f k m.entries

lemma get?_modify (m : Map κ ρ) (k k' : κ) (f : ρ → ρ) :
    (m.modify k f).get? k' = (m.get? k').map fun v => if k' = k then f v else v :=
  get?_mapVals m _ k'

/-! ### Changes of values -/

section Changes

variable {m : Map κ ρ} {k : κ}

omit [DecidableEq κ] in
/-- Maps with the same entries are equal. -/
lemma ext_entries {m' : Map κ ρ} (h : m.entries = m'.entries) : m = m' := by
  obtain ⟨l, hl⟩ := m
  obtain ⟨l', hl'⟩ := m'
  obtain rfl : l = l' := h
  rfl

omit [DecidableEq κ] in
/-- Changes that agree on the entries of a map change it alike. -/
lemma mapVals_congr {f g : κ → ρ → ρ} (h : ∀ k v, (k, v) ∈ m.entries → f k v = g k v) :
    m.mapVals f = m.mapVals g :=
  ext_entries (List.map_congr_left fun e he => by rw [h e.1 e.2 he])

omit [DecidableEq κ] in
/-- A change that keeps every entry of a map keeps the map. -/
lemma mapVals_eq_self {f : κ → ρ → ρ} (h : ∀ k v, (k, v) ∈ m.entries → f k v = v) :
    m.mapVals f = m := by
  refine ext_entries ?_
  calc m.entries.map (fun e => (e.1, f e.1 e.2))
      = m.entries.map id := List.map_congr_left fun e he => by rw [h e.1 e.2 he]; rfl
    _ = m.entries := List.map_id _

/-- The change of a value to itself keeps the map. -/
lemma modify_eq_self {f : ρ → ρ} (h : ∀ v, m.get? k = some v → f v = v) : m.modify k f = m := by
  refine mapVals_eq_self fun k' v he => ?_
  split_ifs with hk
  · subst hk
    exact h v (get?_of_mem he)
  · rfl

/-- The change of a value that is there sets it. -/
lemma modify_eq_set {v : ρ} (h : m.get? k = some v) (f : ρ → ρ) :
    m.modify k f = m.set k (f v) := by
  have hlist : ∀ l : List (κ × ρ), (l.map Prod.fst).Nodup → assoc k l = some v →
      l.map (fun e => (e.1, if e.1 = k then f e.2 else e.2)) = assocSet k (f v) l := by
    intro l hl hv
    induction l with
    | nil => cases hv
    | cons e l ih =>
      rw [List.map_cons, List.nodup_cons] at hl
      simp only [List.map_cons, assocSet, assoc] at hv ⊢
      split_ifs at hv ⊢ with hk
      · -- the key is found: no later entry has it
        have hrest : l.map (fun e => (e.1, if e.1 = k then f e.2 else e.2)) = l.map id := by
          refine List.map_congr_left fun e' he' => ?_
          rw [if_neg fun hk' => hl.1 (List.mem_map.mpr ⟨e', he', hk'.trans hk.symm⟩)]
          rfl
        rw [hrest, List.map_id, hk, Option.some.inj hv]
      · rw [ih hl.2 hv]
  exact ext_entries (hlist m.entries m.nodup h)

end Changes

/-! ### Maps with renamed keys -/

section Renamed

variable {κ' : Type} [DecidableEq κ'] {S : κ → Prop} {f : κ → κ'} {m : Map κ ρ} {m' : Map κ' ρ}

/-- The keys of a map, all in a set, are renamed in place. -/
structure Renamed (S : κ → Prop) (f : κ → κ') (m : Map κ ρ) (m' : Map κ' ρ) : Prop where
  entries : m'.entries = m.entries.map fun e => (f e.1, e.2)
  keys : ∀ e ∈ m.entries, S e.1

omit [DecidableEq κ] [DecidableEq κ'] in
lemma Renamed.size (h : Renamed S f m m') : m'.size = m.size := by
  rw [Map.size, h.entries, List.length_map, Map.size]

omit [DecidableEq κ] [DecidableEq κ'] in
/-- A test of the values keeps the same entries of both maps. -/
lemma Renamed.filter (h : Renamed S f m m') (p : ρ → Bool) :
    Renamed S f (m.filter fun _ v => p v) (m'.filter fun _ v => p v) where
  entries := by
    simp only [Map.filter, h.entries, List.filter_map]
    rfl
  keys e he := h.keys e (List.mem_of_mem_filter he)

section

variable (hf : ∀ k k', S k → S k' → f k = f k' → k = k')

include hf

lemma Renamed.get? (h : Renamed S f m m') {k : κ} (hk : S k) : m'.get? (f k) = m.get? k := by
  have hlist : ∀ l : List (κ × ρ), (∀ e ∈ l, S e.1) →
      assoc (f k) (l.map fun e => (f e.1, e.2)) = assoc k l := by
    intro l hl
    induction l with
    | nil => rfl
    | cons e l ih =>
      have htail := ih fun e' he' => hl e' (List.mem_cons_of_mem _ he')
      simp only [List.map_cons, assoc]
      by_cases hek : e.1 = k
      · rw [if_pos hek, if_pos (congrArg f hek)]
      · rw [if_neg hek, if_neg fun he => hek (hf _ _ (hl e List.mem_cons_self) hk he), htail]
  rw [Map.get?, h.entries, hlist _ h.keys, Map.get?]

lemma Renamed.set (h : Renamed S f m m') {k : κ} (hk : S k) (v : ρ) :
    Renamed S f (m.set k v) (m'.set (f k) v) where
  entries := by
    have hlist : ∀ l : List (κ × ρ), (∀ e ∈ l, S e.1) →
        assocSet (f k) v (l.map fun e => (f e.1, e.2)) =
          (assocSet k v l).map fun e => (f e.1, e.2) := by
      intro l hl
      induction l with
      | nil => rfl
      | cons e l ih =>
        have htail := ih fun e' he' => hl e' (List.mem_cons_of_mem _ he')
        simp only [List.map_cons, assocSet]
        by_cases hek : e.1 = k
        · rw [if_pos hek, if_pos (congrArg f hek), List.map_cons]
        · rw [if_neg hek, if_neg fun he => hek (hf _ _ (hl e List.mem_cons_self) hk he), htail,
            List.map_cons]
    simp only [Map.set, h.entries]
    exact hlist _ h.keys
  keys e he := by
    have hkey := mem_keys_assocSet (List.mem_map_of_mem he)
    rcases hkey with hkey | hkey
    · exact hkey ▸ hk
    · obtain ⟨e', he', hee⟩ := List.mem_map.mp hkey
      exact hee ▸ h.keys e' he'

end

end Renamed

end Map

end Js
