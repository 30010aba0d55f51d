import Mathlib.Data.List.Basic
import Mathlib.Data.List.Induction
import Mathlib.Data.List.Pairwise
import Mathlib.Tactic.Common

set_option relaxedAutoImplicit false
set_option autoImplicit false

/-!
# Entities

Escaping of a text by entities: some characters are each replaced by a word that starts with one and
the same of them. Replacing one character after the other over the whole text gives the same as
replacing all at once when no word holds a character that is replaced later, and the text can then
be read back.

## Main definitions

* `Markup.replaceChar` — one pass over a text.
* `Markup.Entities` — the characters in the order of their passes, with their entities.
* `Markup.Entities.encode`, `Markup.Entities.decode` — all at once, and back.

## Main results

* `Markup.Entities.passes_eq_encode` — the passes together are the encoding.
* `Markup.Entities.lead_begins` — the leading character only occurs at the start of an entity.
* `Markup.Entities.decode_encode` — an encoded text is read back.
-/

namespace Markup

/-- Replace every occurrence of a character by a word. -/
def replaceChar (c : Char) (word : List Char) (l : List Char) : List Char :=
  l.flatMap fun d => if d = c then word else [d]

/-- A character that a text does not hold is not replaced in it. -/
lemma replaceChar_of_notMem {c : Char} {word l : List Char} (h : c ∉ l) :
    replaceChar c word l = l := by
  induction l with
  | nil => rfl
  | cons d l ih =>
    rw [List.mem_cons, not_or] at h
    rw [replaceChar, List.flatMap_cons, if_neg (Ne.symm h.1)]
    exact congrArg (d :: ·) (ih h.2)

/-- **A table of entities**: the characters in the order in which they are replaced. Every entity
starts with `lead`, which is replaced itself and is nowhere else in an entity. -/
structure Entities where
  table : List (Char × List Char)
  lead : Char
  lead_replaced : ∃ e ∈ table, e.1 = lead
  starts : ∀ e ∈ table, e.2.head? = some lead
  once : ∀ e ∈ table, lead ∉ e.2.tail
  /-- No entity holds a character that is replaced later. -/
  ordered : table.Pairwise fun e e' => e'.1 ∉ e.2
  /-- No entity is the start of another. -/
  prefixFree : table.Pairwise fun e e' => ¬e.2 <+: e'.2 ∧ ¬e'.2 <+: e.2

/-- What a character becomes by a table. -/
def encodeChar (table : List (Char × List Char)) (c : Char) : List Char :=
  ((table.find? fun e => e.1 = c).map Prod.snd).getD [c]

/-- A character is replaced by its entity, or is none of the table and is kept. -/
lemma encodeChar_cases (table : List (Char × List Char)) (c : Char) :
    (∃ e ∈ table, e.1 = c ∧ encodeChar table c = e.2) ∨
      (∀ e ∈ table, e.1 ≠ c) ∧ encodeChar table c = [c] := by
  unfold encodeChar
  cases h : table.find? fun e => e.1 = c with
  | some e =>
    have hc := List.find?_some h
    exact .inl ⟨e, List.mem_of_find?_eq_some h, by simpa using hc, rfl⟩
  | none =>
    refine .inr ⟨fun e he => ?_, rfl⟩
    simpa using List.find?_eq_none.mp h e he

/-- **The passes over a text are the encoding**, when no entity holds a character that is replaced
later. -/
lemma passes_eq_flatMap {table : List (Char × List Char)}
    (h : table.Pairwise fun e e' => e'.1 ∉ e.2) (l : List Char) :
    table.foldl (fun l e => replaceChar e.1 e.2 l) l = l.flatMap (encodeChar table) := by
  induction table using List.reverseRecOn with
  | nil =>
    have hkept : encodeChar [] = fun c => [c] := rfl
    rw [hkept, List.flatMap_singleton', List.foldl_nil]
  | append_singleton table e ih =>
    rw [List.pairwise_append] at h
    obtain ⟨hpast, -, hlater⟩ := h
    rw [List.foldl_append, ih hpast]
    show replaceChar e.1 e.2 (l.flatMap (encodeChar table)) = _
    rw [replaceChar, List.flatMap_assoc]
    congr 1
    funext c
    show replaceChar e.1 e.2 (encodeChar table c) = encodeChar (table ++ [e]) c
    rcases encodeChar_cases table c with ⟨e', he', rfl, heq⟩ | ⟨hnone, heq⟩
    · rw [heq, replaceChar_of_notMem (hlater e' he' e List.mem_cons_self)]
      unfold encodeChar at heq ⊢
      rw [List.find?_append]
      cases hfind : table.find? fun x => x.1 = e'.1 with
      | some x =>
        rw [hfind] at heq
        exact heq.symm
      | none => exact absurd (List.find?_eq_none.mp hfind e' he') (by simp)
    · have hfind : (table.find? fun x => x.1 = c) = none :=
        List.find?_eq_none.mpr fun x hx => by simpa using hnone x hx
      rw [heq, encodeChar, List.find?_append, hfind]
      by_cases hc : e.1 = c
      · simp [replaceChar, hc]
      · simp [replaceChar, hc, Ne.symm hc]

namespace Entities

variable (E : Entities)

/-- The encoding of a text. -/
def encode (l : List Char) : List Char := l.flatMap (encodeChar E.table)

/-- Reading a text back: an entity stands for its character, and any other character for itself.
The number counts the characters of an entity that are still to be passed over. -/
def decodeFrom : ℕ → List Char → List Char
  | _, [] => []
  | skip + 1, _ :: l => decodeFrom skip l
  | 0, c :: l =>
    match E.table.find? fun e => e.2.isPrefixOf (c :: l) with
    | some e => e.1 :: decodeFrom (e.2.length - 1) l
    | none => c :: decodeFrom 0 l

/-- Reading a text back. -/
def decode (l : List Char) : List Char := E.decodeFrom 0 l

lemma passes_eq_encode (l : List Char) :
    E.table.foldl (fun l e => replaceChar e.1 e.2 l) l = E.encode l :=
  passes_eq_flatMap E.ordered l

/-- A character of an encoded text is one that is kept, or it is in an entity. -/
lemma mem_encode {l : List Char} {c : Char} (h : c ∈ E.encode l) :
    (∀ e ∈ E.table, e.1 ≠ c) ∨ ∃ e ∈ E.table, c ∈ e.2 := by
  obtain ⟨d, -, hc⟩ := List.mem_flatMap.mp h
  rcases encodeChar_cases E.table d with ⟨e, he, -, heq⟩ | ⟨hnone, heq⟩
  · exact .inr ⟨e, he, heq ▸ hc⟩
  · rw [heq, List.mem_singleton] at hc
    exact .inl (hc ▸ hnone)

/-- An entity is its leading character and a rest without it. -/
lemma eq_cons {e : Char × List Char} (he : e ∈ E.table) :
    ∃ rest, e.2 = E.lead :: rest ∧ E.lead ∉ rest := by
  have hhead := E.starts e he
  have honce := E.once e he
  cases hword : e.2 with
  | nil => simp [hword] at hhead
  | cons c rest =>
    rw [hword, List.head?_cons, Option.some.injEq] at hhead
    rw [hword, List.tail_cons] at honce
    exact ⟨rest, by rw [hhead], honce⟩

/-- **Every leading character in an encoded text begins an entity.** -/
theorem lead_begins {l before after : List Char} (h : E.encode l = before ++ E.lead :: after) :
    ∃ e ∈ E.table, e.2 <+: E.lead :: after := by
  induction l generalizing before with
  | nil => simp [encode] at h
  | cons c l ih =>
    have hcons : E.encode (c :: l) = encodeChar E.table c ++ E.encode l := List.flatMap_cons
    rw [hcons] at h
    -- the occurrence is past the first character, or it is in what that one became
    rcases List.append_eq_append_iff.mp h with ⟨mid, hbefore, hrest⟩ | ⟨mid, hword, hrest⟩
    · exact ih hrest
    · cases mid with
      | nil => exact ih (hrest.symm.trans (List.nil_append _).symm)
      | cons d mid =>
        rw [List.cons_append, List.cons.injEq] at hrest
        obtain ⟨hlead, hafter⟩ := hrest
        subst hlead
        rcases encodeChar_cases E.table c with ⟨e, he, -, heq⟩ | ⟨hnone, heq⟩
        · rw [heq] at hword
          obtain ⟨rest, hcons', hnot⟩ := E.eq_cons he
          cases before with
          | nil => exact ⟨e, he, hafter ▸ hword ▸ List.prefix_append _ _⟩
          | cons b before =>
            rw [hcons', List.cons_append, List.cons.injEq] at hword
            exact absurd (hword.2 ▸ List.mem_append_right before List.mem_cons_self) hnot
        · -- the leading character is replaced, so it is not one that is kept
          obtain ⟨e, he, hlead⟩ := E.lead_replaced
          have hmem : E.lead ∈ [c] := heq ▸ hword ▸ List.mem_append_right before List.mem_cons_self
          exact absurd (hlead.trans (List.mem_singleton.mp hmem)) (hnone e he)

/-- Passing over the rest of an entity. -/
lemma decodeFrom_append (word l : List Char) :
    E.decodeFrom word.length (word ++ l) = E.decodeFrom 0 l := by
  induction word with
  | nil => rfl
  | cons c word ih => exact ih

/-- The entity that a text begins with is the only one. -/
lemma find_eq {e : Char × List Char} (he : e ∈ E.table) (l : List Char) :
    (E.table.find? fun x => x.2.isPrefixOf (e.2 ++ l)) = some e := by
  cases hfind : E.table.find? fun x => x.2.isPrefixOf (e.2 ++ l) with
  | none =>
    have := List.find?_eq_none.mp hfind e he
    simp at this
  | some x =>
    have hx := List.mem_of_find?_eq_some hfind
    have hprefix : x.2 <+: e.2 ++ l := by simpa using List.find?_some hfind
    by_contra hne
    have hxe : x ≠ e := fun h => hne (congrArg some h)
    have hfree : ¬x.2 <+: e.2 ∧ ¬e.2 <+: x.2 := by
      have hsymm : Std.Symm fun y z : Char × List Char => ¬y.2 <+: z.2 ∧ ¬z.2 <+: y.2 :=
        ⟨fun _ _ h => ⟨h.2, h.1⟩⟩
      exact E.prefixFree.forall hx he hxe
    rcases List.prefix_or_prefix_of_prefix hprefix (List.prefix_append e.2 l) with h | h
    · exact hfree.1 h
    · exact hfree.2 h

/-- **An encoded text is read back.** -/
theorem decode_encode (l : List Char) : E.decode (E.encode l) = l := by
  induction l with
  | nil => rfl
  | cons c l ih =>
    have hcons : E.encode (c :: l) = encodeChar E.table c ++ E.encode l := List.flatMap_cons
    rw [hcons, decode]
    rcases encodeChar_cases E.table c with ⟨e, he, hc, heq⟩ | ⟨hnone, heq⟩
    · obtain ⟨rest, hword, -⟩ := E.eq_cons he
      have hfind := E.find_eq he (E.encode l)
      rw [heq]
      rw [hword, List.cons_append] at hfind ⊢
      rw [decodeFrom, hfind]
      show e.1 :: E.decodeFrom (e.2.length - 1) (rest ++ E.encode l) = c :: l
      rw [hc, hword, List.length_cons, Nat.add_sub_cancel, E.decodeFrom_append]
      exact congrArg (c :: ·) ih
    · have hfind : (E.table.find? fun e => e.2.isPrefixOf (c :: E.encode l)) = none := by
        apply List.find?_eq_none.mpr
        intro e he hprefix
        obtain ⟨rest, hword, -⟩ := E.eq_cons he
        rw [hword, List.isPrefixOf_cons_cons, Bool.and_eq_true, beq_iff_eq] at hprefix
        obtain ⟨e', he', hlead⟩ := E.lead_replaced
        exact hnone e' he' (hlead.trans hprefix.1)
      rw [heq, List.singleton_append, decodeFrom, hfind]
      exact congrArg (c :: ·) ih

end Entities

end Markup
