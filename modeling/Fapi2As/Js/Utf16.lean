import Fapi2As.Js.Text

set_option relaxedAutoImplicit false
set_option autoImplicit false

/-!
# UTF-16 code units

A string of the language is any sequence of UTF-16 code units. One that is read out of a JSON
document may hold a surrogate without its partner (`"\ud800"`), and is then the text of no
characters. The encoder of UTF-8 writes U+FFFD in the place of each unpaired surrogate, so different
strings may have the same bytes. The strings without unpaired surrogates are those of the texts.

## Main definitions

* `Js.utf16` — the code units of a text.
* `Js.wellFormed` — `s.toWellFormed()`, the text with U+FFFD for every unpaired surrogate; its UTF-8
  bytes are those of `Buffer.from(s, "utf8")`.
* `Js.IsWellFormed` — `s.isWellFormed()`.

## Main results

* `Js.wellFormed_utf16` — a text is read back from its code units.
* `Js.wellFormed_inj` — a string without unpaired surrogates is determined by its text.
-/

namespace Js

/-- A leading (high) surrogate. -/
def isLead (u : UInt16) : Bool := 0xD800 ≤ u.toNat && u.toNat < 0xDC00

/-- A trailing (low) surrogate. -/
def isTrail (u : UInt16) : Bool := 0xDC00 ≤ u.toNat && u.toNat < 0xE000

/-- The character of a surrogate pair. -/
def pairChar (u v : UInt16) : Char :=
  Char.ofNat (0x10000 + (u.toNat - 0xD800) * 0x400 + (v.toNat - 0xDC00))

/-- The character of a code unit that is in no pair: U+FFFD for a surrogate. -/
def unitChar (u : UInt16) : Char :=
  if isLead u || isTrail u then Char.ofNat 0xFFFD else Char.ofNat u.toNat

/-- The characters of code units. -/
def unitChars : List UInt16 → List Char
  | [] => []
  | [u] => [unitChar u]
  | u :: v :: l =>
    if isLead u && isTrail v then pairChar u v :: unitChars l else unitChar u :: unitChars (v :: l)

/-- `s.toWellFormed()`. -/
def wellFormed (s : List UInt16) : String := String.ofList (unitChars s)

/-- The code units of a character. -/
def charUnits (c : Char) : List UInt16 :=
  if c.toNat < 0x10000 then [UInt16.ofNat c.toNat]
  else [UInt16.ofNat (0xD800 + (c.toNat - 0x10000) / 0x400),
    UInt16.ofNat (0xDC00 + (c.toNat - 0x10000) % 0x400)]

/-- The code units of a text. -/
def utf16 (s : String) : List UInt16 := s.toList.flatMap charUnits

/-- `s.isWellFormed()`: no surrogate is unpaired. -/
def IsWellFormed (s : List UInt16) : Prop := utf16 (wellFormed s) = s

/-- A code unit that begins no pair stands alone. -/
lemma unitChars_cons {u : UInt16} (h : isLead u = false) (l : List UInt16) :
    unitChars (u :: l) = unitChar u :: unitChars l := by
  cases l with
  | nil => rfl
  | cons v l => simp [unitChars, h]

/-- The code units of a character are read back. -/
lemma unitChars_charUnits (c : Char) (l : List UInt16) :
    unitChars (charUnits c ++ l) = c :: unitChars l := by
  have hvalid : c.toNat < 0xD800 ∨ 0xDFFF < c.toNat ∧ c.toNat < 0x110000 := c.valid
  unfold charUnits
  split_ifs with hbmp
  · have hu : (UInt16.ofNat c.toNat).toNat = c.toNat := by
      rw [UInt16.toNat_ofNat']
      exact Nat.mod_eq_of_lt hbmp
    have hlead : isLead (UInt16.ofNat c.toNat) = false := by
      simp only [isLead, hu, Bool.and_eq_false_iff, decide_eq_false_iff_not]
      omega
    have htrail : isTrail (UInt16.ofNat c.toNat) = false := by
      simp only [isTrail, hu, Bool.and_eq_false_iff, decide_eq_false_iff_not]
      omega
    rw [List.singleton_append, unitChars_cons hlead, unitChar, hlead, htrail, hu]
    simp
  · have hu : (UInt16.ofNat (0xD800 + (c.toNat - 0x10000) / 0x400)).toNat =
        0xD800 + (c.toNat - 0x10000) / 0x400 := by
      rw [UInt16.toNat_ofNat']
      exact Nat.mod_eq_of_lt (by omega)
    have hv : (UInt16.ofNat (0xDC00 + (c.toNat - 0x10000) % 0x400)).toNat =
        0xDC00 + (c.toNat - 0x10000) % 0x400 := by
      rw [UInt16.toNat_ofNat']
      exact Nat.mod_eq_of_lt (by omega)
    have hlead : isLead (UInt16.ofNat (0xD800 + (c.toNat - 0x10000) / 0x400)) = true := by
      simp only [isLead, hu, Bool.and_eq_true, decide_eq_true_eq]
      omega
    have htrail : isTrail (UInt16.ofNat (0xDC00 + (c.toNat - 0x10000) % 0x400)) = true := by
      simp only [isTrail, hv, Bool.and_eq_true, decide_eq_true_eq]
      omega
    have hchar : 0x10000 + (0xD800 + (c.toNat - 0x10000) / 0x400 - 0xD800) * 0x400 +
        (0xDC00 + (c.toNat - 0x10000) % 0x400 - 0xDC00) = c.toNat := by omega
    simp only [List.cons_append, List.nil_append, unitChars, hlead, htrail, Bool.and_self, if_true,
      pairChar, hu, hv, hchar, Char.ofNat_toNat]

/-- **A text is read back from its code units.** -/
lemma wellFormed_utf16 (s : String) : wellFormed (utf16 s) = s := by
  have hlist : ∀ l : List Char, unitChars (l.flatMap charUnits) = l := by
    intro l
    induction l with
    | nil => rfl
    | cons c l ih => rw [List.flatMap_cons, unitChars_charUnits, ih]
  rw [wellFormed, utf16, hlist, String.ofList_toList]

/-- The code units of a text are well-formed. -/
lemma isWellFormed_utf16 (s : String) : IsWellFormed (utf16 s) := by
  rw [IsWellFormed, wellFormed_utf16]

/-- **A well-formed string is determined by its text.** -/
lemma wellFormed_inj {s t : List UInt16} (hs : IsWellFormed s) (ht : IsWellFormed t)
    (h : wellFormed s = wellFormed t) : s = t :=
  calc s = utf16 (wellFormed s) := hs.symm
    _ = utf16 (wellFormed t) := by rw [h]
    _ = t := ht

end Js
