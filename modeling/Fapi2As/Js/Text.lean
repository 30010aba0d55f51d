import Mathlib.Data.List.TakeDrop
import Mathlib.Tactic.Common

set_option relaxedAutoImplicit false
set_option autoImplicit false

/-!
# Strings

The string operations of ECMAScript and Node that a protocol engine uses on request parameters:
splitting at a separator, trimming, the base64url encoding of the UTF-8 bytes of a string, and
percent-encoding. All are defined by recursion on the characters, so they can be evaluated.

## Main definitions

* `Js.split`, `Js.words`, `Js.cut` — `s.split(" ")`, the same without the empty parts, and the
  cut at the first separator.
* `Js.trim`, `Js.isBlank` — `s.trim()`, and whether it is empty; `Js.startsWith`,
  `Js.toLowerCase`.
* `Js.codeUnits` — the code units that `length` and the order of strings are about.
* `Js.base64url`, `Js.base64urlText` — `Buffer.toString("base64url")` of bytes and of a string.
* `Js.encodeURIComponent`.

## Main results

* `Js.mem_words` — the characters of a string other than spaces are those of its words.
-/

namespace Js

/-! ## Splitting and trimming -/

/-- `s.split(sep)` for a separator of one character. -/
def split (sep : Char) (s : String) : List String := (s.toList.splitOn sep).map String.ofList

/-- The parts of a string before and after the first occurrence of a character. -/
def cut (sep : Char) (s : String) : Option (String × String) :=
  match s.toList.span (· ≠ sep) with
  | (before, _ :: after) => some (String.ofList before, String.ofList after)
  | (_, []) => none

/-- The cut at a separator that the first part does not hold. -/
lemma cut_append {sep : Char} {a b : String} (h : sep ∉ a.toList) :
    cut sep (a ++ String.ofList [sep] ++ b) = some (a, b) := by
  have hspan : (a.toList ++ sep :: b.toList).span (· ≠ sep) = (a.toList, sep :: b.toList) := by
    rw [List.span_eq_takeWhile_dropWhile, List.takeWhile_append_of_pos,
      List.dropWhile_append_of_pos]
    · simp
    all_goals
      intro c hc
      have hne : c ≠ sep := fun he => h (he ▸ hc)
      simpa using hne
  unfold cut
  simp only [String.toList_append, String.toList_ofList, List.append_assoc, List.singleton_append]
  rw [hspan]
  simp

/-- `s.split(" ").filter(Boolean)`: the space-separated words of a string. -/
def words (s : String) : List String := (split ' ' s).filter (· ≠ "")

/-- The elements of lists that are joined with a separator. -/
lemma mem_intercalate {α : Type} {sep c : α} {ls : List (List α)} :
    c ∈ [sep].intercalate ls → c = sep ∨ ∃ l ∈ ls, c ∈ l := by
  induction ls with
  | nil => exact fun h => by simp at h
  | cons l ls ih =>
    intro h
    cases ls with
    | nil => exact .inr ⟨l, List.mem_cons_self, by simpa using h⟩
    | cons l' ls =>
      rw [List.intercalate_cons_cons, List.mem_append, List.mem_append, List.mem_singleton] at h
      rcases h with (h | h) | h
      · exact .inr ⟨l, List.mem_cons_self, h⟩
      · exact .inl h
      · rcases ih h with h | ⟨m, hm, hc⟩
        · exact .inl h
        · exact .inr ⟨m, List.mem_cons_of_mem _ hm, hc⟩

/-- A joined list has the elements of its parts. -/
lemma mem_intercalate_of_mem {α : Type} {sep c : α} {ls : List (List α)} {l : List α} (hl : l ∈ ls)
    (hc : c ∈ l) : c ∈ [sep].intercalate ls := by
  induction ls with
  | nil => cases hl
  | cons l' ls ih =>
    cases ls with
    | nil =>
      obtain rfl := List.mem_singleton.mp hl
      simpa using hc
    | cons l'' ls =>
      rw [List.intercalate_cons_cons]
      rcases List.mem_cons.mp hl with rfl | hl
      · exact List.mem_append_left _ (List.mem_append_left _ hc)
      · exact List.mem_append_right _ (ih hl)

/-- **The characters of a string other than spaces are those of its words.** -/
lemma mem_words {s : String} {c : Char} (hc : c ≠ ' ') :
    (∃ w ∈ words s, c ∈ w.toList) ↔ c ∈ s.toList := by
  have hjoin : [' '].intercalate (s.toList.splitOn ' ') = s.toList := List.intercalate_splitOn ' '
  constructor
  · rintro ⟨w, hw, hmem⟩
    obtain ⟨l, hl, rfl⟩ := List.mem_map.mp (List.mem_filter.mp hw).1
    rw [← hjoin]
    exact mem_intercalate_of_mem hl (by simpa using hmem)
  · intro hmem
    rw [← hjoin] at hmem
    obtain ⟨l, hl, hcl⟩ := (mem_intercalate hmem).resolve_left hc
    refine ⟨String.ofList l, List.mem_filter.mpr ⟨List.mem_map_of_mem hl, ?_⟩, by simpa using hcl⟩
    cases l with
    | nil => cases hcl
    | cons d l => simp

/-- White space and line terminators, as `trim` removes them. -/
def isSpace (c : Char) : Bool :=
  (0x9 ≤ c.toNat && c.toNat ≤ 0xd) || c.toNat = 0x20 || c.toNat = 0xa0 || c.toNat = 0x1680 ||
    (0x2000 ≤ c.toNat && c.toNat ≤ 0x200a) || c.toNat = 0x2028 || c.toNat = 0x2029 ||
    c.toNat = 0x202f || c.toNat = 0x205f || c.toNat = 0x3000 || c.toNat = 0xfeff

/-- `s.trim()`. -/
def trim (s : String) : String :=
  String.ofList ((s.toList.dropWhile isSpace).reverse.dropWhile isSpace).reverse

/-- `s.trim() === ""`. -/
def isBlank (s : String) : Bool := s.toList.all isSpace

/-- `s.startsWith(pre)`. -/
def startsWith (pre s : String) : Bool := pre.toList.isPrefixOf s.toList

/-- `s.toLowerCase()` on ASCII letters. -/
def toLowerCase (s : String) : String := String.ofList (s.toList.map Char.toLower)

/-- The printable ASCII range `%x20-7E`. -/
def isVschar (c : Char) : Bool := 0x20 ≤ c.toNat && c.toNat ≤ 0x7e

/-- The letters and digits of the base64url alphabet, with `-` and `_`. -/
def isBase64urlChar (c : Char) : Bool := c.isAlphanum || c = '-' || c = '_'

/-! ## Encodings -/

/-- The UTF-16 code units of a string. -/
def codeUnits (s : String) : List ℕ :=
  s.toList.flatMap fun c =>
    if c.toNat < 0x10000 then [c.toNat]
    else [0xd800 + (c.toNat - 0x10000) / 0x400, 0xdc00 + (c.toNat - 0x10000) % 0x400]

/-- The UTF-8 bytes of a string. -/
def utf8 (s : String) : List ℕ := (s.toList.flatMap String.utf8EncodeChar).map UInt8.toNat

/-- The base64url alphabet, in order of value. -/
def base64urlAlphabet : List Char :=
  "ABCDEFGHIJKLMNOPQRSTUVWXYZabcdefghijklmnopqrstuvwxyz0123456789-_".toList

/-- The character of a 6-bit group. -/
def base64urlDigit (n : ℕ) : Char := base64urlAlphabet.getD n 'A'

/-- The base64url encoding of a list of bytes, without padding: three bytes give four
characters, one or two bytes at the end give two or three. -/
def base64url : List ℕ → List Char
  | [] => []
  | [a] => [base64urlDigit (a / 4), base64urlDigit (a % 4 * 16)]
  | [a, b] =>
    [base64urlDigit (a / 4), base64urlDigit (a % 4 * 16 + b / 16), base64urlDigit (b % 16 * 4)]
  | a :: b :: c :: l =>
    base64urlDigit (a / 4) :: base64urlDigit (a % 4 * 16 + b / 16) ::
      base64urlDigit (b % 16 * 4 + c / 64) :: base64urlDigit (c % 64) :: base64url l

/-- `Buffer.from(s, "utf8").toString("base64url")`. -/
def base64urlText (s : String) : String := String.ofList (base64url (utf8 s))

/-- A character of an encoding is one of the alphabet. -/
lemma base64urlDigit_mem (n : ℕ) : base64urlDigit n ∈ base64urlAlphabet := by
  unfold base64urlDigit
  rw [List.getD_eq_getElem?_getD]
  cases h : base64urlAlphabet[n]? with
  | none => decide
  | some c => exact List.mem_of_getElem? h

lemma mem_base64url {l : List ℕ} {c : Char} (h : c ∈ base64url l) : c ∈ base64urlAlphabet := by
  induction l using base64url.induct with
  | case1 => simp [base64url] at h
  | case2 a =>
    simp only [base64url, List.mem_cons, List.not_mem_nil, or_false] at h
    rcases h with rfl | rfl <;> exact base64urlDigit_mem _
  | case3 a b =>
    simp only [base64url, List.mem_cons, List.not_mem_nil, or_false] at h
    rcases h with rfl | rfl | rfl <;> exact base64urlDigit_mem _
  | case4 a b c' l ih =>
    simp only [base64url, List.mem_cons] at h
    rcases h with rfl | rfl | rfl | rfl | h
    all_goals first | exact base64urlDigit_mem _ | exact ih h

/-- The encoding of a text that is not empty is not empty. -/
lemma base64urlText_ne_empty {s : String} (h : s ≠ "") : base64urlText s ≠ "" := by
  intro he
  have hnil : base64url (utf8 s) = [] := by simpa [base64urlText] using he
  have hutf : utf8 s = [] := by
    unfold base64url at hnil
    split at hnil <;> simp_all
  apply h
  cases hs : s.toList with
  | nil => simpa using hs
  | cons c l =>
    have hlen := congrArg List.length hutf
    simp only [utf8, hs, List.flatMap_cons, List.map_append, List.length_append, List.length_map,
      String.length_utf8EncodeChar, List.length_nil] at hlen
    have := c.utf8Size_pos
    omega

/-- An upper-case hexadecimal digit. -/
def hexDigit (n : ℕ) : Char := "0123456789ABCDEF".toList.getD n '0'

/-- The characters `encodeURIComponent` leaves as they are. -/
def isUriUnreserved (c : Char) : Bool := c.isAlphanum || "-_.!~*'()".toList.contains c

/-- `encodeURIComponent(s)`. -/
def encodeURIComponent (s : String) : String :=
  String.ofList (s.toList.flatMap fun c =>
    if isUriUnreserved c then [c]
    else (String.utf8EncodeChar c).flatMap fun b =>
      ['%', hexDigit (b.toNat / 16), hexDigit (b.toNat % 16)])

end Js
