import Fapi2As.Js.Encoding
import Mathlib.Data.List.Basic

set_option relaxedAutoImplicit false
set_option autoImplicit false

/-!
# Queries of addresses

The query of a URL as a list of names and values: the serializer and the parser of
`application/x-www-form-urlencoded`. A text is written byte by byte, a space as a plus sign and
every byte that does not stand for itself in hexadecimal digits after a percent sign. The parser
reads malformed queries too: a percent sign without two digits stands for itself, a part without `=`
is a name with an empty value, and empty parts are skipped.

## Main definitions

* `Web.serializeQuery` — the text of a list of names and values.
* `Web.parseQuery` — the names and values of a text.

## Main results

* `Web.parseQuery_serializeQuery` — a query is read back from its text.
-/

namespace Web

open Js

/-! ## The serializer -/

/-- A character that stands for itself in a query. -/
def isQueryChar (c : Char) : Bool := c.isAlphanum || "*-._".toList.contains c

/-- The characters of a byte that does not stand for itself. -/
def percentByte (b : ℕ) : List Char := ['%', hexDigit (b / 16), hexDigit (b % 16)]

/-- The bytes of a character. -/
def charBytes (c : Char) : List ℕ := (String.utf8EncodeChar c).map UInt8.toNat

/-- The characters of a character in a query. -/
def queryChars (c : Char) : List Char :=
  if c = ' ' then ['+']
  else if isQueryChar c then [c]
  else (charBytes c).flatMap percentByte

/-- The characters of a text in a query. -/
def queryText (s : String) : List Char := s.toList.flatMap queryChars

/-- A name and its value. -/
def queryPair (e : String × String) : List Char := queryText e.1 ++ '=' :: queryText e.2

/-- **The text of a query.** -/
def serializeQuery (l : List (String × String)) : String :=
  String.ofList (['&'].intercalate (l.map queryPair))

/-! ## The parser -/

/-- The value of a hexadecimal digit, in either case. -/
def hexValue (c : Char) : Option ℕ := "0123456789ABCDEF".toList.idxOf? c.toUpper

/-- The bytes of a text of a query. -/
def queryBytes : List Char → List ℕ
  | [] => []
  | '+' :: l => 32 :: queryBytes l
  | '%' :: a :: b :: l =>
    match hexValue a, hexValue b with
    | some m, some n => (m * 16 + n) :: queryBytes l
    | _, _ => 37 :: queryBytes (a :: b :: l)
  | c :: l => charBytes c ++ queryBytes l

/-- The text of a name or a value. -/
def readText (l : List Char) : String := lossyText (queryBytes l)

/-- The name and the value of a part, which is cut at the first `=`. -/
def readPair (l : List Char) : String × String :=
  (readText (l.takeWhile (· ≠ '=')), readText ((l.dropWhile (· ≠ '=')).drop 1))

/-- **The names and values of a query.** -/
def parseQuery (s : String) : List (String × String) :=
  ((s.toList.splitOn '&').filter (· ≠ [])).map readPair

example : parseQuery "a=b+c&&d=%C3%A9%2&e" = [("a", "b c"), ("d", "é%2"), ("e", "")] := by
  decide +kernel

/-! ## One character -/

lemma hexValue_hexDigit {n : ℕ} (h : n < 16) : hexValue (hexDigit n) = some n := by
  have hall : ∀ m : Fin 16, hexValue (hexDigit m) = some m.val := by decide
  exact hall ⟨n, h⟩

lemma hexDigit_isAlphanum (n : ℕ) : (hexDigit n).isAlphanum = true := by
  unfold hexDigit
  rw [List.getD_eq_getElem?_getD]
  cases h : "0123456789ABCDEF".toList[n]? with
  | none => decide
  | some c =>
    have hall : "0123456789ABCDEF".toList.all Char.isAlphanum = true := by decide
    exact List.all_eq_true.mp hall c (List.mem_of_getElem? h)

/-- A byte is read back. -/
lemma queryBytes_percentByte {b : ℕ} (h : b < 256) (l : List Char) :
    queryBytes (percentByte b ++ l) = b :: queryBytes l := by
  simp only [percentByte, List.cons_append, List.nil_append, queryBytes,
    hexValue_hexDigit (by omega : b / 16 < 16), hexValue_hexDigit (by omega : b % 16 < 16)]
  congr 1
  omega

lemma queryBytes_percentBytes {bytes : List ℕ} (h : ∀ b ∈ bytes, b < 256) (l : List Char) :
    queryBytes (bytes.flatMap percentByte ++ l) = bytes ++ queryBytes l := by
  induction bytes with
  | nil => rfl
  | cons b bytes ih =>
    rw [List.flatMap_cons, List.append_assoc, queryBytes_percentByte (h b List.mem_cons_self),
      ih fun x hx => h x (List.mem_cons_of_mem _ hx), List.cons_append]

/-- A character is read back. -/
lemma queryBytes_queryChars (c : Char) (l : List Char) :
    queryBytes (queryChars c ++ l) = charBytes c ++ queryBytes l := by
  unfold queryChars
  split_ifs with hspace hself
  · subst hspace
    rfl
  · -- a character that stands for itself is neither of the two that the parser treats alone
    have hplus : c ≠ '+' := by
      rintro rfl
      exact absurd hself (by decide)
    have hpercent : c ≠ '%' := by
      rintro rfl
      exact absurd hself (by decide)
    rw [List.singleton_append, queryBytes]
    · exact hplus
    · intro a b rest hc
      exact absurd hc hpercent
  · refine queryBytes_percentBytes (fun b hb => ?_) l
    obtain ⟨u, -, rfl⟩ := List.mem_map.mp hb
    exact u.toNat_lt

/-- **The bytes of a text are read back.** -/
lemma queryBytes_queryText (s : String) : queryBytes (queryText s) = utf8 s := by
  have hall : ∀ cs : List Char, queryBytes (cs.flatMap queryChars) = cs.flatMap charBytes := by
    intro cs
    induction cs with
    | nil => rfl
    | cons c cs ih => rw [List.flatMap_cons, queryBytes_queryChars, ih, List.flatMap_cons]
  rw [queryText, hall, utf8, List.map_flatMap]
  rfl

lemma readText_queryText (s : String) : readText (queryText s) = s := by
  rw [readText, queryBytes_queryText, lossyText_utf8]

/-! ## Parts -/

/-- A character of a text in a query is no separator. -/
lemma notMem_queryText {c : Char} (hself : isQueryChar c = false) (hplus : c ≠ '+')
    (hpercent : c ≠ '%') (s : String) : c ∉ queryText s := by
  intro h
  obtain ⟨d, -, hd⟩ := List.mem_flatMap.mp h
  unfold queryChars at hd
  split_ifs at hd with hspace hd'
  · exact hplus (List.mem_singleton.mp hd)
  · rw [List.mem_singleton.mp hd, hd'] at hself
    cases hself
  · obtain ⟨b, -, hb⟩ := List.mem_flatMap.mp hd
    have hdigit : ∀ n, c ≠ hexDigit n := by
      rintro n rfl
      rw [isQueryChar, hexDigit_isAlphanum, Bool.true_or] at hself
      cases hself
    simp only [percentByte, List.mem_cons, List.not_mem_nil, or_false] at hb
    rcases hb with hb | hb | hb
    · exact hpercent hb
    · exact hdigit _ hb
    · exact hdigit _ hb

/-- A name and its value are read back. -/
lemma readPair_queryPair (e : String × String) : readPair (queryPair e) = e := by
  have hname : ∀ c ∈ queryText e.1, decide (c ≠ '=') = true := fun c hc =>
    decide_eq_true fun he => notMem_queryText (by decide) (by decide) (by decide) e.1 (he ▸ hc)
  rw [readPair, queryPair, List.takeWhile_append_of_pos hname, List.dropWhile_append_of_pos hname]
  simp [readText_queryText]

/-- A part is not empty and holds no separator of parts. -/
lemma notMem_queryPair (e : String × String) : '&' ∉ queryPair e := by
  have htext := notMem_queryText (c := '&') (by decide) (by decide) (by decide)
  simp [queryPair, htext]

/-- **A query is read back from its text.** -/
theorem parseQuery_serializeQuery (l : List (String × String)) :
    parseQuery (serializeQuery l) = l := by
  rcases eq_or_ne l [] with rfl | hne
  · rfl
  have hparts : ∀ part ∈ l.map queryPair, '&' ∉ part := by
    intro part h
    obtain ⟨e, -, rfl⟩ := List.mem_map.mp h
    exact notMem_queryPair e
  have hkept : ∀ part ∈ l.map queryPair, decide (part ≠ []) = true := by
    intro part h
    obtain ⟨e, -, rfl⟩ := List.mem_map.mp h
    simp [queryPair]
  rw [parseQuery, serializeQuery, String.toList_ofList,
    List.splitOn_intercalate '&' hparts (by simpa using hne), List.filter_eq_self.mpr hkept,
    List.map_map]
  refine (List.map_congr_left fun e _ => ?_).trans (List.map_id l)
  exact readPair_queryPair e

end Web
