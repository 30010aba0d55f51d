import Mathlib.Data.Int.Notation
import Mathlib.Data.List.TakeWhile
import Fapi2As.Js.Text

set_option relaxedAutoImplicit false
set_option autoImplicit false

/-!
# Encoded and joined texts

When two encoded or joined texts are equal, what they were made of is equal: the base64url encoding
of the UTF-8 bytes of a text determines the text, and a join at a separator determines its parts
when one of them does not hold the separator. The decoder of base64url is the lenient one of Node:
it stops at the padding character, and skips every other character that is in neither base64
alphabet.

## Main definitions

* `Js.base64urlBytes` — `Buffer.from(s, "base64url")`, the bytes of a text.
* `Js.lossyText` — the text of bytes, which may be malformed.

## Main results

* `Js.base64urlBytes_base64url` — decoding an encoding gives the bytes back.
* `Js.base64urlText_injective` — the encoding of a text determines it.
* `Js.join_inj_left`, `Js.join_inj_right` — a join determines its parts.
* `Js.eq_of_cut` — the two parts of a cut text make up the text.
* `Js.decimal_inj` — the decimal digits of a number determine it.
* `Js.lossyText_utf8` — the text of the bytes of a text is the text.
-/

namespace Js

/-! ## Joins -/

/-- A list cut at the first occurrence of a separator. -/
lemma cons_inj_left {α : Type} {sep : α} {a a' b b' : List α} (h : sep ∉ a) (h' : sep ∉ a')
    (he : a ++ sep :: b = a' ++ sep :: b') : a = a' ∧ b = b' := by
  induction a generalizing a' with
  | nil =>
    cases a' with
    | nil => simpa using he
    | cons c a' =>
      have hc : sep = c := by simpa using congrArg List.head? he
      exact absurd (hc ▸ List.mem_cons_self) h'
  | cons c a ih =>
    cases a' with
    | nil =>
      have hc : c = sep := by simpa using congrArg List.head? he
      exact absurd (hc ▸ List.mem_cons_self) h
    | cons d a' =>
      simp only [List.cons_append, List.cons.injEq] at he
      simp only [List.mem_cons, not_or] at h h'
      obtain ⟨ha, hb⟩ := ih h.2 h'.2 he.2
      exact ⟨by rw [he.1, ha], hb⟩

/-- A list cut at the last occurrence of a separator. -/
lemma cons_inj_right {α : Type} {sep : α} {a a' b b' : List α} (h : sep ∉ b) (h' : sep ∉ b')
    (he : a ++ sep :: b = a' ++ sep :: b') : a = a' ∧ b = b' := by
  have hrev : b.reverse ++ sep :: a.reverse = b'.reverse ++ sep :: a'.reverse := by
    simpa using congrArg List.reverse he
  have hparts := cons_inj_left (by simpa using h) (by simpa using h') hrev
  exact ⟨List.reverse_inj.mp hparts.2, List.reverse_inj.mp hparts.1⟩

/-- **A join determines its parts** when the first ones do not hold the separator. -/
lemma join_inj_left {sep : Char} {a a' b b' : String} (h : sep ∉ a.toList) (h' : sep ∉ a'.toList)
    (he : a ++ String.ofList [sep] ++ b = a' ++ String.ofList [sep] ++ b') : a = a' ∧ b = b' := by
  have hlist : a.toList ++ sep :: b.toList = a'.toList ++ sep :: b'.toList := by
    simpa using congrArg String.toList he
  have hparts := cons_inj_left h h' hlist
  exact ⟨String.toList_inj.mp hparts.1, String.toList_inj.mp hparts.2⟩

/-- **A join determines its parts** when the last ones do not hold the separator. -/
lemma join_inj_right {sep : Char} {a a' b b' : String} (h : sep ∉ b.toList) (h' : sep ∉ b'.toList)
    (he : a ++ String.ofList [sep] ++ b = a' ++ String.ofList [sep] ++ b') : a = a' ∧ b = b' := by
  have hlist : a.toList ++ sep :: b.toList = a'.toList ++ sep :: b'.toList := by
    simpa using congrArg String.toList he
  have hparts := cons_inj_right h h' hlist
  exact ⟨String.toList_inj.mp hparts.1, String.toList_inj.mp hparts.2⟩

/-- The two parts of a cut text make up the text. -/
lemma eq_of_cut {sep : Char} {v a b : String} (h : cut sep v = some (a, b)) :
    v = a ++ String.ofList [sep] ++ b := by
  unfold cut at h
  rw [List.span_eq_takeWhile_dropWhile] at h
  have hsplit := List.takeWhile_append_dropWhile (p := fun c => decide (c ≠ sep)) (l := v.toList)
  have hhead := List.head?_dropWhile_not (fun c => decide (c ≠ sep)) v.toList
  cases hd : v.toList.dropWhile (fun c => decide (c ≠ sep)) with
  | nil =>
    rw [hd] at h
    cases h
  | cons c l =>
    rw [hd] at h hsplit hhead
    have hc : c = sep := by simpa using hhead
    simp only [Option.some.injEq, Prod.mk.injEq] at h
    obtain ⟨rfl, rfl⟩ := h
    apply String.toList_inj.mp
    rw [hc] at hsplit
    simpa using hsplit.symm

/-! ## Decimal digits -/

/-- The characters of a decimal number are digits and the minus sign. -/
lemma mem_decimal {z : ℤ} {c : Char} (h : c ∈ (toString z).toList) :
    c.isDigit = true ∨ c = '-' := by
  have hnat : ∀ n : ℕ, c ∈ (Nat.repr n).toList → c.isDigit = true := by
    intro n hn
    rw [Nat.repr, String.toList_ofList] at hn
    exact Nat.isDigit_of_mem_toDigits (by omega) (by omega) hn
  cases z with
  | ofNat n => exact .inl (hnat n h)
  | negSucc n =>
    have h : c ∈ ("-" ++ Nat.repr (n + 1)).toList := h
    rw [String.toList_append, List.mem_append] at h
    rcases h with h | h
    · right
      simpa using h
    · exact .inl (hnat _ h)

/-- The decimal digits of a natural number determine it. -/
lemma decimal_nat_inj {m n : ℕ} (h : Nat.repr m = Nat.repr n) : m = n := by
  have hdigits : Nat.toDigits 10 m = Nat.toDigits 10 n := String.ofList_injective h
  have hvalue := congrArg (Nat.ofDigitChars 10 · 0) hdigits
  simpa [Nat.ofDigitChars_toDigits] using hvalue

/-- **The decimal digits of a number determine it.** -/
lemma decimal_inj {y z : ℤ} (h : toString y = toString z) : y = z := by
  have hsign : ∀ m n : ℕ, Nat.repr m ≠ "-" ++ Nat.repr n := by
    intro m n he
    have hmem : '-' ∈ (Nat.repr m).toList := by
      rw [he, String.toList_append]
      exact List.mem_append_left _ (by simp)
    rw [Nat.repr, String.toList_ofList] at hmem
    exact absurd (Nat.isDigit_of_mem_toDigits (by omega) (by omega) hmem) (by decide)
  cases y with
  | ofNat m =>
    cases z with
    | ofNat n => exact congrArg Int.ofNat (decimal_nat_inj h)
    | negSucc n => exact absurd h (hsign _ _)
  | negSucc m =>
    cases z with
    | ofNat n => exact absurd h.symm (hsign _ _)
    | negSucc n =>
      have h : "-" ++ Nat.repr (m + 1) = "-" ++ Nat.repr (n + 1) := h
      have hdigits : m + 1 = n + 1 := decimal_nat_inj ((String.append_right_inj _).mp h)
      omega

/-! ## UTF-8 -/

/-- The UTF-8 bytes of a text are bytes. -/
lemma utf8_lt {s : String} {b : ℕ} (h : b ∈ utf8 s) : b < 256 := by
  obtain ⟨u, -, rfl⟩ := List.mem_map.mp h
  exact u.toNat_lt

/-- **The UTF-8 bytes of a text determine it.** -/
lemma utf8_injective : Function.Injective utf8 := by
  intro s t h
  have hbytes : s.toList.flatMap String.utf8EncodeChar = t.toList.flatMap String.utf8EncodeChar :=
    (List.map_inj_right fun _ _ => UInt8.toNat_inj.mp).mp h
  have hencode : s.toList.utf8Encode = t.toList.utf8Encode := congrArg List.toByteArray hbytes
  rw [String.utf8Encode_toList, String.utf8Encode_toList] at hencode
  exact String.toByteArray_inj.mp hencode

/-! ## base64url -/

/-- The value of a character in the base64url alphabet or the one of standard base64. -/
def base64Value (c : Char) : Option ℕ :=
  if c = '+' then some 62 else if c = '/' then some 63 else base64urlAlphabet.idxOf? c

/-- The bytes of 6-bit groups: four groups give three bytes, two or three at the end give one or
two, and a single one at the end gives none. -/
def groupBytes : List ℕ → List ℕ
  | a :: b :: c :: d :: l =>
    (a * 4 + b / 16) :: (b % 16 * 16 + c / 4) :: (c % 4 * 64 + d) :: groupBytes l
  | [a, b, c] => [a * 4 + b / 16, b % 16 * 16 + c / 4]
  | [a, b] => [a * 4 + b / 16]
  | _ => []

/-- `Buffer.from(s, "base64url")`: what follows a `=` is not read, and characters of neither
alphabet are skipped. -/
def base64urlBytes (s : String) : List ℕ :=
  groupBytes ((s.toList.takeWhile (· ≠ '=')).filterMap base64Value)

/-- The character of a 6-bit group has its value. -/
lemma base64Value_digit {n : ℕ} (h : n < 64) : base64Value (base64urlDigit n) = some n := by
  have hall : ∀ m : Fin 64, base64Value (base64urlDigit m) = some m.val := by decide +kernel
  exact hall ⟨n, h⟩

/-- The 6-bit groups of bytes. -/
lemma groupBytes_base64url {l : List ℕ} (h : ∀ b ∈ l, b < 256) :
    groupBytes ((base64url l).filterMap base64Value) = l := by
  induction l using base64url.induct with
  | case1 => rfl
  | case2 a =>
    have ha := h a (by simp)
    have h1 := base64Value_digit (n := a / 4) (by omega)
    have h2 := base64Value_digit (n := a % 4 * 16) (by omega)
    simp only [base64url, List.filterMap_cons, List.filterMap_nil, h1, h2, groupBytes,
      List.cons.injEq, and_true]
    omega
  | case3 a b =>
    have ha := h a (by simp)
    have hb := h b (by simp)
    have h1 := base64Value_digit (n := a / 4) (by omega)
    have h2 := base64Value_digit (n := a % 4 * 16 + b / 16) (by omega)
    have h3 := base64Value_digit (n := b % 16 * 4) (by omega)
    simp only [base64url, List.filterMap_cons, List.filterMap_nil, h1, h2, h3, groupBytes,
      List.cons.injEq, and_true]
    omega
  | case4 a b c l ih =>
    have ha := h a (by simp)
    have hb := h b (by simp)
    have hc := h c (by simp)
    have h1 := base64Value_digit (n := a / 4) (by omega)
    have h2 := base64Value_digit (n := a % 4 * 16 + b / 16) (by omega)
    have h3 := base64Value_digit (n := b % 16 * 4 + c / 64) (by omega)
    have h4 := base64Value_digit (n := c % 64) (by omega)
    simp only [base64url, List.filterMap_cons, h1, h2, h3, h4, groupBytes,
      ih fun x hx => h x (by simp [hx]), List.cons.injEq, and_true]
    omega

/-- The 6-bit groups of a text are below 64. -/
lemma base64Value_lt {c : Char} {n : ℕ} (h : base64Value c = some n) : n < 64 := by
  unfold base64Value at h
  split_ifs at h
  · rw [← Option.some.inj h]
    decide
  · rw [← Option.some.inj h]
    decide
  · have hlt := (List.idxOf?_eq_some_iff.mp h).1
    exact hlt

/-- The bytes of 6-bit groups are bytes. -/
lemma groupBytes_lt {l : List ℕ} (h : ∀ a ∈ l, a < 64) : ∀ b ∈ groupBytes l, b < 256 := by
  induction l using groupBytes.induct with
  | case1 a b c d l ih =>
    have ha := h a (by simp)
    have hb := h b (by simp)
    have hc := h c (by simp)
    have hd := h d (by simp)
    intro x hx
    simp only [groupBytes, List.mem_cons] at hx
    rcases hx with rfl | rfl | rfl | hx
    · omega
    · omega
    · omega
    · exact ih (fun y hy => h y (by simp [hy])) x hx
  | case2 a b c =>
    have ha := h a (by simp)
    have hb := h b (by simp)
    have hc := h c (by simp)
    intro x hx
    simp only [groupBytes, List.mem_cons, List.not_mem_nil, or_false] at hx
    omega
  | case3 a b =>
    have ha := h a (by simp)
    have hb := h b (by simp)
    intro x hx
    simp only [groupBytes, List.mem_cons, List.not_mem_nil, or_false] at hx
    omega
  | case4 l h1 h2 h3 =>
    intro x hx
    rw [groupBytes] at hx
    · cases hx
    all_goals assumption

/-- **Decoding an encoding gives the bytes back.** -/
lemma base64urlBytes_base64url {l : List ℕ} (h : ∀ b ∈ l, b < 256) :
    base64urlBytes (String.ofList (base64url l)) = l := by
  have hpadding : ∀ c ∈ base64url l, decide (c ≠ '=') = true := fun c hc =>
    decide_eq_true fun he => absurd (he ▸ mem_base64url hc) (by decide)
  rw [base64urlBytes, String.toList_ofList, List.takeWhile_eq_self_iff.mpr hpadding,
    groupBytes_base64url h]

lemma base64urlBytes_base64urlText (s : String) : base64urlBytes (base64urlText s) = utf8 s :=
  base64urlBytes_base64url fun _ => utf8_lt

/-- **The encoding of a text determines it.** -/
lemma base64urlText_injective : Function.Injective base64urlText := by
  intro s t h
  have hbytes := congrArg base64urlBytes h
  rw [base64urlBytes_base64urlText, base64urlBytes_base64urlText] at hbytes
  exact utf8_injective hbytes

/-- A character that is not in the alphabet is in no encoding. -/
lemma notMem_base64urlText {c : Char} (hc : c ∉ base64urlAlphabet) (s : String) :
    c ∉ (base64urlText s).toList := by
  intro h
  rw [base64urlText, String.toList_ofList] at h
  exact hc (mem_base64url h)

/-! ## The text of bytes -/

/-- A text whose first byte is below 128 starts with the character of that byte. -/
lemma utf8_ascii {t : String} {b : ℕ} {l : List ℕ} (h : utf8 t = b :: l) (hb : b < 128) :
    ∃ cs, t = String.ofList (Char.ofNat b :: cs) := by
  cases ht : t.toList with
  | nil => simp [utf8, ht] at h
  | cons c cs =>
    have hhead : (utf8 t).head? = some b := by rw [h]; rfl
    have hval : c.val.toNat = b := by
      rw [utf8, ht, List.flatMap_cons, List.map_append] at hhead
      unfold String.utf8EncodeChar at hhead
      dsimp only at hhead
      split_ifs at hhead
      all_goals
        simp only [List.map_cons, List.cons_append, List.head?_cons, Option.some.injEq,
          UInt8.toNat_ofNat'] at hhead
        omega
    refine ⟨cs, String.toList_inj.mp ?_⟩
    rw [ht, String.toList_ofList, ← hval]
    exact congrArg (· :: cs) (Char.ofNat_toNat c).symm

/-- The text of bytes: the one they encode, or one with a replacement for every byte that is no
ASCII character. -/
def lossyText (l : List ℕ) : String :=
  (String.fromUTF8? (l.map UInt8.ofNat).toByteArray).getD
    (String.ofList (l.map fun b => if b < 128 then Char.ofNat b else Char.ofNat 0xFFFD))

lemma fromUTF8?_eq_some {a : ByteArray} {t : String} :
    String.fromUTF8? a = some t ↔ t.toByteArray = a := by
  unfold String.fromUTF8?
  constructor
  · intro h
    split_ifs at h with hv
    rw [← Option.some.inj h]
    rfl
  · rintro rfl
    rw [dif_pos t.isValidUTF8]
    rfl

lemma utf8_bytes (t : String) : ((utf8 t).map UInt8.ofNat).toByteArray = t.toByteArray := by
  have hid : UInt8.ofNat ∘ UInt8.toNat = id := by
    funext u
    simp
  rw [utf8, List.map_map, hid, List.map_id, ← String.utf8Encode_toList]
  rfl

/-- **Decoding the bytes of a text gives the text back.** -/
lemma lossyText_utf8 (t : String) : lossyText (utf8 t) = t := by
  have hvalid : String.fromUTF8? ((utf8 t).map UInt8.ofNat).toByteArray = some t :=
    fromUTF8?_eq_some.mpr (utf8_bytes t).symm
  rw [lossyText, hvalid]
  rfl

/-- A byte below 128 at the start is decoded to its character, whatever follows. -/
lemma lossyText_ascii {b : ℕ} {l : List ℕ} (hl : ∀ c ∈ b :: l, c < 256) (hb : b < 128) :
    ∃ t, lossyText (b :: l) = String.ofList (Char.ofNat b :: t) := by
  unfold lossyText
  cases h : String.fromUTF8? ((b :: l).map UInt8.ofNat).toByteArray with
  | none =>
    rw [Option.getD_none, List.map_cons, if_pos hb]
    exact ⟨_, rfl⟩
  | some t =>
    have hbytes : (utf8 t).map UInt8.ofNat = (b :: l).map UInt8.ofNat := by
      have ht := fromUTF8?_eq_some.mp h
      rw [← utf8_bytes t] at ht
      exact List.toByteArray_inj.mp ht
    have hid : ∀ m : List ℕ, (∀ c ∈ m, c < 256) → (m.map UInt8.ofNat).map UInt8.toNat = m := by
      intro m hm
      rw [List.map_map]
      refine (List.map_congr_left fun c hc => ?_).trans (List.map_id m)
      simpa using hm c hc
    have hnat := congrArg (List.map UInt8.toNat) hbytes
    rw [hid _ fun _ => utf8_lt, hid _ hl] at hnat
    exact utf8_ascii hnat hb

end Js
