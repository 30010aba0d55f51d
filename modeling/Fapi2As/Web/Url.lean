import Fapi2As.Js.Text
import Mathlib

set_option relaxedAutoImplicit false
set_option autoImplicit false

/-!
# Addresses of a host

The parser of absolute URLs with a host, for the schemes whose origin is made of the scheme, the
host and the port, and texts without a query or a fragment. White space is dropped, the scheme is
lower-cased, any number of slashes may follow it, credentials are skipped, the host goes through a
parser of its own, the port is a number that is left out when it is the scheme's own, and the path
is percent-encoded and its dot segments are resolved. Host parsing, and which characters are encoded
in a path, are parameters.

A canonical text is one that is put together from parts that the parser leaves as they are.

## Main definitions

* `Web.Rules` — host parsing and the characters that are encoded.
* `Web.Parts`, `Web.parse` — the parts of a URL, and the parser.
* `Web.CanonicalText` — the texts that the parser leaves as they are.

## Main results

* `Web.parse_text` — the parser takes a text apart as it was put together.
* `Web.Parts.Canonical.parse` — the parts of a canonical text.
* `Web.canonical_iff` — a text is canonical exactly when it is its origin and its path.
-/

namespace Web

/-! ## Characters -/

/-- A slash or a backslash, which are the same after a scheme with a host. -/
def isSlash (c : Char) : Bool := c = '/' || c = '\x5c'

/-- A control character or a space. -/
def isBlank (c : Char) : Bool := c.toNat ≤ 0x20

/-- A tab or a line break. -/
def isTabOrNewline (c : Char) : Bool := c = '\t' || c = '\n' || c = '\x0d'

/-- A character of a scheme. -/
def isSchemeChar (c : Char) : Bool := c.isAlphanum || c = '+' || c = '-' || c = '.'

/-- A character that no host name has. -/
def isForbidden (c : Char) : Bool :=
  isBlank c || c = '\x7f' || "#/:<>?@[\x5c]^|%".toList.contains c

/-- A host as it is written: a name, or an address in brackets. -/
def HostText (h : List Char) : Prop :=
  h ≠ [] ∧ ((∀ c ∈ h, isForbidden c = false) ∨
    ∃ m, h = '[' :: m ++ [']'] ∧ ∀ c ∈ m, c.isAlphanum ∨ c = ':' ∨ c = '.')

/-- **What a URL parser is built on**: the host parser, whose results are hosts as they are written,
and the characters that are percent-encoded in a path. -/
structure Rules where
  parseHost : List Char → Option (List Char)
  encodes : Char → Bool
  parseHost_text : ∀ h h', parseHost h = some h' → HostText h'
  encodes_blank : ∀ c, isBlank c = true → encodes c = true
  encodes_alphanum : ∀ c, c.isAlphanum = true → encodes c = false
  encodes_percent : encodes '%' = false

/-! ## The parser -/

/-- Blanks around a text are dropped, and tabs and line breaks in it. -/
def clean (s : List Char) : List Char :=
  ((s.dropWhile isBlank).reverse.dropWhile isBlank).reverse.filter fun c => !isTabOrNewline c

/-- The scheme of a text, in lower case, and what comes after the colon. -/
def cutScheme (s : List Char) : Option (List Char × List Char) :=
  match s.span isSchemeChar with
  | (c :: name, ':' :: rest) =>
    if c.isAlpha then some ((c :: name).map Char.toLower, rest) else none
  | _ => none

/-- The port of a scheme, for the schemes that this parser is about. -/
def defaultPort (scheme : List Char) : Option ℕ :=
  if scheme = "http".toList then some 80
  else if scheme = "https".toList then some 443
  else if scheme = "ws".toList then some 80
  else if scheme = "wss".toList then some 443
  else if scheme = "ftp".toList then some 21
  else none

/-- What comes after the last `@`. -/
def afterAt (authority : List Char) : List Char :=
  (authority.reverse.takeWhile (· ≠ '@')).reverse

/-- A host and its port, cut at the first colon outside brackets. -/
def cutPort (brackets : Bool) : List Char → List Char × Option (List Char)
  | [] => ([], none)
  | c :: l =>
    if c = ':' ∧ brackets = false then ([], some l)
    else
      let r := cutPort (if c = '[' then true else if c = ']' then false else brackets) l
      (c :: r.1, r.2)

/-- The number of a port, which is left out when it is the port of the scheme. -/
def parsePort (scheme : List Char) : Option (List Char) → Option (Option ℕ)
  | none => some none
  | some digits =>
    if digits = [] then some none
    else
      let n := Nat.ofDigitChars 10 digits 0
      if digits.all Char.isDigit ∧ n ≤ 65535 then
        some (if defaultPort scheme = some n then none else some n)
      else none

/-- `.` or `%2e`. -/
def isSingleDot (s : List Char) : Bool :=
  s.map Char.toLower = ".".toList || s.map Char.toLower = "%2e".toList

/-- `..`, where each of the dots may be `%2e`. -/
def isDoubleDot (s : List Char) : Bool :=
  s.map Char.toLower = "..".toList || s.map Char.toLower = ".%2e".toList ||
    s.map Char.toLower = "%2e.".toList || s.map Char.toLower = "%2e%2e".toList

/-- **Dot segments are resolved**, after the segments that stand already. -/
def resolve (past : List (List Char)) : List (List Char) → List (List Char)
  | [] => past
  | [s] =>
    if isDoubleDot s then past.dropLast ++ [[]]
    else if isSingleDot s then past ++ [[]]
    else past ++ [s]
  | s :: s' :: l =>
    if isDoubleDot s then resolve past.dropLast (s' :: l)
    else if isSingleDot s then resolve past (s' :: l)
    else resolve (past ++ [s]) (s' :: l)

/-- The percent-encoding of a text. -/
def Rules.encode (R : Rules) (s : List Char) : List Char :=
  s.flatMap fun c =>
    if R.encodes c then (String.utf8EncodeChar c).flatMap fun b =>
      ['%', Js.hexDigit (b.toNat / 16), Js.hexDigit (b.toNat % 16)]
    else [c]

/-- The segments of a path. -/
def Rules.pathSegments (R : Rules) (path : List Char) : List (List Char) :=
  resolve [] (((path.drop 1).splitOnP isSlash).map R.encode)

/-- The parts of a URL. -/
structure Parts where
  scheme : List Char
  host : List Char
  port : Option ℕ
  segments : List (List Char)
  deriving DecidableEq

/-- A port after its host. -/
def portText : Option ℕ → List Char
  | none => []
  | some n => ':' :: Nat.toDigits 10 n

namespace Parts

variable (p : Parts)

/-- The host with its port. -/
def hostPort : List Char := p.host ++ portText p.port

/-- The scheme, the host and the port. -/
def origin : List Char := p.scheme ++ "://".toList ++ p.hostPort

/-- The path. -/
def pathname : List Char := p.segments.flatMap ('/' :: ·)

/-- The text of a URL. -/
def text : List Char := p.origin ++ p.pathname

end Parts

/-- **The parser**, for a text without a query or a fragment. -/
def parse (R : Rules) (s : List Char) : Option Parts := do
  let (scheme, rest) ← cutScheme (clean s)
  let (authority, path) := (rest.dropWhile isSlash).span fun c => !isSlash c
  let (name, digits) := cutPort false (afterAt authority)
  guard (name ≠ [])
  let host ← R.parseHost name
  let port ← parsePort scheme digits
  return ⟨scheme, host, port, R.pathSegments path⟩

/-! ## Canonical texts -/

/-- A segment that the parser leaves as it is. -/
structure Rules.Plain (R : Rules) (s : List Char) : Prop where
  not_dot : isSingleDot s = false ∧ isDoubleDot s = false
  chars : ∀ c ∈ s, isSlash c = false ∧ R.encodes c = false

/-- **Parts that the parser leaves as they are**: the scheme in lower case, a host that the host
parser keeps, no port that is the scheme's own, and plain segments. -/
structure Parts.Canonical (R : Rules) (p : Parts) : Prop where
  scheme : (defaultPort p.scheme).isSome
  host : R.parseHost p.host = some p.host
  port : ∀ n ∈ p.port, n ≤ 65535 ∧ defaultPort p.scheme ≠ some n
  segments : ∀ s ∈ p.segments, R.Plain s

/-- **A canonical text**: a lower-case scheme, `://`, a host that the host parser keeps, a port that
is not the scheme's own, and plain segments, each after a slash. There is no place for credentials,
backslashes, dot segments or blanks in it. -/
def CanonicalText (R : Rules) (s : List Char) : Prop := ∃ p : Parts, p.Canonical R ∧ s = p.text

/-! ## Pieces of a text -/

/-- A text of alphanumeric characters has no blank, no slash and no `@`. -/
lemma alphanum_facts {c : Char} (h : c.isAlphanum = true) :
    isBlank c = false ∧ isSlash c = false ∧ c ≠ '@' ∧ c ≠ ':' ∧ c ≠ '[' ∧ c ≠ ']' := by
  have hblank : isBlank c = false := by
    simp only [Char.isAlphanum, Char.isAlpha, Char.isUpper, Char.isLower, Char.isDigit,
      Bool.or_eq_true, Bool.and_eq_true, decide_eq_true_eq, UInt32.le_iff_toNat_le, ge_iff_le] at h
    change ((65 ≤ c.toNat ∧ c.toNat ≤ 90) ∨ (97 ≤ c.toNat ∧ c.toNat ≤ 122)) ∨
      (48 ≤ c.toNat ∧ c.toNat ≤ 57) at h
    simp only [isBlank, decide_eq_false_iff_not]
    omega
  refine ⟨hblank, ?_, ?_, ?_, ?_, ?_⟩
  · by_contra hs
    simp only [isSlash, Bool.not_eq_false, Bool.or_eq_true, decide_eq_true_eq] at hs
    rcases hs with rfl | rfl <;> exact absurd h (by decide)
  all_goals
    rintro rfl
    exact absurd h (by decide)

/-- No blank is dropped where none stands first. -/
lemma dropWhile_isBlank {l m : List Char} (h : ∀ c ∈ l, isBlank c = false) (hne : l ≠ []) :
    (l ++ m).dropWhile isBlank = l ++ m := by
  cases l with
  | nil => exact absurd rfl hne
  | cons c l => rw [List.cons_append, List.dropWhile_cons_of_neg (by simp [h c List.mem_cons_self])]

/-- Tabs and line breaks are blanks. -/
lemma filter_isTabOrNewline {s : List Char} (h : ∀ c ∈ s, isBlank c = false) :
    s.filter (fun c => !isTabOrNewline c) = s := by
  apply List.filter_eq_self.mpr
  intro c hc
  have hblank := h c hc
  simp only [isTabOrNewline, Bool.not_eq_true', Bool.or_eq_false_iff, decide_eq_false_iff_not]
  refine ⟨⟨?_, ?_⟩, ?_⟩ <;> rintro rfl <;> exact absurd hblank (by decide)

/-- Nothing is dropped from a text that starts without blanks before the first of them. -/
lemma clean_append {a t : List Char} (h : ∀ c ∈ a, isBlank c = false) (hne : a ≠ []) :
    ∃ t', clean (a ++ t) = a ++ t' := by
  have hrev : ∀ c ∈ a.reverse, isBlank c = false := fun c hc => h c (List.mem_reverse.mp hc)
  have hback : (t.reverse ++ a.reverse).dropWhile isBlank =
      t.reverse.dropWhile isBlank ++ a.reverse := by
    have hkeep := dropWhile_isBlank (m := []) hrev (by simpa using hne)
    rw [List.append_nil] at hkeep
    rw [List.dropWhile_append]
    split_ifs with hempty
    · rw [hkeep, List.isEmpty_iff.mp hempty, List.nil_append]
    · rfl
  refine ⟨((t.reverse.dropWhile isBlank).reverse).filter fun c => !isTabOrNewline c, ?_⟩
  rw [clean, dropWhile_isBlank h hne, List.reverse_append, hback, List.reverse_append,
    List.reverse_reverse, List.filter_append, filter_isTabOrNewline h]

/-- Nothing is dropped from a text without blanks. -/
lemma clean_eq_self {s : List Char} (h : ∀ c ∈ s, isBlank c = false) : clean s = s := by
  by_cases hs : s = []
  · rw [hs]
    rfl
  · have hrev : ∀ c ∈ s.reverse, isBlank c = false := fun c hc => h c (List.mem_reverse.mp hc)
    have hfront := dropWhile_isBlank (m := []) h hs
    have hback := dropWhile_isBlank (m := []) hrev (by simpa using hs)
    rw [List.append_nil] at hfront hback
    rw [clean, hfront, hback, List.reverse_reverse, filter_isTabOrNewline h]

/-- The scheme of a text that starts with one, in lower case. -/
lemma cutScheme_of_port {scheme rest : List Char} (h : (defaultPort scheme).isSome) :
    cutScheme (scheme ++ ':' :: rest) = some (scheme, rest) := by
  have hspan : ∀ (c : Char) (name : List Char), ((c :: name).all isSchemeChar = true) →
      c.isAlpha = true → (c :: name).map Char.toLower = c :: name →
      cutScheme (c :: name ++ ':' :: rest) = some (c :: name, rest) := by
    intro c name hall hc hlower
    have hname : ∀ d ∈ c :: name, isSchemeChar d = true := List.all_eq_true.mp hall
    have hcut : (c :: name ++ ':' :: rest).span isSchemeChar = (c :: name, ':' :: rest) := by
      rw [List.span_eq_takeWhile_dropWhile, List.takeWhile_append_of_pos hname,
        List.dropWhile_append_of_pos hname]
      have hcolon : isSchemeChar ':' = false := by decide
      simp [hcolon]
    unfold cutScheme
    rw [hcut]
    simp only [hc, if_true, hlower]
  unfold defaultPort at h
  split_ifs at h with h1 h2 h3 h4 h5
  · subst h1
    exact hspan 'h' ['t', 't', 'p'] (by decide) (by decide) (by decide)
  · subst h2
    exact hspan 'h' ['t', 't', 'p', 's'] (by decide) (by decide) (by decide)
  · subst h3
    exact hspan 'w' ['s'] (by decide) (by decide) (by decide)
  · subst h4
    exact hspan 'w' ['s', 's'] (by decide) (by decide) (by decide)
  · subst h5
    exact hspan 'f' ['t', 'p'] (by decide) (by decide) (by decide)
  · cases h

/-- The schemes have no blank. -/
lemma not_blank_of_port {scheme : List Char} (h : (defaultPort scheme).isSome) :
    ∀ c ∈ scheme, isBlank c = false := by
  have hall : scheme.all (fun c => !isBlank c) = true := by
    unfold defaultPort at h
    split_ifs at h with h1 h2 h3 h4 h5
    · subst h1; decide
    · subst h2; decide
    · subst h3; decide
    · subst h4; decide
    · subst h5; decide
    · cases h
  exact fun c hc => by simpa using List.all_eq_true.mp hall c hc

/-- A host has no blank, no slash and no `@`. -/
lemma HostText.chars {h : List Char} (hh : HostText h) :
    ∀ c ∈ h, isBlank c = false ∧ isSlash c = false ∧ c ≠ '@' := by
  obtain ⟨-, hplain | ⟨m, rfl, hm⟩⟩ := hh
  · intro c hc
    have hforbidden := hplain c hc
    simp only [isForbidden, Bool.or_eq_false_iff] at hforbidden
    refine ⟨hforbidden.1.1, ?_, ?_⟩
    · by_contra hs
      simp only [isSlash, Bool.not_eq_false, Bool.or_eq_true, decide_eq_true_eq] at hs
      rcases hs with rfl | rfl <;> exact absurd hforbidden.2 (by decide)
    · rintro rfl
      exact absurd hforbidden.2 (by decide)
  · intro c hc
    simp only [List.cons_append, List.mem_cons, List.mem_append, List.not_mem_nil, or_false] at hc
    rcases hc with rfl | hc | rfl
    · decide
    · rcases hm c hc with halnum | rfl | rfl
      · have hfacts := alphanum_facts halnum
        exact ⟨hfacts.1, hfacts.2.1, hfacts.2.2.1⟩
      · decide
      · decide
    · decide

/-- Characters before the first colon and outside brackets belong to the host. -/
lemma cutPort_append {h t : List Char} (hh : ∀ c ∈ h, c ≠ ':' ∧ c ≠ '[' ∧ c ≠ ']') :
    cutPort false (h ++ t) = (h ++ (cutPort false t).1, (cutPort false t).2) := by
  induction h with
  | nil => rfl
  | cons c h ih =>
    obtain ⟨hcolon, hopen, hclose⟩ := hh c List.mem_cons_self
    have hrest := ih fun d hd => hh d (List.mem_cons_of_mem _ hd)
    rw [List.cons_append, cutPort, if_neg fun hc => hcolon hc.1, if_neg hopen, if_neg hclose, hrest]
    rfl

/-- Characters in brackets belong to the host. -/
lemma cutPort_brackets {m t : List Char} (hm : ∀ c ∈ m, c ≠ '[' ∧ c ≠ ']') :
    cutPort true (m ++ ']' :: t) = (m ++ ']' :: (cutPort false t).1, (cutPort false t).2) := by
  induction m with
  | nil => simp [cutPort]
  | cons c m ih =>
    obtain ⟨hopen, hclose⟩ := hm c List.mem_cons_self
    have hrest := ih fun d hd => hm d (List.mem_cons_of_mem _ hd)
    rw [List.cons_append, cutPort, if_neg (by simp), if_neg hopen, if_neg hclose, hrest]
    rfl

/-- **A host is cut off before its port.** -/
lemma HostText.cutPort {h : List Char} (hh : HostText h) (t : List Char) :
    cutPort false (h ++ t) = (h ++ (cutPort false t).1, (cutPort false t).2) := by
  obtain ⟨-, hplain | ⟨m, rfl, hm⟩⟩ := hh
  · apply cutPort_append
    intro c hc
    have hforbidden := hplain c hc
    refine ⟨?_, ?_, ?_⟩ <;> rintro rfl <;> exact absurd hforbidden (by decide)
  · have hm' : ∀ c ∈ m, c ≠ '[' ∧ c ≠ ']' := by
      intro c hc
      rcases hm c hc with halnum | rfl | rfl
      · exact (alphanum_facts halnum).2.2.2.2
      · decide
      · decide
    rw [List.append_assoc, List.cons_append, Web.cutPort, if_neg (by decide), if_pos rfl]
    have hrest := cutPort_brackets (t := t) hm'
    simp only [List.cons_append, List.nil_append] at hrest ⊢
    rw [hrest]
    simp

/-- The number of a port. -/
lemma cutPort_portText (port : Option ℕ) :
    cutPort false (portText port) = ([], port.map (Nat.toDigits 10)) := by
  cases port with
  | none => rfl
  | some n => rfl

/-- **The port of a text** is the one it was written with. -/
lemma parsePort_portText {scheme : List Char} {port : Option ℕ}
    (h : ∀ n ∈ port, n ≤ 65535 ∧ defaultPort scheme ≠ some n) :
    parsePort scheme (port.map (Nat.toDigits 10)) = some port := by
  cases port with
  | none => rfl
  | some n =>
    obtain ⟨hle, hne⟩ := h n rfl
    have hdigits : (Nat.toDigits 10 n).all Char.isDigit = true := by
      rw [List.all_eq_true]
      exact fun c hc => Nat.isDigit_of_mem_toDigits (by decide) (by decide) hc
    simp only [Option.map_some, parsePort, if_neg Nat.toDigits_ne_nil,
      Nat.ofDigitChars_ten_toDigits, hdigits, hle, and_self, if_true, if_neg hne]

/-- A port that is read is a port, and not the scheme's own. -/
lemma port_of_parsePort {scheme : List Char} {digits : Option (List Char)} {n : ℕ}
    (h : parsePort scheme digits = some (some n)) : n ≤ 65535 ∧ defaultPort scheme ≠ some n := by
  cases digits with
  | none => cases Option.some.inj h
  | some digits =>
    simp only [parsePort] at h
    split_ifs at h with hempty hdigits hdefault
    · cases Option.some.inj h
    · cases Option.some.inj h
    · obtain rfl := Option.some.inj (Option.some.inj h)
      exact ⟨hdigits.2, hdefault⟩

/-- A port has no blank, no slash and no `@`. -/
lemma portText_chars {port : Option ℕ} :
    ∀ c ∈ portText port, isBlank c = false ∧ isSlash c = false ∧ c ≠ '@' := by
  cases port with
  | none => nofun
  | some n =>
    intro c hc
    rcases List.mem_cons.mp hc with rfl | hc
    · decide
    · have hdigit : c.isDigit = true := Nat.isDigit_of_mem_toDigits (by decide) (by decide) hc
      have hfacts := alphanum_facts (c := c) (by simp [Char.isAlphanum, hdigit])
      exact ⟨hfacts.1, hfacts.2.1, hfacts.2.2.1⟩

/-- What comes after the last `@` of a text without one is the text. -/
lemma afterAt_eq_self {s : List Char} (h : ∀ c ∈ s, c ≠ '@') : afterAt s = s := by
  have hall : ∀ c ∈ s.reverse, decide (c ≠ '@') = true := fun c hc => by
    simpa using h c (List.mem_reverse.mp hc)
  have htake : (s.reverse ++ []).takeWhile (fun c => decide (c ≠ '@')) = _ :=
    List.takeWhile_append_of_pos hall
  rw [List.append_nil, List.takeWhile_nil, List.append_nil] at htake
  rw [afterAt, htake, List.reverse_reverse]

/-- A text whose first colon comes after a slash has no scheme. -/
lemma cutScheme_null {t : List Char} (h : t = [] ∨ ∃ t', t = '/' :: t') :
    cutScheme (clean ("null".toList ++ t)) = none := by
  rcases h with rfl | ⟨t, rfl⟩
  · decide
  · have hblank : "null/".toList.all (fun c => !isBlank c) = true := by decide
    obtain ⟨t', ht⟩ := clean_append (a := "null/".toList) (t := t)
      (fun c hc => by simpa using List.all_eq_true.mp hblank c hc) (by decide)
    have hassoc : "null".toList ++ '/' :: t = "null/".toList ++ t := rfl
    rw [hassoc, ht]
    have hspan : ("null/".toList ++ t').span isSchemeChar = ("null".toList, '/' :: t') := by
      have hslash : isSchemeChar '/' = false := by decide
      have hnull : ∀ c ∈ "null".toList, isSchemeChar c = true := List.all_eq_true.mp (by decide)
      have happ : "null/".toList ++ t' = "null".toList ++ '/' :: t' := rfl
      rw [happ, List.span_eq_takeWhile_dropWhile, List.takeWhile_append_of_pos hnull,
        List.dropWhile_append_of_pos hnull]
      simp [hslash]
    unfold cutScheme
    rw [hspan]
    rfl

/-! ## Paths -/

/-- Segments without slashes are the segments of their path. -/
lemma splitOnP_segments {segments : List (List Char)}
    (h : ∀ s ∈ segments, ∀ c ∈ s, isSlash c = false) :
    ((segments.flatMap ('/' :: ·)).drop 1).splitOnP isSlash =
      if segments = [] then [[]] else segments := by
  cases segments with
  | nil => rfl
  | cons s segments =>
    rw [if_neg (List.cons_ne_nil _ _), List.flatMap_cons, List.cons_append, List.drop_succ_cons,
      List.drop_zero]
    induction segments generalizing s with
    | nil =>
      rw [List.flatMap_nil, List.append_nil]
      exact List.splitOnP_eq_singleton (h s List.mem_cons_self)
    | cons s' segments ih =>
      rw [List.flatMap_cons, List.cons_append, List.splitOnP_append_cons_of_forall_mem
        (h s List.mem_cons_self) '/' (by decide)]
      exact congrArg (s :: ·) (ih s' fun t ht => h t (List.mem_cons_of_mem _ ht))

/-- The parts that a text is split into have no separator. -/
lemma not_mem_splitOnP {q : Char → Bool} {l s : List Char} (hs : s ∈ l.splitOnP q) :
    ∀ c ∈ s, q c = false := by
  induction l generalizing s with
  | nil =>
    obtain rfl : s = [] := by simpa using hs
    nofun
  | cons d l ih =>
    rw [List.splitOnP_cons_eq_if_modifyHead] at hs
    split_ifs at hs with hd
    · rcases List.mem_cons.mp hs with rfl | hs
      · nofun
      · exact ih hs
    · cases hl : l.splitOnP q with
      | nil => exact absurd hl (List.splitOnP_ne_nil _ _)
      | cons t ts =>
        rw [hl] at hs ih
        rcases List.mem_cons.mp hs with rfl | hs
        · intro c hc
          rcases List.mem_cons.mp hc with rfl | hc
          · simpa using hd
          · exact ih List.mem_cons_self c hc
        · exact ih (List.mem_cons_of_mem _ hs)

/-- Dot segments and nothing else are resolved away. -/
lemma mem_resolve {past l : List (List Char)} {s : List Char} (h : s ∈ resolve past l) :
    s ∈ past ∨ s = [] ∨ s ∈ l ∧ isSingleDot s = false ∧ isDoubleDot s = false := by
  induction past, l using resolve.induct with
  | case1 past => exact .inl h
  | case2 past s' hd =>
    rw [resolve, if_pos hd] at h
    rcases List.mem_append.mp h with h | h
    · exact .inl (List.dropLast_subset _ h)
    · exact .inr (.inl (List.mem_singleton.mp h))
  | case3 past s' hd hs =>
    rw [resolve, if_neg hd, if_pos hs] at h
    rcases List.mem_append.mp h with h | h
    · exact .inl h
    · exact .inr (.inl (List.mem_singleton.mp h))
  | case4 past s' hd hs =>
    rw [resolve, if_neg hd, if_neg hs] at h
    rcases List.mem_append.mp h with h | h
    · exact .inl h
    · obtain rfl := List.mem_singleton.mp h
      exact .inr (.inr ⟨List.mem_cons_self, by simpa using hs, by simpa using hd⟩)
  | case5 past s' s'' l hd ih =>
    rw [resolve, if_pos hd] at h
    rcases ih h with h | h | h
    · exact .inl (List.dropLast_subset _ h)
    · exact .inr (.inl h)
    · exact .inr (.inr ⟨List.mem_cons_of_mem _ h.1, h.2⟩)
  | case6 past s' s'' l hd hs ih =>
    rw [resolve, if_neg hd, if_pos hs] at h
    rcases ih h with h | h | h
    · exact .inl h
    · exact .inr (.inl h)
    · exact .inr (.inr ⟨List.mem_cons_of_mem _ h.1, h.2⟩)
  | case7 past s' s'' l hd hs ih =>
    rw [resolve, if_neg hd, if_neg hs] at h
    rcases ih h with h | h | h
    · rcases List.mem_append.mp h with h | h
      · exact .inl h
      · obtain rfl := List.mem_singleton.mp h
        exact .inr (.inr ⟨List.mem_cons_self, by simpa using hs, by simpa using hd⟩)
    · exact .inr (.inl h)
    · exact .inr (.inr ⟨List.mem_cons_of_mem _ h.1, h.2⟩)

/-- A path is never without a segment. -/
lemma resolve_ne_nil {past l : List (List Char)} (h : l ≠ []) : resolve past l ≠ [] := by
  induction past, l using resolve.induct with
  | case1 past => exact absurd rfl h
  | case2 past s' hd => simp [resolve, hd]
  | case3 past s' hd hs => simp [resolve, hd, hs]
  | case4 past s' hd hs => simp [resolve, hd, hs]
  | case5 past s' s'' l hd ih =>
    rw [resolve, if_pos hd]
    exact ih (List.cons_ne_nil _ _)
  | case6 past s' s'' l hd hs ih =>
    rw [resolve, if_neg hd, if_pos hs]
    exact ih (List.cons_ne_nil _ _)
  | case7 past s' s'' l hd hs ih =>
    rw [resolve, if_neg hd, if_neg hs]
    exact ih (List.cons_ne_nil _ _)

/-- A path without dot segments stays as it is. -/
lemma resolve_eq_append {past l : List (List Char)}
    (h : ∀ s ∈ l, isSingleDot s = false ∧ isDoubleDot s = false) : resolve past l = past ++ l := by
  induction l generalizing past with
  | nil => simp [resolve]
  | cons s l ih =>
    obtain ⟨hs, hd⟩ := h s List.mem_cons_self
    cases l with
    | nil => simp [resolve, hs, hd]
    | cons s' l =>
      rw [resolve, if_neg (by simp [hd]), if_neg (by simp [hs]),
        ih fun t ht => h t (List.mem_cons_of_mem _ ht), List.append_assoc]
      rfl

namespace Rules

variable {R : Rules}

/-- Characters that are not encoded stay as they are. -/
lemma encode_eq_self {s : List Char} (h : ∀ c ∈ s, R.encodes c = false) : R.encode s = s := by
  induction s with
  | nil => rfl
  | cons c s ih =>
    rw [encode, List.flatMap_cons, if_neg (by simp [h c List.mem_cons_self])]
    exact congrArg (c :: ·) (ih fun d hd => h d (List.mem_cons_of_mem _ hd))

/-- A hexadecimal digit is a letter or a digit. -/
lemma isAlphanum_hexDigit (n : ℕ) : (Js.hexDigit n).isAlphanum = true := by
  have hall : ∀ c ∈ "0123456789ABCDEF".toList, c.isAlphanum = true :=
    List.all_eq_true.mp (by decide)
  unfold Js.hexDigit
  rw [List.getD_eq_getElem?_getD]
  cases h : "0123456789ABCDEF".toList[n]? with
  | none => decide
  | some c => exact hall c (List.mem_of_getElem? h)

/-- **An encoding is made of characters that are not encoded**, and of no slash. -/
lemma encode_chars {s : List Char} (h : ∀ c ∈ s, isSlash c = false) :
    ∀ c ∈ R.encode s, isSlash c = false ∧ R.encodes c = false := by
  intro c hc
  obtain ⟨d, hd, hc⟩ := List.mem_flatMap.mp hc
  split_ifs at hc with he
  · obtain ⟨b, -, hc⟩ := List.mem_flatMap.mp hc
    have hhex : ∀ n, isSlash (Js.hexDigit n) = false ∧ R.encodes (Js.hexDigit n) = false :=
      fun n => ⟨(alphanum_facts (isAlphanum_hexDigit n)).2.1,
        R.encodes_alphanum _ (isAlphanum_hexDigit n)⟩
    simp only [List.mem_cons, List.not_mem_nil, or_false] at hc
    rcases hc with rfl | rfl | rfl
    · exact ⟨by decide, R.encodes_percent⟩
    · exact hhex _
    · exact hhex _
  · obtain rfl := List.mem_singleton.mp hc
    exact ⟨h c hd, by simpa using he⟩

lemma plain_nil : R.Plain [] := ⟨by decide, nofun⟩

/-- **The segments of a path are plain.** -/
lemma pathSegments_plain {path s : List Char} (hs : s ∈ R.pathSegments path) : R.Plain s := by
  rcases mem_resolve hs with hs | rfl | ⟨hs, hdot⟩
  · cases hs
  · exact plain_nil
  · obtain ⟨t, ht, rfl⟩ := List.mem_map.mp hs
    exact ⟨hdot, encode_chars (not_mem_splitOnP ht)⟩

lemma pathSegments_ne_nil (path : List Char) : R.pathSegments path ≠ [] :=
  resolve_ne_nil (by simp)

/-- **The path of plain segments** has these segments. -/
lemma pathSegments_plain_text {segments : List (List Char)} (h : ∀ s ∈ segments, R.Plain s) :
    R.pathSegments (segments.flatMap ('/' :: ·)) = if segments = [] then [[]] else segments := by
  have hplain : ∀ s ∈ (if segments = [] then [[]] else segments), R.Plain s := by
    intro s hs
    split_ifs at hs with hnil
    · obtain rfl := List.mem_singleton.mp hs
      exact plain_nil
    · exact h s hs
  unfold pathSegments
  rw [splitOnP_segments fun s hs c hc => ((h s hs).chars c hc).1]
  have hmap : ∀ {l : List (List Char)}, (∀ s ∈ l, R.Plain s) → l.map R.encode = l := by
    intro l hl
    calc l.map R.encode = l.map id :=
          List.map_congr_left fun s hs => encode_eq_self fun c hc => ((hl s hs).chars c hc).2
      _ = l := List.map_id l
  rw [hmap hplain, resolve_eq_append fun s hs => (hplain s hs).not_dot, List.nil_append]

end Rules

/-! ## A text and its parts -/

variable {R : Rules} {p : Parts}

/-- Parts as they come out of the parser. -/
structure Parts.WellFormed (R : Rules) (p : Parts) : Prop where
  scheme : (defaultPort p.scheme).isSome
  host : HostText p.host
  port : ∀ n ∈ p.port, n ≤ 65535 ∧ defaultPort p.scheme ≠ some n
  segments : ∀ s ∈ p.segments, R.Plain s

lemma Parts.Canonical.wellFormed (h : p.Canonical R) : p.WellFormed R :=
  ⟨h.scheme, R.parseHost_text _ _ h.host, h.port, h.segments⟩

/-- A text is its scheme, a colon and what comes after it. -/
lemma Parts.text_eq (p : Parts) :
    p.text = p.scheme ++ ':' :: ('/' :: '/' :: (p.hostPort ++ p.pathname)) := by
  simp [Parts.text, Parts.origin]

namespace Parts.WellFormed

variable (h : p.WellFormed R)

include h

/-- A host and its port have no blank, no slash and no `@`. -/
lemma hostPort_chars : ∀ c ∈ p.hostPort, isBlank c = false ∧ isSlash c = false ∧ c ≠ '@' := by
  intro c hc
  rcases List.mem_append.mp hc with hc | hc
  · exact h.host.chars c hc
  · exact portText_chars c hc

/-- A path has no blank. -/
lemma pathname_not_blank : ∀ c ∈ p.pathname, isBlank c = false := by
  intro c hc
  obtain ⟨s, hs, hc⟩ := List.mem_flatMap.mp hc
  rcases List.mem_cons.mp hc with rfl | hc
  · decide
  · by_contra hblank
    have hencodes := R.encodes_blank c (by simpa using hblank)
    rw [((h.segments s hs).chars c hc).2] at hencodes
    cases hencodes

/-- A text has no blank. -/
lemma clean_text : clean p.text = p.text := by
  apply clean_eq_self
  rw [p.text_eq]
  intro c hc
  simp only [List.mem_append, List.mem_cons] at hc
  rcases hc with hc | rfl | rfl | rfl | hc | hc
  · exact not_blank_of_port h.scheme c hc
  · decide
  · decide
  · decide
  · exact (h.hostPort_chars c hc).1
  · exact h.pathname_not_blank c hc

/-- The slashes after the scheme are dropped, and no more. -/
lemma dropWhile_isSlash (t : List Char) :
    ('/' :: '/' :: (p.hostPort ++ t)).dropWhile isSlash = p.hostPort ++ t := by
  have hslash : isSlash '/' = true := by decide
  rw [List.dropWhile_cons_of_pos hslash, List.dropWhile_cons_of_pos hslash]
  cases hhost : p.host with
  | nil => exact absurd hhost h.host.1
  | cons c name =>
    have hc : c ∈ p.hostPort := List.mem_append_left _ (hhost ▸ List.mem_cons_self)
    rw [hostPort, hhost, List.cons_append, List.cons_append,
      List.dropWhile_cons_of_neg (by simp [(h.hostPort_chars c hc).2.1])]

/-- The host and the port end where the path begins. -/
lemma span_hostPort : (p.hostPort ++ p.pathname).span (fun c => !isSlash c) =
    (p.hostPort, p.pathname) := by
  have hall : ∀ c ∈ p.hostPort, (!isSlash c) = true := fun c hc => by
    simp [(h.hostPort_chars c hc).2.1]
  have hpath : p.pathname.takeWhile (fun c => !isSlash c) = [] ∧
      p.pathname.dropWhile (fun c => !isSlash c) = p.pathname := by
    have hslash : isSlash '/' = true := by decide
    cases hsegments : p.segments with
    | nil => simp [pathname, hsegments]
    | cons s segments => simp [pathname, hsegments, hslash]
  rw [List.span_eq_takeWhile_dropWhile, List.takeWhile_append_of_pos hall,
    List.dropWhile_append_of_pos hall, hpath.1, hpath.2, List.append_nil]

/-- The scheme of a text. -/
lemma cutScheme_text : ∃ rest, cutScheme (clean p.text) = some (p.scheme, rest) := by
  rw [h.clean_text, p.text_eq]
  exact ⟨_, cutScheme_of_port h.scheme⟩

end Parts.WellFormed

/-- **The parser takes a text apart as it was put together**, up to what the host parser makes of
the host.

**Proof sketch.** Nothing is dropped from the text; the scheme ends at the first colon, the host and
port at the first slash after two, and the segments are plain. -/
theorem parse_text (h : p.WellFormed R) :
    parse R p.text = (R.parseHost p.host).map fun host =>
      ⟨p.scheme, host, p.port, if p.segments = [] then [[]] else p.segments⟩ := by
  have hcut : cutPort false (afterAt p.hostPort) = (p.host, p.port.map (Nat.toDigits 10)) := by
    rw [afterAt_eq_self fun c hc => (h.hostPort_chars c hc).2.2, Parts.hostPort, h.host.cutPort,
      cutPort_portText, List.append_nil]
  have hsegments : R.pathSegments p.pathname = if p.segments = [] then [[]] else p.segments :=
    Rules.pathSegments_plain_text h.segments
  unfold parse
  rw [h.clean_text, p.text_eq, cutScheme_of_port h.scheme]
  simp only [Option.bind_eq_bind, Option.bind_some, h.dropWhile_isSlash, h.span_hostPort, hcut,
    parsePort_portText h.port, hsegments, guard, if_pos h.host.1]
  cases R.parseHost p.host <;> rfl

/-- **The parts of a canonical text** are those it was put together from. -/
lemma Parts.Canonical.parse (h : p.Canonical R) :
    parse R p.text = some { p with segments := if p.segments = [] then [[]] else p.segments } := by
  rw [parse_text h.wellFormed, h.host]
  rfl

/-- The scheme of a URL is that of its text. -/
lemma scheme_of_parse {s scheme rest : List Char} (h : parse R s = some p)
    (hcut : cutScheme (clean s) = some (scheme, rest)) : p.scheme = scheme := by
  unfold parse at h
  rw [hcut] at h
  simp only [Option.bind_eq_bind, Option.bind_some, Option.bind_eq_some_iff] at h
  obtain ⟨-, -, host, -, port, -, h⟩ := h
  obtain rfl := Option.some.inj h
  rfl

/-- **What comes out of the parser is well formed.** -/
lemma parse_wellFormed {s : List Char} (h : parse R s = some p)
    (hscheme : (defaultPort p.scheme).isSome) : p.WellFormed R ∧ p.segments ≠ [] := by
  unfold parse at h
  simp only [Option.bind_eq_bind, Option.bind_eq_some_iff] at h
  obtain ⟨⟨scheme, rest⟩, -, -, -, host, hhost, port, hport, h⟩ := h
  obtain rfl := Option.some.inj h
  refine ⟨⟨hscheme, R.parseHost_text _ _ hhost, ?_, fun s hs => Rules.pathSegments_plain hs⟩,
    Rules.pathSegments_ne_nil _⟩
  intro n hn
  exact port_of_parsePort (hport.trans (congrArg some hn))

/-! ## Canonical texts -/

/-- A text without its last slash. -/
def dropSlash (s : List Char) : List Char := if s.getLast? = some '/' then s.dropLast else s

/-- A path without its last slash is empty or starts with a slash. -/
lemma dropSlash_cons (t : List Char) :
    dropSlash ('/' :: t) = [] ∨ ∃ t', dropSlash ('/' :: t) = '/' :: t' := by
  unfold dropSlash
  split_ifs
  · cases t with
    | nil => exact .inl rfl
    | cons c t => exact .inr ⟨_, rfl⟩
  · exact .inr ⟨t, rfl⟩

/-- Segments without the empty one that a trailing slash leaves. -/
def dropEmpty (segments : List (List Char)) : List (List Char) :=
  if segments.getLast? = some [] then segments.dropLast else segments

/-- **A path without its last slash** has the segments without the empty one at their end. -/
lemma dropSlash_flatMap {segments : List (List Char)}
    (h : ∀ s ∈ segments, ∀ c ∈ s, isSlash c = false) :
    dropSlash (segments.flatMap ('/' :: ·)) = (dropEmpty segments).flatMap ('/' :: ·) := by
  cases segments using List.reverseRecOn with
  | nil => rfl
  | append_singleton segments s =>
    rw [List.flatMap_append, List.flatMap_singleton]
    cases hs : s with
    | nil => simp [dropSlash, dropEmpty]
    | cons c t =>
      have hlast : (segments.flatMap ('/' :: ·) ++ '/' :: c :: t).getLast? ≠ some '/' := by
        intro heq
        have hmem : '/' ∈ s := by
          rw [hs]
          apply List.mem_of_getLast?
          simpa [List.getLast?_append, List.getLast?_cons] using heq
        exact absurd (h s (by simp) '/' hmem) (by decide)
      rw [dropSlash, if_neg hlast, dropEmpty, if_neg (by simp)]
      simp

/-- The text that the origin and the path make, without a slash at its end. -/
def Parts.base (p : Parts) : List Char := p.origin ++ dropSlash p.pathname

/-- The parts of such a text. -/
lemma Parts.WellFormed.base_eq (h : p.WellFormed R) :
    p.base = ({ p with segments := dropEmpty p.segments } : Parts).text := by
  rw [base, pathname, dropSlash_flatMap fun s hs c hc => ((h.segments s hs).chars c hc).1]
  rfl

/-- Segments without the empty one at their end are some of them. -/
lemma mem_of_mem_dropEmpty {segments : List (List Char)} {s : List Char}
    (h : s ∈ dropEmpty segments) : s ∈ segments := by
  unfold dropEmpty at h
  split_ifs at h
  · exact List.dropLast_subset _ h
  · exact h

/-- **A text is canonical exactly when it is its origin and its path**, for a text that does not end
with a slash.

**Proof sketch.** What the parser gives is well formed, so a text that is put together from it is
taken apart into the same parts again; so the host parser keeps the host. -/
theorem canonical_iff {s : List Char} (h : parse R s = some p)
    (hscheme : (defaultPort p.scheme).isSome) (hlast : s.getLast? ≠ some '/') :
    s = p.base ↔ CanonicalText R s := by
  obtain ⟨hp, hne⟩ := parse_wellFormed h hscheme
  constructor
  · intro hs
    generalize hq : ({ p with segments := dropEmpty p.segments } : Parts) = q at *
    have hwf : q.WellFormed R := by
      subst hq
      exact ⟨hp.scheme, hp.host, hp.port, fun t ht => hp.segments t (mem_of_mem_dropEmpty ht)⟩
    have htext : s = q.text := by rw [hs, hp.base_eq, hq]
    have hparse := parse_text hwf
    rw [← htext, h] at hparse
    obtain ⟨host, hhost, heq⟩ := Option.map_eq_some_iff.mp hparse.symm
    have hsame : host = q.host := by
      have := congrArg Parts.host heq
      subst hq
      exact this
    exact ⟨q, ⟨hwf.scheme, hsame ▸ hhost, hwf.port, hwf.segments⟩, htext⟩
  · rintro ⟨q, hq, rfl⟩
    obtain rfl := Option.some.inj (hq.parse.symm.trans h)
    -- a text that does not end with a slash has no empty segment at its end
    have hkeep : dropEmpty (if q.segments = [] then [[]] else q.segments) = q.segments := by
      cases hsegments : q.segments using List.reverseRecOn with
      | nil => rfl
      | append_singleton segments t =>
        have ht : t ≠ [] := by
          rintro rfl
          apply hlast
          simp [Parts.text, Parts.pathname, hsegments]
        simp [dropEmpty, ht]
    rw [hp.base_eq, hkeep]

/-- **A canonical text with one more segment** is canonical. -/
lemma Parts.Canonical.snoc (h : p.Canonical R) {s : List Char} (hs : R.Plain s) :
    ({ p with segments := p.segments ++ [s] } : Parts).Canonical R := by
  refine ⟨h.scheme, h.host, h.port, fun t ht => ?_⟩
  rcases List.mem_append.mp ht with ht | ht
  · exact h.segments t ht
  · exact List.mem_singleton.mp ht ▸ hs

lemma Parts.text_snoc (p : Parts) (s : List Char) :
    ({ p with segments := p.segments ++ [s] } : Parts).text = p.text ++ '/' :: s := by
  simp [Parts.text, Parts.origin, Parts.hostPort, Parts.pathname]

/-- A segment of letters and digits is plain. -/
lemma Rules.plain_of_alphanum {s : List Char} (hdot : isSingleDot s = false ∧ isDoubleDot s = false)
    (h : ∀ c ∈ s, c.isAlphanum = true) : R.Plain s :=
  ⟨hdot, fun c hc => ⟨(alphanum_facts (h c hc)).2.1, R.encodes_alphanum c (h c hc)⟩⟩

end Web
