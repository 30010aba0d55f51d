import Mathlib.Data.List.Basic
import Mathlib.Data.List.Flatten
import Mathlib.Tactic.Common

set_option relaxedAutoImplicit false
set_option autoImplicit false

/-!
# Tags of a page

A scanner for the tags of a page and the names of their attributes, by the states of an HTML
tokenizer, and pages that are put together from fixed text and inserted values. A value that stands
in the text of a page or in a quoted attribute, and that holds neither `<` nor a quote, is scanned
without a trace, so the tags of a page are those of its fixed text.

## Main definitions

* `Markup.Mode`, `Markup.scan` — the scanner.
* `Markup.Piece`, `Markup.render`, `Markup.Piece.outside` — pages, and the text outside the values.
* `Markup.Fits`, `Markup.Whole` — every value stands in text or in a quoted attribute.

## Main results

* `Markup.scan_render` — the tags of a page are those of its fixed text.
-/

namespace Markup

/-- A tag, with the names of its attributes. The name of an end tag keeps its slash. -/
structure Tag where
  name : List Char
  attributes : List (List Char)
  deriving DecidableEq

/-- The states of the scanner. -/
inductive Mode
  | text
  /-- Reading the name of a tag. -/
  | name (read : List Char)
  /-- In a tag, between attributes. -/
  | between (tag : Tag)
  /-- Reading the name of an attribute. -/
  | attribute (tag : Tag) (read : List Char)
  /-- Before the value of an attribute. -/
  | before (tag : Tag)
  /-- In the value of an attribute, between quotes or without. -/
  | quoted (tag : Tag) (quote : Char)
  | bare (tag : Tag)
  deriving DecidableEq

/-- The quotes of an attribute value. -/
def doubleQuote : Char := '\x22'

/-- The other quote of an attribute value. -/
def singleQuote : Char := '\x27'

/-- White space in a tag. -/
def isBlank (c : Char) : Bool := c = ' ' || c = '\n' || c = '\t' || c = '\r' || c = '\x0c'

/-- A tag with one more attribute. -/
def Tag.add (t : Tag) (name : List Char) : Tag :=
  { t with attributes := t.attributes ++ [name] }

/-- **One character**: the state after it, and the tag that it closes. -/
def step : Mode → Char → Mode × Option Tag
  | .text, c => (if c = '<' then .name [] else .text, none)
  | .name read, c =>
    if c = '>' then (.text, some ⟨read, []⟩)
    else if isBlank c then (.between ⟨read, []⟩, none)
    else (.name (read ++ [c]), none)
  | .between t, c =>
    if c = '>' then (.text, some t)
    else if isBlank c then (.between t, none)
    else (.attribute t [c], none)
  | .attribute t read, c =>
    if c = '>' then (.text, some (t.add read))
    else if c = '=' then (.before (t.add read), none)
    else if isBlank c then (.between (t.add read), none)
    else (.attribute t (read ++ [c]), none)
  | .before t, c =>
    if c = '>' then (.text, some t)
    else if c = doubleQuote ∨ c = singleQuote then (.quoted t c, none)
    else if isBlank c then (.before t, none)
    else (.bare t, none)
  | .quoted t q, c => (if c = q then .between t else .quoted t q, none)
  | .bare t, c =>
    if c = '>' then (.text, some t)
    else if isBlank c then (.between t, none)
    else (.bare t, none)

/-- The state after a text. -/
def after (m : Mode) (l : List Char) : Mode := l.foldl (fun m c => (step m c).1) m

/-- **The tags of a text**, read from a state. -/
def scan : Mode → List Char → List Tag
  | _, [] => []
  | m, c :: l => (step m c).2.toList ++ scan (step m c).1 l

lemma scan_append (m : Mode) (l l' : List Char) :
    scan m (l ++ l') = scan m l ++ scan (after m l) l' := by
  induction l generalizing m with
  | nil => rfl
  | cons c l ih =>
    show (step m c).2.toList ++ scan (step m c).1 (l ++ l') = _
    rw [ih, ← List.append_assoc]
    rfl

/-- A value that cannot open a tag or close a quoted attribute. -/
def Inert (l : List Char) : Prop := ∀ c ∈ l, c ≠ '<' ∧ c ≠ doubleQuote ∧ c ≠ singleQuote

/-- A value may stand in the text of a page and in a quoted attribute. -/
def Mode.holds : Mode → Bool
  | .text => true
  | .quoted _ q => q = doubleQuote || q = singleQuote
  | _ => false

/-- An inert value leaves no trace where it may stand. -/
lemma scan_inert {m : Mode} {l : List Char} (hm : m.holds) (hl : Inert l) :
    after m l = m ∧ scan m l = [] := by
  induction l with
  | nil => exact ⟨rfl, rfl⟩
  | cons c l ih =>
    have hc := hl c List.mem_cons_self
    have hstep : step m c = (m, none) := by
      cases m with
      | text => simp [step, hc.1]
      | quoted t q =>
        have hq : c ≠ q := by
          rintro rfl
          simp [Mode.holds, hc.2.1, hc.2.2] at hm
        simp [step, hq]
      | _ => cases hm
    obtain ⟨hafter, hscan⟩ := ih fun d hd => hl d (List.mem_cons_of_mem c hd)
    constructor
    · show after (step m c).1 l = m
      rw [hstep]
      exact hafter
    · rw [scan, hstep]
      exact hscan

/-- A part of a page: fixed text, or a value that is inserted. -/
inductive Piece
  | text (s : List Char)
  | value (s : List Char)

/-- The fixed text of a part; `none` where a value is inserted. -/
def Piece.outside : Piece → Option (List Char)
  | .text s => some s
  | .value _ => none

/-- A part of a page with the values written by an encoding. -/
def Piece.chars (encode : List Char → List Char) : Piece → List Char
  | .text s => s
  | .value s => encode s

/-- **A page**, its values written by an encoding. -/
def render (encode : List Char → List Char) (l : List Piece) : List Char :=
  l.flatMap (Piece.chars encode)

/-- The state after the fixed text of a page. -/
def afterText : Mode → List (Option (List Char)) → Mode
  | m, [] => m
  | m, some s :: l => afterText (after m s) l
  | m, none :: l => afterText m l

/-- **Every value stands in text or in a quoted attribute.** -/
def Fits : Mode → List (Option (List Char)) → Prop
  | _, [] => True
  | m, some s :: l => Fits (after m s) l
  | m, none :: l => m.holds ∧ Fits m l

/-- Whether every value stands in text or in a quoted attribute is decided by scanning. -/
instance decidableFits : (m : Mode) → (l : List (Option (List Char))) → Decidable (Fits m l)
  | _, [] => .isTrue trivial
  | m, some s :: l => decidableFits (after m s) l
  | m, none :: l => @instDecidableAnd _ _ _ (decidableFits m l)

lemma afterText_append (m : Mode) (l l' : List (Option (List Char))) :
    afterText m (l ++ l') = afterText (afterText m l) l' := by
  induction l generalizing m with
  | nil => rfl
  | cons s l ih =>
    cases s with
    | none => exact ih m
    | some s => exact ih (after m s)

lemma fits_append {m : Mode} {l l' : List (Option (List Char))} :
    Fits m (l ++ l') ↔ Fits m l ∧ Fits (afterText m l) l' := by
  induction l generalizing m with
  | nil => exact (and_iff_right trivial).symm
  | cons s l ih =>
    cases s with
    | none => exact (and_congr_right fun _ => ih).trans and_assoc.symm
    | some s => exact ih

/-- **A part of a page that starts and ends in text**, with every value where it may stand. -/
def Whole (l : List (Option (List Char))) : Prop := Fits .text l ∧ afterText .text l = .text

instance (l : List (Option (List Char))) : Decidable (Whole l) :=
  inferInstanceAs (Decidable (_ ∧ _))

lemma Whole.append {l l' : List (Option (List Char))} (h : Whole l) (h' : Whole l') :
    Whole (l ++ l') := by
  obtain ⟨hfits, hend⟩ := h
  refine ⟨fits_append.mpr ⟨hfits, ?_⟩, ?_⟩
  · rw [hend]
    exact h'.1
  · rw [afterText_append, hend]
    exact h'.2

lemma Whole.replicate {l : List (Option (List Char))} (h : Whole l) (n : ℕ) :
    Whole (List.replicate n l).flatten := by
  induction n with
  | zero => exact ⟨trivial, rfl⟩
  | succ n ih =>
    rw [List.replicate_succ, List.flatten_cons]
    exact h.append ih

/-- The fixed text of a part that is repeated for each value of a list. -/
lemma map_outside_flatMap {α : Type} {f : α → List Piece} {s : List (Option (List Char))}
    (h : ∀ a, (f a).map Piece.outside = s) (l : List α) :
    (l.flatMap f).map Piece.outside = (List.replicate l.length s).flatten := by
  induction l with
  | nil => rfl
  | cons a l ih =>
    rw [List.flatMap_cons, List.map_append, h, ih, List.length_cons, List.replicate_succ,
      List.flatten_cons]

/-- **The tags of a page are those of its fixed text**, when every value is written so that it is
inert and stands in text or in a quoted attribute. -/
theorem scan_render {encode : List Char → List Char} (hinert : ∀ s, Inert (encode s)) {m : Mode}
    {l : List Piece} (hfits : Fits m (l.map Piece.outside)) :
    scan m (render encode l) = scan m (l.filterMap Piece.outside).flatten := by
  induction l generalizing m with
  | nil => rfl
  | cons p l ih =>
    cases p with
    | text s =>
      show scan m (s ++ render encode l) = scan m (s ++ (l.filterMap Piece.outside).flatten)
      rw [scan_append, scan_append, ih hfits]
    | value s =>
      obtain ⟨hafter, hscan⟩ := scan_inert hfits.1 (hinert s)
      show scan m (encode s ++ render encode l) = scan m (l.filterMap Piece.outside).flatten
      rw [scan_append, hafter, hscan, List.nil_append, ih hfits.2]

/-- Two pages with the same fixed text have the same tags. -/
theorem scan_eq {encode : List Char → List Char} (hinert : ∀ s, Inert (encode s)) {m : Mode}
    {l l' : List Piece} (h : l.map Piece.outside = l'.map Piece.outside)
    (hfits : Fits m (l.map Piece.outside)) :
    scan m (render encode l) = scan m (render encode l') := by
  have htext : l.filterMap Piece.outside = l'.filterMap Piece.outside := by
    have hmap : ∀ k : List Piece, k.filterMap Piece.outside =
        (k.map Piece.outside).filterMap id := fun k => by
      rw [List.filterMap_map]
      rfl
    rw [hmap, hmap, h]
  rw [scan_render hinert hfits, scan_render hinert (h ▸ hfits), htext]

end Markup
