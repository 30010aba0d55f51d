import Fapi2As.Endpoints.Views
import Fapi2As.Markup.Entities
import Fapi2As.Markup.Tags

set_option relaxedAutoImplicit false
set_option autoImplicit false

/-!
# Pages without injection

Escaping by five replacements is an encoding by entities: nothing that could open a tag or close an
attribute is left, and the text can be read back. Every value of a page stands in its text or in a
quoted attribute, so the tags of a page do not depend on the values.

## Main definitions

* `Fapi2As.htmlEntities`, `Fapi2As.unescapeHtml` — the five entities, and reading them back.
* `Fapi2As.loginPieces`, `Fapi2As.consentPieces` — the pages as fixed text and inserted values.
* `Fapi2As.tags` — the tags of a page with the names of their attributes.

## Main results

* `Fapi2As.escapeHtml_eq` — escaping is the encoding by the entities.
* `Fapi2As.pages_injection_free` — escaping is lossless, and values leave the tags as they are.
-/

namespace Fapi2As

open Markup

/-! ## Escaping -/

/-- The characters that are escaped, in the order of their replacements, with their entities. -/
def htmlTable : List (Char × List Char) :=
  [('&', "&amp;".toList), ('<', "&lt;".toList), ('>', "&gt;".toList), ('\x22', "&quot;".toList),
    ('\x27', "&#39;".toList)]

/-- **The entities of a page.** The ampersand comes first, so no later replacement meets one that
an earlier one has put in. -/
def htmlEntities : Entities where
  table := htmlTable
  lead := '&'
  lead_replaced := by decide
  starts := by decide
  once := by decide
  ordered := by decide
  prefixFree := by decide

/-- Read the entities of a text back. -/
def unescapeHtml (s : String) : String := String.ofList (htmlEntities.decode s.toList)

/-- A replacement is a pass over the characters. -/
lemma replaceAll_ofList (c : Char) (word : String) (l : List Char) :
    replaceAll c word (String.ofList l) = String.ofList (replaceChar c word.toList l) := by
  unfold replaceAll replaceChar
  rw [String.toList_ofList]

/-- **The five replacements are the encoding by the entities.** -/
lemma escapeHtml_eq (s : String) :
    escapeHtml s = String.ofList (htmlEntities.encode s.toList) := by
  rw [← htmlEntities.passes_eq_encode]
  show escapeHtml s = String.ofList (htmlTable.foldl (fun l e => replaceChar e.1 e.2 l) s.toList)
  have hfirst : replaceAll '&' "&amp;" s =
      String.ofList (replaceChar '&' "&amp;".toList s.toList) := rfl
  unfold escapeHtml htmlTable
  dsimp only [List.foldl_cons, List.foldl_nil]
  rw [hfirst, replaceAll_ofList, replaceAll_ofList, replaceAll_ofList, replaceAll_ofList]

example : escapeHtml "<b>&" = "&lt;b&gt;&amp;" := by decide +kernel

/-- The characters of an escaped text are harmless: they open and close nothing. -/
lemma notMem_escapeHtml (s : String) {c : Char} (hc : c ∈ ['<', '>', '\x22', '\x27']) :
    c ∉ (escapeHtml s).toList := by
  intro h
  rw [escapeHtml_eq, String.toList_ofList] at h
  rcases htmlEntities.mem_encode h with hnone | ⟨e, he, hmem⟩
  · have hkey : ['<', '>', '\x22', '\x27'].all (htmlTable.map Prod.fst).contains = true := by decide
    obtain ⟨e, he, hd⟩ := List.mem_map.mp (List.contains_iff_mem.mp (List.all_eq_true.mp hkey c hc))
    exact hnone e he hd
  · have hnot : ∀ e ∈ htmlTable, ['<', '>', '\x22', '\x27'].all
        (fun d => !e.2.contains d) = true := by
      decide
    have hfree := List.all_eq_true.mp (hnot e he) c hc
    simp [hmem] at hfree

lemma unescapeHtml_escapeHtml (s : String) : unescapeHtml (escapeHtml s) = s := by
  rw [unescapeHtml, escapeHtml_eq, String.toList_ofList, htmlEntities.decode_encode,
    String.ofList_toList]

/-- An escaped value is inert in a page. -/
lemma inert_encode (l : List Char) : Inert (htmlEntities.encode l) := by
  intro c hc
  have hnot := notMem_escapeHtml (String.ofList l) (c := c)
  rw [escapeHtml_eq, String.toList_ofList, String.toList_ofList] at hnot
  refine ⟨?_, ?_, ?_⟩
  all_goals
    rintro rfl
    exact hnot (by decide) hc

/-! ## The pages as fixed text and values -/

/-- A part of fixed text. -/
def fixed (s : String) : Piece := .text s.toList

/-- A part where a value is inserted. -/
def inserted (s : String) : Piece := .value s.toList

/-- The frame of every page around its parts. -/
def pagePieces (title : String) (body : List Piece) : List Piece :=
  [fixed "<!DOCTYPE html>\n<html lang=\"en\"><head><meta charset=\"utf-8\">\n",
    fixed "<meta name=\"viewport\" content=\"width=device-width, initial-scale=1\">\n<title>",
    inserted title, fixed "</title></head>\n<body>"] ++ body ++ [fixed "</body></html>"]

/-- An entry of the list of users. -/
def userPieces (u : String) : List Piece :=
  [fixed "<option value=\"", inserted u, fixed "\">", inserted u, fixed "</option>"]

/-- The error text of the login page. -/
def errorPieces : Option String → List Piece
  | some error => [fixed "<p role=\"alert\">", inserted error, fixed "</p>"]
  | none => []

/-- The field of the login page: a list of users, or a text field. -/
def fieldPieces (users : List String) : List Piece :=
  if users.length ≠ 0 then
    [fixed "<select name=\"username\" id=\"username\">"] ++ users.flatMap userPieces ++
      [fixed "</select>"]
  else [fixed "<input name=\"username\" id=\"username\">"]

/-- **The parts of the login page.** -/
def loginPieces (v : LoginView) : List Piece :=
  pagePieces "Sign in" ([fixed "<main><h1>Sign in (dev)</h1>"] ++ errorPieces v.shownError ++
    [fixed "\n<form method=\"post\" action=\"", inserted v.action,
      fixed "\">\n<input type=\"hidden\" name=\"interaction_id\" value=\"",
      inserted v.interactionId, fixed "\">\n<input type=\"hidden\" name=\"csrf\" value=\"",
      inserted v.csrfToken, fixed "\">\n<label>User\n"] ++ fieldPieces v.users ++
    [fixed "\n</label>\n",
      fixed "<button type=\"submit\" id=\"login\">Continue</button>\n</form></main>"])

/-- An entry of the list of scopes. -/
def scopePieces (s : String) : List Piece := [fixed "<li>", inserted s, fixed "</li>"]

/-- **The parts of the consent page.** -/
def consentPieces (v : ConsentView) : List Piece :=
  pagePieces "Authorize" ([fixed "<main><h1>Authorize ", inserted v.clientName,
      fixed "</h1>\n<p>Signed in as <strong>", inserted v.subject,
      fixed "</strong>.</p>\n<p><strong>", inserted v.clientName,
      fixed "</strong> is requesting access to:</p>\n<ul>"] ++ v.scopes.flatMap scopePieces ++
    [fixed "</ul>\n<form method=\"post\" action=\"", inserted v.action,
      fixed "\">\n<input type=\"hidden\" name=\"interaction_id\" value=\"",
      inserted v.interactionId, fixed "\">\n<input type=\"hidden\" name=\"csrf\" value=\"",
      inserted v.csrfToken, fixed "\">\n",
    fixed "<button type=\"submit\" name=\"decision\" value=\"approve\" id=\"approve\">",
    fixed "Approve</button>\n",
    fixed "<button type=\"submit\" name=\"decision\" value=\"deny\" id=\"deny\">Deny</button>\n",
    fixed "</form></main>"])

/-- A page written from its parts, every value escaped. -/
def renderPieces (l : List Piece) : String := String.ofList (render htmlEntities.encode l)

lemma renderPieces_append (l l' : List Piece) :
    renderPieces (l ++ l') = renderPieces l ++ renderPieces l' := by
  rw [renderPieces, render, List.flatMap_append, String.ofList_append]
  rfl

lemma renderPieces_fixed (s : String) (l : List Piece) :
    renderPieces (fixed s :: l) = s ++ renderPieces l := by
  show String.ofList (s.toList ++ _) = _
  rw [String.ofList_append, String.ofList_toList]
  rfl

lemma renderPieces_inserted (s : String) (l : List Piece) :
    renderPieces (inserted s :: l) = escapeHtml s ++ renderPieces l := by
  show String.ofList (htmlEntities.encode s.toList ++ _) = _
  rw [String.ofList_append, ← escapeHtml_eq]
  rfl

lemma renderPieces_nil : renderPieces [] = "" := rfl

/-- The entries of a list, one after the other. -/
lemma renderPieces_flatMap {f : String → List Piece} {g : String → String}
    (h : ∀ s, renderPieces (f s) = g s) (l : List String) :
    renderPieces (l.flatMap f) = String.join (l.map g) := by
  induction l with
  | nil => rfl
  | cons s l ih =>
    rw [List.flatMap_cons, renderPieces_append, ih, h, List.map_cons, String.join_cons]

lemma renderPieces_page (title : String) (body : List Piece) :
    renderPieces (pagePieces title body) = page title (renderPieces body) := by
  unfold pagePieces page
  simp only [renderPieces_append, renderPieces_fixed, renderPieces_inserted, renderPieces_nil,
    String.append_assoc, String.append_empty]

lemma renderPieces_user (u : String) : renderPieces (userPieces u) = userOption u := by
  unfold userPieces userOption
  simp only [renderPieces_fixed, renderPieces_inserted, renderPieces_nil, String.append_assoc,
    String.append_empty]

lemma renderPieces_scope (s : String) :
    renderPieces (scopePieces s) = "<li>" ++ escapeHtml s ++ "</li>" := by
  unfold scopePieces
  simp only [renderPieces_fixed, renderPieces_inserted, renderPieces_nil, String.append_assoc,
    String.append_empty]

lemma renderPieces_error (error : Option String) :
    renderPieces (errorPieces error) = errorParagraph error := by
  cases error with
  | none => exact renderPieces_nil
  | some error =>
    unfold errorPieces errorParagraph
    simp only [renderPieces_fixed, renderPieces_inserted, renderPieces_nil, String.append_assoc,
      String.append_empty]

lemma renderPieces_field (users : List String) :
    renderPieces (fieldPieces users) = userField users := by
  unfold fieldPieces userField
  split_ifs
  · rw [renderPieces_append, renderPieces_append, renderPieces_flatMap renderPieces_user]
    simp only [renderPieces_fixed, renderPieces_nil, String.append_empty]
  · rw [renderPieces_fixed, renderPieces_nil, String.append_empty]

/-- **The login page is written from its parts.** -/
lemma renderLogin_eq (v : LoginView) : renderLogin v = renderPieces (loginPieces v) := by
  rw [loginPieces, renderPieces_page, renderLogin]
  simp only [renderPieces_append, renderPieces_field, renderPieces_error, renderPieces_fixed,
    renderPieces_inserted, renderPieces_nil, String.append_empty, String.append_assoc]

/-- **The consent page is written from its parts.** -/
lemma renderConsent_eq (v : ConsentView) : renderConsent v = renderPieces (consentPieces v) := by
  rw [consentPieces, renderPieces_page, renderConsent]
  simp only [renderPieces_append, renderPieces_flatMap renderPieces_scope, renderPieces_fixed,
    renderPieces_inserted, renderPieces_nil, String.append_empty, String.append_assoc]

/-! ## The text outside the values -/

/-- The fixed text of an entry of the list of users, and of an entry of the list of scopes. -/
lemma outside_userPieces (u : String) :
    (userPieces u).map Piece.outside = [some "<option value=\"".toList, none,
      some "\">".toList, none, some "</option>".toList] := by
  unfold userPieces fixed inserted
  simp only [List.map_cons, List.map_nil, Piece.outside]

lemma outside_scopePieces (s : String) :
    (scopePieces s).map Piece.outside = [some "<li>".toList, none, some "</li>".toList] := by
  unfold scopePieces fixed inserted
  simp only [List.map_cons, List.map_nil, Piece.outside]

/-- The text of the login page outside its values depends on the number of users and on whether an
error is shown. -/
lemma outside_loginPieces {v v' : LoginView} (husers : v.users.length = v'.users.length)
    (herror : v.shownError.isSome = v'.shownError.isSome) :
    (loginPieces v).map Piece.outside = (loginPieces v').map Piece.outside := by
  have hfield : (fieldPieces v.users).map Piece.outside =
      (fieldPieces v'.users).map Piece.outside := by
    unfold fieldPieces
    rw [husers]
    split_ifs
    · simp only [List.map_append, map_outside_flatMap outside_userPieces, husers]
    · rfl
  have herr : (errorPieces v.shownError).map Piece.outside =
      (errorPieces v'.shownError).map Piece.outside := by
    cases h : v.shownError with
    | none =>
      cases h' : v'.shownError with
      | none => rfl
      | some e => simp [h, h'] at herror
    | some e =>
      cases h' : v'.shownError with
      | none => simp [h, h'] at herror
      | some e' =>
        unfold errorPieces inserted
        simp only [List.map_cons, List.map_nil, Piece.outside]
  unfold loginPieces pagePieces inserted
  simp only [List.map_append, List.map_cons, List.map_nil, Piece.outside, hfield, herr]

/-- The text of the consent page outside its values depends on the number of scopes. -/
lemma outside_consentPieces {v v' : ConsentView} (hscopes : v.scopes.length = v'.scopes.length) :
    (consentPieces v).map Piece.outside = (consentPieces v').map Piece.outside := by
  unfold consentPieces pagePieces inserted
  simp only [List.map_append, List.map_cons, List.map_nil, Piece.outside,
    map_outside_flatMap outside_scopePieces, hscopes]

/-! ## Tags -/

/-- The tags of a page with the names of their attributes, in order. -/
def tags (s : String) : List Tag := scan .text s.toList

set_option maxRecDepth 4000 in
/-- The frame of a page keeps its body whole. -/
lemma whole_pagePieces (title : String) {body : List Piece}
    (h : Whole (body.map Piece.outside)) : Whole ((pagePieces title body).map Piece.outside) := by
  unfold pagePieces fixed inserted
  simp only [List.map_append, List.map_cons, List.map_nil, Piece.outside]
  exact (Whole.append (by decide +kernel) h).append (by decide +kernel)

lemma whole_userPieces (users : List String) :
    Whole ((users.flatMap userPieces).map Piece.outside) := by
  rw [map_outside_flatMap outside_userPieces]
  exact Whole.replicate (by decide +kernel) _

lemma whole_scopePieces (scopes : List String) :
    Whole ((scopes.flatMap scopePieces).map Piece.outside) := by
  rw [map_outside_flatMap outside_scopePieces]
  exact Whole.replicate (by decide +kernel) _

lemma whole_errorPieces (error : Option String) :
    Whole ((errorPieces error).map Piece.outside) := by
  cases error with
  | none => exact ⟨trivial, rfl⟩
  | some e =>
    unfold errorPieces fixed inserted
    simp only [List.map_cons, List.map_nil, Piece.outside]
    decide +kernel

lemma whole_fieldPieces (users : List String) :
    Whole ((fieldPieces users).map Piece.outside) := by
  unfold fieldPieces
  split_ifs
  · rw [List.map_append, List.map_append]
    exact (Whole.append (by decide +kernel) (whole_userPieces users)).append (by decide +kernel)
  · decide +kernel

/-- **Every value of the login page stands in text or in a quoted attribute.** -/
lemma whole_loginPieces (v : LoginView) : Whole ((loginPieces v).map Piece.outside) := by
  apply whole_pagePieces
  simp only [List.map_append]
  refine ((((Whole.append ?_ (whole_errorPieces _)).append ?_).append
    (whole_fieldPieces _)).append ?_)
  · decide +kernel
  · unfold fixed inserted
    simp only [List.map_cons, List.map_nil, Piece.outside]
    decide +kernel
  · decide +kernel

/-- **Every value of the consent page stands in text or in a quoted attribute.** -/
lemma whole_consentPieces (v : ConsentView) : Whole ((consentPieces v).map Piece.outside) := by
  apply whole_pagePieces
  simp only [List.map_append]
  refine (Whole.append ?_ (whole_scopePieces _)).append ?_
  all_goals
    unfold fixed inserted
    simp only [List.map_cons, List.map_nil, Piece.outside]
    decide +kernel

/-- Pages with the same text outside their values have the same tags. -/
lemma tags_renderPieces {l l' : List Piece} (hwhole : Whole (l.map Piece.outside))
    (h : l.map Piece.outside = l'.map Piece.outside) :
    tags (renderPieces l) = tags (renderPieces l') := by
  unfold tags renderPieces
  rw [String.toList_ofList, String.toList_ofList]
  exact scan_eq inert_encode h hwhole.1

/-- **Escaping is lossless, and the pages are free of injection.** An escaped text holds no bracket
and no quote, every ampersand in it begins one of the five entities, and reading those back gives
the text. A page is its fixed text with the values escaped, and neither that fixed text nor the tags
of the page depend on anything but the number of entries of its lists and whether an error is shown.

**Proof sketch.** The five replacements are the encoding by the entities, since no entity holds a
character that is replaced later. Each value stands in text or in a quoted attribute, where an
escaped value leaves the state of the scanner as it is. -/
theorem pages_injection_free :
    (∀ s, (∀ c ∈ ['<', '>', '\x22', '\x27'], c ∉ (escapeHtml s).toList) ∧
      (∀ before after, (escapeHtml s).toList = before ++ '&' :: after →
        ∃ e ∈ htmlTable, e.2 <+: '&' :: after) ∧
      unescapeHtml (escapeHtml s) = s) ∧
    Function.Injective escapeHtml ∧
    (∀ v, renderLogin v = renderPieces (loginPieces v)) ∧
    (∀ v v' : LoginView, v.users.length = v'.users.length →
      v.shownError.isSome = v'.shownError.isSome →
      (loginPieces v).map Piece.outside = (loginPieces v').map Piece.outside ∧
        tags (renderLogin v) = tags (renderLogin v')) ∧
    (∀ v, renderConsent v = renderPieces (consentPieces v)) ∧
    ∀ v v' : ConsentView, v.scopes.length = v'.scopes.length →
      (consentPieces v).map Piece.outside = (consentPieces v').map Piece.outside ∧
        tags (renderConsent v) = tags (renderConsent v') := by
  refine ⟨fun s => ⟨fun c hc => notMem_escapeHtml s hc, fun before after h => ?_,
      unescapeHtml_escapeHtml s⟩,
    Function.LeftInverse.injective unescapeHtml_escapeHtml, renderLogin_eq, fun v v' hu he => ?_,
    renderConsent_eq, fun v v' hs => ?_⟩
  · rw [escapeHtml_eq, String.toList_ofList] at h
    exact htmlEntities.lead_begins h
  · have hout := outside_loginPieces hu he
    refine ⟨hout, ?_⟩
    rw [renderLogin_eq, renderLogin_eq]
    exact tags_renderPieces (whole_loginPieces v) hout
  · have hout := outside_consentPieces hs
    refine ⟨hout, ?_⟩
    rw [renderConsent_eq, renderConsent_eq]
    exact tags_renderPieces (whole_consentPieces v) hout

/-- A client name and a subject that try to break out leave the consent page as it is. -/
theorem consent_tags_sample :
    tags (renderConsent ⟨"/consent", "i1", "t", "<script>", ["openid"], "\" onload='"⟩) =
      tags (renderConsent ⟨"/consent", "i2", "t", "Client", ["profile"], "alice"⟩) :=
  (pages_injection_free.2.2.2.2.2 _ _ (by rfl)).2

end Fapi2As
