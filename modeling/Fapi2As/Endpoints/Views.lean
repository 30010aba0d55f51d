import Fapi2As.Endpoints.Http

set_option relaxedAutoImplicit false
set_option autoImplicit false

/-!
# Views

The server-rendered pages of login and consent. There is no template engine: every interpolated
value goes through `escapeHtml`.

## Main definitions

* `Fapi2As.escapeHtml` — escaping for the text and the attributes of a page.
* `Fapi2As.renderLogin`, `Fapi2As.renderConsent`, `Fapi2As.renderError` — the pages.
* `Fapi2As.Page.render` — the text of a page.
-/

namespace Fapi2As

/-- `value.replace(/c/g, word)`. -/
def replaceAll (c : Char) (word value : String) : String :=
  String.ofList (value.toList.flatMap fun d => if d = c then word.toList else [d])

/-- Escape for HTML text and attribute contexts: five replacements, one after the other. -/
def escapeHtml (value : String) : String :=
  let value := replaceAll '&' "&amp;" value
  let value := replaceAll '<' "&lt;" value
  let value := replaceAll '>' "&gt;" value
  let value := replaceAll '\x22' "&quot;" value
  replaceAll '\x27' "&#39;" value

/-- The frame of every page. -/
def page (title body : String) : String :=
  "<!DOCTYPE html>\n<html lang=\"en\"><head><meta charset=\"utf-8\">\n" ++
  "<meta name=\"viewport\" content=\"width=device-width, initial-scale=1\">\n<title>" ++
  escapeHtml title ++ "</title></head>\n<body>" ++ body ++ "</body></html>"

/-- The entry of a user in the list of the login page. -/
def userOption (u : String) : String :=
  "<option value=\"" ++ escapeHtml u ++ "\">" ++ escapeHtml u ++ "</option>"

/-- The error text that is shown: an empty one counts as none. -/
def LoginView.shownError (v : LoginView) : Option String := v.error.filter (· ≠ "")

/-- The paragraph of the error text. -/
def errorParagraph : Option String → String
  | some error => "<p role=\"alert\">" ++ escapeHtml error ++ "</p>"
  | none => ""

/-- The field of the user name: a list to pick from, or a text field when there are no users. -/
def userField (users : List String) : String :=
  if users.length ≠ 0 then
    "<select name=\"username\" id=\"username\">" ++ String.join (users.map userOption) ++
      "</select>"
  else "<input name=\"username\" id=\"username\">"

/-- The dev login form: pick or enter a user name. -/
def renderLogin (v : LoginView) : String :=
  page "Sign in" (
    "<main><h1>Sign in (dev)</h1>" ++ errorParagraph v.shownError ++
    "\n<form method=\"post\" action=\"" ++ escapeHtml v.action ++
    "\">\n<input type=\"hidden\" name=\"interaction_id\" value=\"" ++
    escapeHtml v.interactionId ++ "\">\n<input type=\"hidden\" name=\"csrf\" value=\"" ++
    escapeHtml v.csrfToken ++ "\">\n<label>User\n" ++ userField v.users ++ "\n</label>\n" ++
    "<button type=\"submit\" id=\"login\">Continue</button>\n</form></main>")

/-- The consent screen: the client, the requested scopes, and the buttons. -/
def renderConsent (v : ConsentView) : String :=
  let scopeItems := String.join (v.scopes.map fun s => "<li>" ++ escapeHtml s ++ "</li>")
  page "Authorize" (
    "<main><h1>Authorize " ++ escapeHtml v.clientName ++ "</h1>\n<p>Signed in as <strong>" ++
    escapeHtml v.subject ++ "</strong>.</p>\n<p><strong>" ++ escapeHtml v.clientName ++
    "</strong> is requesting access to:</p>\n<ul>" ++ scopeItems ++
    "</ul>\n<form method=\"post\" action=\"" ++ escapeHtml v.action ++
    "\">\n<input type=\"hidden\" name=\"interaction_id\" value=\"" ++
    escapeHtml v.interactionId ++ "\">\n<input type=\"hidden\" name=\"csrf\" value=\"" ++
    escapeHtml v.csrfToken ++ "\">\n" ++
    "<button type=\"submit\" name=\"decision\" value=\"approve\" id=\"approve\">" ++
    "Approve</button>\n" ++
    "<button type=\"submit\" name=\"decision\" value=\"deny\" id=\"deny\">Deny</button>\n" ++
    "</form></main>")

/-- A plain error page for problems that cannot be redirected. -/
def renderError (message : String) : String :=
  page "Error" ("<main><h1>Request problem</h1><p>" ++ escapeHtml message ++ "</p></main>")

/-- The text of a page. -/
def Page.render : Page → String
  | .login v => renderLogin v
  | .consent v => renderConsent v
  | .error message => renderError message

end Fapi2As
