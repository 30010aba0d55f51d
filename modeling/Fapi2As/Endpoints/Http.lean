import Fapi2As.Domain.Dpop

set_option relaxedAutoImplicit false
set_option autoImplicit false

/-!
# Requests and replies

What the handlers read of a request and what they send, the pages they show, the central error
handler, and the authorization-response redirects.

## Main definitions

* `Fapi2As.HttpRequest`, `Fapi2As.Route` — requests.
* `Fapi2As.Reply`, `Fapi2As.Page` — replies.
* `Fapi2As.errorReply`, `Fapi2As.respond` — the error handler and the `onSend` hook.
* `Fapi2As.buildRedirect`, `Fapi2As.redirectError`, `Fapi2As.redirectCode`, `Fapi2As.errorPage`.
-/

namespace Fapi2As

open Js Async

/-! ## Requests -/

/-- The routes, by path. -/
inductive Route
  | par
  | authorize
  | interaction
  | interactionLogin
  | interactionConsent
  | token
  | revoke
  | introspect
  | userinfo
  | jwks
  deriving DecidableEq

/-- A request, as far as the handlers read it. The body is the parsed one, without members when
there is none. -/
structure HttpRequest where
  route : Route
  method : String
  ip : String := ""
  contentType : Option String := none
  authorization : Option String := none
  dpop : Option DpopHeader := none
  cookie : Option String := none
  query : Params := []
  body : Params := []
  deriving DecidableEq

/-- The content type is a form. -/
def HttpRequest.isForm (req : HttpRequest) : Bool :=
  match req.contentType with
  | some t => startsWith "application/x-www-form-urlencoded" (toLowerCase t)
  | none => false

/-! ## Replies -/

/-- The login page. -/
structure LoginView where
  action : String
  interactionId : String
  csrfToken : String
  users : List String
  error : Option String := none
  deriving DecidableEq

/-- The consent page. -/
structure ConsentView where
  action : String
  interactionId : String
  csrfToken : String
  clientName : String
  scopes : List String
  subject : String
  deriving DecidableEq

/-- The pages that are rendered. -/
inductive Page
  | login (v : LoginView)
  | consent (v : ConsentView)
  | error (message : String)
  deriving DecidableEq

/-- The body of a reply. -/
inductive Body
  | empty
  | json (members : Params)
  | html (page : Page)
  deriving DecidableEq

/-- A reply. -/
structure Reply where
  status : ℕ := 200
  headers : List (String × String) := []
  body : Body := .empty

/-- The header that forbids storing a reply. -/
def noStore : String × String := ("cache-control", "no-store")

/-- A JSON error without further headers. -/
def jsonError (status : ℕ) (error description : String) : Reply :=
  { status := status
    headers := [noStore]
    body := .json [("error", .str error), ("error_description", .str description)] }

/-- An HTML reply. -/
def htmlReply (status : ℕ) (page : Page) : Reply :=
  { status := status
    headers := [("content-type", "text/html; charset=utf-8"), noStore]
    body := .html page }

/-- The reply of the error handler. -/
def errorReply : Exn → Reply
  | .oauth e =>
    { status := e.status
      headers := [noStore, ("pragma", "no-cache")] ++ e.headers
      body := .json e.toBody }
  | _ =>
    { status := 500
      headers := [noStore, ("pragma", "no-cache")]
      body := .json [("error", .str "server_error")] }

/-- `BASE_CSP`. -/
def baseCsp : String :=
  "default-src 'none'; frame-ancestors 'none'; base-uri 'none'; form-action 'self'"

/-- The `onSend` hook. -/
def onSend (reply : Reply) : Reply :=
  let headers := reply.headers ++ [("x-frame-options", "DENY")]
  if reply.headers.any (·.1 = "content-security-policy") then { reply with headers := headers }
  else { reply with headers := headers ++ [("content-security-policy", baseCsp)] }

/-- A handler with the error handler and the hook around it: it always replies. -/
def respond (p : Handler Reply) : Handler Reply := do
  let reply ← tryCatch p fun e => pure (errorReply e)
  pure (onSend reply)

/-- Run a program and keep its exception as a value. -/
def attempt {α : Type} (p : Handler α) : Handler (Except Exn α) :=
  tryCatch (do
    let a ← p
    pure (.ok a)) fun e => pure (.error e)

/-- The rate limit of an address around a handler. -/
def rateLimited (ip : String) (p : Handler Reply) : Handler Reply := do
  let ok ← Prog.perform (Call.allow ip)
  if ok then p else pure (jsonError 429 "invalid_request" "too many requests")

/-- The form content type is required, by a section of a specification. -/
def requireForm (req : HttpRequest) (section_ : String) : Handler Unit :=
  throwIf (req.isForm = false)
    (invalidRequest ("content-type must be application/x-www-form-urlencoded [" ++ section_ ++ "]"))

lemma wp_attempt {α : Type} {pre : List Event → Call → Prop}
    {post : List Event → Except Exn (Except Exn α) → Prop} {past : List Event} {p : Handler α} :
    Prog.wp pre post past (attempt p) ↔ Prog.wp pre (fun q x => post q (.ok x)) past p := by
  unfold attempt
  rw [Prog.wp_tryCatch, Prog.wp_bind]
  refine ⟨Prog.wp_mono fun q x hx => ?_, Prog.wp_mono fun q x hx => ?_⟩
  all_goals
    cases x with
    | ok a => exact hx
    | error e => exact hx

/-- **A handler always replies**: with its own reply, or with the one for its exception. -/
lemma wp_respond {pre : List Event → Call → Prop} {post : List Event → Except Exn Reply → Prop}
    {past : List Event} {p : Handler Reply}
    (h : Prog.wp pre (fun q x => match x with
      | .ok reply => post q (.ok (onSend reply))
      | .error e => post q (.ok (onSend (errorReply e)))) past p) :
    Prog.wp pre post past (respond p) := by
  unfold respond
  rw [Prog.wp_bind, Prog.wp_tryCatch]
  refine Prog.wp_mono (fun q x hx => ?_) h
  cases x with
  | ok reply => exact hx
  | error e => exact hx

@[simp] lemma onSend_status (reply : Reply) : (onSend reply).status = reply.status := by
  unfold onSend
  dsimp only
  split_ifs <;> rfl

@[simp] lemma onSend_body (reply : Reply) : (onSend reply).body = reply.body := by
  unfold onSend
  dsimp only
  split_ifs <;> rfl

/-- The hook keeps the headers of a reply. -/
lemma mem_onSend_headers {reply : Reply} {h : String × String} (hmem : h ∈ reply.headers) :
    h ∈ (onSend reply).headers := by
  unfold onSend
  dsimp only
  split_ifs
  · exact List.mem_append_left _ hmem
  · exact List.mem_append_left _ (List.mem_append_left _ hmem)

/-- Go on after the outcome of a program: after its value, or after its exception. -/
def goOn {α : Type} (pass : α → Handler Reply) (refuse : Exn → Handler Reply) :
    Except Exn α → Handler Reply
  | .ok a => pass a
  | .error e => refuse e

/-- A handler that starts with a program whose exceptions it does not catch leaves them to the error
handler. -/
lemma respond_bind {α : Type} (v : Handler α) (f : α → Handler Reply) :
    respond (v >>= f) =
      attempt v >>= goOn (fun a => respond (f a)) fun e => pure (onSend (errorReply e)) := by
  induction v with
  | ret a => rfl
  | throw e => rfl
  | call o k ih => exact congrArg (Prog.call o) (funext ih)

/-- A handler that starts with a program whose exceptions it keeps as values leaves none to the
error handler. -/
lemma respond_attempt_bind {α : Type} (v : Handler α) (f : Except Exn α → Handler Reply) :
    respond (attempt v >>= f) = attempt v >>= fun x => respond (f x) := by
  induction v with
  | ret a => rfl
  | throw e => rfl
  | call o k ih => exact congrArg (Prog.call o) (funext ih)

/-- What a handler has done is the same inside the error handler. -/
lemma path_respond {p p' : Handler Reply} {es : List Event} (h : Prog.Path p es p') :
    Prog.Path (respond p) es (respond p') := by
  induction h with
  | done p => exact .done _
  | step o k r es p' _ ih => exact .step o (fun r => respond (k r)) r es _ ih

/-! ## Redirects to the client -/

variable (P : Platform)

/-- `url.searchParams.set(k, v)`: the first parameter of the name is replaced and the others of
that name are dropped, or the parameter is added at the end. -/
def setSearchParam (name value : String) : List (String × String) → List (String × String)
  | [] => [(name, value)]
  | e :: l =>
    if e.1 = name then (name, value) :: l.filter (·.1 ≠ name) else e :: setSearchParam name value l

/-- `buildRedirect`: the URI with response parameters in its query, `none` when it is no URL. -/
def buildRedirect (redirectUri : String) (params : List (String × String)) : Option String :=
  (P.newURL redirectUri).map fun url =>
    P.urlToString { url with
      searchParams := params.foldl (fun acc e => setSearchParam e.1 e.2 acc) url.searchParams }

/-- `consentCsp`, `none` when the URI is no URL. -/
def consentCsp (redirectUri : String) : Option String :=
  (P.newURL redirectUri).map fun url => baseCsp ++ " " ++ url.origin

/-- A 303 redirect. -/
def redirectReply (location : String) : Reply :=
  { status := 303, headers := [noStore, ("location", location)] }

/-- An optional member of the response parameters. -/
def responseParam (name : String) (v : Option String) : List (String × String) :=
  (v.map fun v => (name, v)).toList

/-- `redirectError`. -/
def redirectError (redirectUri : String) (error : AuthorizeErrorCode) (description : Option String)
    (state : Option String) (iss : String) : Handler Reply :=
  match buildRedirect P redirectUri ([("error", error.text)] ++
      responseParam "error_description"
        ((description.filter (· ≠ "")).map sanitizeErrorDescription) ++
      responseParam "state" state ++ [("iss", iss)]) with
  | some location => pure (redirectReply location)
  | none => throw .other

/-- `redirectCode`. -/
def redirectCode (redirectUri code : String) (state : Option String) (iss : String) :
    Handler Reply :=
  match buildRedirect P redirectUri ([("code", code)] ++ responseParam "state" state ++
      [("iss", iss)]) with
  | some location => pure (redirectReply location)
  | none => throw .other

/-- `errorPage`: an error that is shown directly. -/
def errorPage (error : AuthorizeErrorCode) (description : String) : Reply :=
  jsonError 400 error.text (sanitizeErrorDescription description)

end Fapi2As
