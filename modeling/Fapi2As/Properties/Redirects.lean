import Fapi2As.Properties.Pushes
import Fapi2As.Sample

set_option relaxedAutoImplicit false
set_option autoImplicit false

/-!
# Where redirects lead

The endpoints that browsers visit redirect to the interaction pages and to clients. A redirect to a
client carries response parameters in the query of a URI that some earlier step stored or validated;
whether it is safe depends on the registration of the client at the time of the redirect.

## Main definitions

* `Fapi2As.Reply.locations`, `Fapi2As.Reply.Redirects` — the targets of a reply.
* `Fapi2As.ResponseUrl` — a URL that differs from a redirect URI in response parameters only.
* `Fapi2As.Redirected` — why a request is redirected.

## Main results

* `Fapi2As.wp_redirects` — a front-channel handler redirects only for one of these reasons.
* `Fapi2As.ServerRun.no_open_redirect` — a redirect leads to an interaction page, or to a redirect
  URI that is registered and that the push named.
-/

namespace Fapi2As

open Js Async

variable {P : Platform} {config : AppConfig} {req : HttpRequest} {past : List Event}

/-! ## The targets of a reply -/

/-- The values of the `location` headers. -/
def Reply.locations (reply : Reply) : List String :=
  (reply.headers.filter (·.1 = "location")).map (·.2)

/-- A reply that redirects: by its status, or by naming a location. -/
def Reply.Redirects (reply : Reply) : Prop :=
  (300 ≤ reply.status ∧ reply.status < 400) ∨ reply.locations ≠ []

/-- The routes that browsers visit. -/
def Route.isFrontChannel : Route → Bool
  | .authorize | .interaction | .interactionLogin | .interactionConsent => true
  | _ => false

@[simp] lemma onSend_locations (reply : Reply) : (onSend reply).locations = reply.locations := by
  unfold onSend Reply.locations
  dsimp only
  split_ifs <;> simp

@[simp] lemma redirectReply_locations (location : String) :
    (redirectReply location).locations = [location] := by
  simp [redirectReply, Reply.locations, noStore]

@[simp] lemma onSend_redirects (reply : Reply) : (onSend reply).Redirects ↔ reply.Redirects := by
  simp [Reply.Redirects]

/-- A page is no redirect. -/
lemma not_redirects {status : ℕ} (hstatus : status < 300 ∨ 400 ≤ status) {headers} {body : Body}
    (hheaders : ∀ e ∈ headers, e.1 ≠ "location") :
    ¬(Reply.mk status headers body).Redirects := by
  rintro (h | h)
  · dsimp only at h
    omega
  · apply h
    simp only [Reply.locations, List.map_eq_nil_iff, List.filter_eq_nil_iff, decide_eq_true_eq]
    exact hheaders

/-! ## Response parameters -/

/-- The names of the response parameters. -/
def responseNames : List String := ["code", "error", "error_description", "state", "iss"]

/-- The parameters of a query that are no response parameters. -/
def ownParams (query : List (String × String)) : List (String × String) :=
  query.filter fun e => !responseNames.contains e.1

/-- A URL that is obtained from a redirect URI by setting response parameters. -/
def ResponseUrl (P : Platform) (redirectUri location : String) : Prop :=
  ∃ url query, P.newURL redirectUri = some url ∧
    location = P.urlToString { url with searchParams := query } ∧
    ownParams query = ownParams url.searchParams

/-- Setting a response parameter keeps the other parameters. -/
lemma ownParams_setSearchParam {name value : String} (h : name ∈ responseNames)
    (query : List (String × String)) :
    ownParams (setSearchParam name value query) = ownParams query := by
  have hname : responseNames.contains name = true := by simpa using h
  unfold ownParams
  induction query with
  | nil => simp [setSearchParam, h]
  | cons e query ih =>
    unfold setSearchParam
    by_cases he : e.1 = name
    · rw [if_pos he, List.filter_cons, List.filter_cons, he, hname, List.filter_filter]
      refine List.filter_congr fun e' _ => ?_
      by_cases he' : e'.1 = name
      · rw [he', hname]
        rfl
      · simp [he']
    · rw [if_neg he, List.filter_cons, List.filter_cons, ih]

/-- **A redirect to a client sets response parameters only.** -/
lemma buildRedirect_responseUrl {redirectUri location : String} {params : List (String × String)}
    (hparams : ∀ e ∈ params, e.1 ∈ responseNames)
    (h : buildRedirect P redirectUri params = some location) :
    ResponseUrl P redirectUri location := by
  obtain ⟨url, hurl, rfl⟩ := Option.map_eq_some_iff.mp h
  refine ⟨url, _, hurl, rfl, ?_⟩
  clear h hurl
  generalize url.searchParams = query
  induction params generalizing query with
  | nil => rfl
  | cons e params ih =>
    rw [List.foldl_cons, ih fun e' he' => hparams e' (List.mem_cons_of_mem _ he')]
    exact ownParams_setSearchParam (hparams e List.mem_cons_self) query

/-- An optional response parameter has its name. -/
lemma responseParam_name {name : String} {v : Option String} {e : String × String}
    (h : e ∈ responseParam name v) : e.1 = name := by
  obtain ⟨_, _, rfl⟩ := Option.map_eq_some_iff.mp (Option.mem_toList.mp h)
  rfl

/-- What the server answers a client: a code, or an error with its description. -/
inductive AuthorizationResponse
  | code (code : String)
  | error (error : AuthorizeErrorCode) (description : Option String)

/-- The parameters of an answer, in the order in which they are set. -/
def AuthorizationResponse.params (state : Option String) (iss : String) :
    AuthorizationResponse → List (String × String)
  | .code value => [("code", value)] ++ responseParam "state" state ++ [("iss", iss)]
  | .error e description => [("error", e.text)] ++
      responseParam "error_description"
        ((description.filter (· ≠ "")).map sanitizeErrorDescription) ++
      responseParam "state" state ++ [("iss", iss)]

/-- A location at which a client is answered, with a state. -/
def ClientLocation (P : Platform) (config : AppConfig) (redirectUri : String)
    (state : Option String) (location : String) : Prop :=
  ∃ response : AuthorizationResponse,
    buildRedirect P redirectUri (response.params state config.issuer) = some location

/-- The answer of a client sets response parameters only. -/
lemma ClientLocation.responseUrl {redirectUri location : String} {state : Option String}
    (h : ClientLocation P config redirectUri state location) :
    ResponseUrl P redirectUri location := by
  obtain ⟨response, hl⟩ := h
  refine buildRedirect_responseUrl (fun e he => ?_) hl
  cases response with
  | code code =>
    simp only [AuthorizationResponse.params, List.mem_append, List.mem_singleton] at he
    rcases he with (rfl | he) | rfl
    · simp [responseNames]
    · simp [responseParam_name he, responseNames]
    · simp [responseNames]
  | error error description =>
    simp only [AuthorizationResponse.params, List.mem_append, List.mem_singleton] at he
    rcases he with ((rfl | he) | he) | rfl
    · simp [responseNames]
    · simp [responseParam_name he, responseNames]
    · simp [responseParam_name he, responseNames]
    · simp [responseNames]

/-! ## Why a request is redirected -/

/-- A pushed request that was live at a clock reading names a redirect URI, which is registered for
the client that was then loaded under the identifier of the push. -/
structure RedirectTrusted (P : Platform) (q : List Event) (requestUri : String)
    (pushed : ParRequestRecord) (client : Client) (redirectUri : String) : Prop where
  /-- The pushed request was live. -/
  peeked : ∃ t, ⟨.now, t⟩ ∈ q ∧ ⟨.db (.parPeek requestUri t), .ok (some pushed)⟩ ∈ q
  /-- The client was loaded under the identifier of the push. -/
  loaded : Loaded P pushed.clientId client q
  /-- The redirect URI is registered. -/
  registered : redirectUri ∈ client.metadata.redirectUris
  /-- The push stored it. -/
  stored : assoc "redirect_uri" pushed.params = some redirectUri

/-- An authorization request names a pushed request and its client. -/
def AuthorizeNames (req : HttpRequest) (requestUri clientId : String) : Prop :=
  req.route = .authorize ∧ str ((authorizeParams req).get "request_uri") = some requestUri ∧
    str ((authorizeParams req).get "client_id") = some clientId

/-- A form names an interaction that is live at a clock reading and parks a pushed request. -/
def InteractionNames (req : HttpRequest) (q : List Event) (id requestUri clientId : String) :
    Prop :=
  str (req.body.get "interaction_id") = some id ∧ ∃ t interaction, ⟨.now, t⟩ ∈ q ∧
    ⟨.db (.interactionsFind id t), .ok (some interaction)⟩ ∈ q ∧
    interaction.requestUri = requestUri ∧ interaction.clientId = clientId

/-- **Why a front-channel request is redirected to a location**, after the calls `q`. -/
inductive Redirected (P : Platform) (config : AppConfig) (req : HttpRequest) (q : List Event)
    (requestUri : String) (pushed : ParRequestRecord) (redirectUri : String) : String → Prop
  /-- A pushed request is parked. -/
  | parked (id : String) (names : AuthorizeNames req requestUri pushed.clientId) :
      Redirected P config req q requestUri pushed redirectUri (interactionLocation P config id)
  /-- A login on an interaction returns to it. -/
  | loggedIn (id : String) (route : req.route = .interactionLogin)
      (names : InteractionNames req q id requestUri pushed.clientId)
      (csrf : verifyCsrfToken P (str (req.body.get "csrf")) id config.sessionSecret = true) :
      Redirected P config req q requestUri pushed redirectUri (interactionLocation P config id)
  /-- An authorization request is answered at the redirect URI. -/
  | answered (location : String) (names : AuthorizeNames req requestUri pushed.clientId)
      (url : ResponseUrl P redirectUri location) :
      Redirected P config req q requestUri pushed redirectUri location
  /-- A consent submission that passed its checks is answered at the redirect URI. -/
  | consented (id : String) (ctx : InteractionContext) (session : LoginSession) (location : String)
      (names : InteractionNames req q id requestUri pushed.clientId)
      (checked : ConsentChecked P config req q id ctx session)
      (url : ResponseUrl P redirectUri location) :
      Redirected P config req q requestUri pushed redirectUri location

/-- The location of a redirect has a reason, about a pushed request whose redirect URI is
trusted. -/
def RedirectJustified (P : Platform) (config : AppConfig) (req : HttpRequest) (q : List Event)
    (location : String) : Prop :=
  ∃ requestUri pushed client redirectUri,
    RedirectTrusted P q requestUri pushed client redirectUri ∧
    Redirected P config req q requestUri pushed redirectUri location

/-- What a front-channel handler guarantees of the redirects in its outcome: a reply redirects to
one location, which has a reason, and no exception is an OAuth error, whose headers could
redirect. -/
def RedirectsSafely (P : Platform) (config : AppConfig) (req : HttpRequest) (q : List Event) :
    Except Exn Reply → Prop
  | .ok reply => reply.Redirects → reply.status = 303 ∧
    ∃ location, reply.locations = [location] ∧ RedirectJustified P config req q location
  | .error e => ∀ o, e ≠ .oauth o

/-- A state as a handler has it from a pushed request: as it is stored, or as it is read back. -/
def ReadState (pushed : ParRequestRecord) (state : Option String) : Prop :=
  state = assoc "state" pushed.params ∨ state = str ((storedBody pushed.params).get "state")

/-- The location of a redirect has a reason, and it is an interaction page or the answer to the
client, with the state of the pushed request. -/
def RedirectedTo (P : Platform) (config : AppConfig) (req : HttpRequest) (q : List Event)
    (location : String) : Prop :=
  ∃ requestUri pushed client redirectUri,
    RedirectTrusted P q requestUri pushed client redirectUri ∧
    Redirected P config req q requestUri pushed redirectUri location ∧
    ((∃ id, location = interactionLocation P config id) ∨
      ∃ state, ReadState pushed state ∧ ClientLocation P config redirectUri state location)

/-- What a front-channel handler guarantees of its redirects, with the answer to the client. -/
def RedirectsTo (P : Platform) (config : AppConfig) (req : HttpRequest) (q : List Event) :
    Except Exn Reply → Prop
  | .ok reply => reply.Redirects → reply.status = 303 ∧
    ∃ location, reply.locations = [location] ∧ RedirectedTo P config req q location
  | .error e => ∀ o, e ≠ .oauth o

lemma RedirectsTo.safely {q : List Event} {reply : Reply}
    (h : RedirectsTo P config req q (.ok reply)) : RedirectsSafely P config req q (.ok reply) := by
  intro hred
  obtain ⟨hstatus, location, hloc, uri, pushed, client, redirectUri, htrusted, hwhy, -⟩ := h hred
  exact ⟨hstatus, location, hloc, uri, pushed, client, redirectUri, htrusted, hwhy⟩

lemma RedirectTrusted.mono {q q' : List Event} {requestUri redirectUri : String}
    {pushed : ParRequestRecord} {client : Client}
    (h : RedirectTrusted P q requestUri pushed client redirectUri) (hq : q <+: q') :
    RedirectTrusted P q' requestUri pushed client redirectUri := by
  obtain ⟨t, hnow, hpeek⟩ := h.peeked
  exact { h with peeked := ⟨t, hq.mem hnow, hq.mem hpeek⟩, loaded := h.loaded.mono hq }

lemma InteractionNames.mono {q q' : List Event} {id requestUri clientId : String}
    (h : InteractionNames req q id requestUri clientId) (hq : q <+: q') :
    InteractionNames req q' id requestUri clientId := by
  obtain ⟨hid, t, interaction, hnow, hfind, hi⟩ := h
  exact ⟨hid, t, interaction, hq.mem hnow, hq.mem hfind, hi⟩

/-- The stored redirect URI of a pushed request that validates is trusted. -/
lemma RedirectTrusted.of_valid {q : List Event} {requestUri : String} {pushed : ParRequestRecord}
    {client : Client} {request : ValidatedAuthorizationRequest} {t : ℕ} (hnow : ⟨.now, t⟩ ∈ q)
    (hpeek : ⟨.db (.parPeek requestUri t), .ok (some pushed)⟩ ∈ q)
    (hl : Loaded P pushed.clientId client q)
    (hvalid : validateAuthorizationRequest (storedBody pushed.params) client = .ok request) :
    RedirectTrusted P q requestUri pushed client request.redirectUri := by
  have hv := Validated.of_eq_ok hvalid
  have hstored := hv.redirect_eq
  rw [get_storedBody] at hstored
  refine ⟨⟨t, hnow, hpeek⟩, hl, by simpa [redirectUriRegistered] using hv.redirect, ?_⟩
  cases ha : assoc "redirect_uri" pushed.params with
  | none => simp [ha, str] at hstored
  | some u =>
    rw [ha] at hstored
    exact congrArg some (str_eq_some hstored)

/-- The redirect URI of an interaction that was loaded is trusted. -/
lemma RedirectTrusted.of_context {q : List Event} {id : String} {t : ℕ}
    {interaction : InteractionRecord} {pushed : ParRequestRecord} {ctx : InteractionContext}
    (hnow : ⟨.now, t⟩ ∈ q) (h : ContextAt P q id t interaction pushed ctx) :
    RedirectTrusted P q interaction.requestUri pushed ctx.client ctx.request.redirectUri :=
  .of_valid hnow h.peeked h.loaded h.valid

/-! ## The handlers -/

/-- A reply that does not redirect is safe. -/
lemma redirectsTo_page {q : List Event} {reply : Reply} (h : ¬reply.Redirects) :
    RedirectsTo P config req q (.ok reply) := fun hr => absurd hr h

/-- An HTML page is safe. -/
lemma redirectsTo_html {q : List Event} {status : ℕ} (h : status < 300 ∨ 400 ≤ status)
    (page : Page) : RedirectsTo P config req q (.ok (htmlReply status page)) :=
  redirectsTo_page (not_redirects h (by simp [noStore]))

/-- An error that is shown directly is safe. -/
lemma redirectsTo_errorPage {q : List Event} (error : AuthorizeErrorCode) (text : String) :
    RedirectsTo P config req q (.ok (errorPage error text)) :=
  redirectsTo_page (not_redirects (by omega) (by simp [noStore]))

/-- A redirect for a reason is safe. -/
lemma redirectsTo_redirectReply {q : List Event} {location : String}
    (h : RedirectedTo P config req q location) :
    RedirectsTo P config req q (.ok (redirectReply location)) :=
  fun _ => ⟨rfl, location, by simp, h⟩

/-- The failure of a call is no OAuth error. -/
lemma other_not_oauth (e : OAuthError) : Exn.other ≠ .oauth e := by simp

lemma wp_redirectError_safe {redirectUri : String} {error : AuthorizeErrorCode}
    {description state : Option String}
    (h : ∀ location, ClientLocation P config redirectUri state location →
      RedirectedTo P config req past location) :
    Prog.wp (fun _ _ => True) (RedirectsTo P config req) past
      (redirectError P redirectUri error description state config.issuer) := by
  unfold redirectError
  split
  · rename_i location hl
    exact redirectsTo_redirectReply (h _ ⟨.error error description, hl⟩)
  · exact other_not_oauth

lemma wp_redirectCode_safe {redirectUri code : String} {state : Option String}
    (h : ∀ location, ClientLocation P config redirectUri state location →
      RedirectedTo P config req past location) :
    Prog.wp (fun _ _ => True) (RedirectsTo P config req) past
      (redirectCode P redirectUri code state config.issuer) := by
  unfold redirectCode
  split
  · rename_i location hl
    exact redirectsTo_redirectReply (h _ ⟨.code code, hl⟩)
  · exact other_not_oauth

/-- **A decision is redirected to the redirect URI of its request**, whatever it is and whatever
becomes of it. -/
lemma wp_decideAndIssue_safe {requestUri description : String} {client : Client}
    {request : ValidatedAuthorizationRequest} {user : AuthenticatedUser} {ua : Option Bool}
    {refusal : AuthorizeErrorCode}
    (h : ∀ q location, past <+: q →
      ClientLocation P config request.redirectUri request.state location →
      RedirectedTo P config req q location) :
    Prog.wp (fun _ _ => True) (RedirectsTo P config req) past
      (decideAndIssue P config requestUri client request user ua refusal description) := by
  have hrefuse : ∀ q, past <+: q → Prog.wp (fun _ _ => True) (RedirectsTo P config req) q
      (now >>= fun t => db (.parConsume requestUri t) >>= fun _ =>
        redirectError P request.redirectUri refusal (some description) request.state
          config.issuer) := by
    intro q hq
    rw [Prog.wp_bind, wp_now]
    refine ⟨trivial, fun t => ?_⟩
    have h1 : past <+: q ++ [⟨.now, t⟩] := hq.trans (List.prefix_append _ _)
    simp only [Prog.Next]
    rw [Prog.wp_bind]
    refine wp_db.mpr ⟨trivial, fun r => ?_, fun _ => other_not_oauth⟩
    exact wp_redirectError_safe fun location => h _ location (h1.trans (List.prefix_append _ _))
  have hissue : ∀ q, past <+: q → Prog.wp (fun _ _ => True) (RedirectsTo P config req) q
      (issueCodeForInteraction P config requestUri client request user) := by
    intro q hq
    unfold issueCodeForInteraction
    rw [Prog.wp_bind, wp_now]
    refine ⟨trivial, fun t => ?_⟩
    have h1 : past <+: q ++ [⟨.now, t⟩] := hq.trans (List.prefix_append _ _)
    simp only [Prog.Next]
    rw [Prog.wp_bind]
    refine wp_db.mpr ⟨trivial, fun consumed => ?_, fun _ => other_not_oauth⟩
    have h2 := h1.trans (List.prefix_append _ [⟨.db (.parConsume requestUri t), .ok consumed⟩])
    cases consumed with
    | none => exact wp_redirectError_safe fun location => h _ location h2
    | some pushed =>
      simp only [Prog.Next]
      rw [Prog.wp_bind]
      exact wp_issueAuthorizationCode (fun _ _ _ => trivial) (fun _ _ => trivial)
        (fun _ _ _ => trivial)
        (fun q' code hq' => wp_redirectCode_safe fun location => h _ location (h2.trans hq'))
        (fun q' _ => other_not_oauth)
  unfold decideAndIssue
  rw [Prog.wp_bind, wp_attempt]
  exact wp_decideAuthorization (fun _ _ _ => trivial) (fun q hq _ _ => hissue q hq) hrefuse
    (fun q e hq => hrefuse q hq)

/-- A pushed request that validates is parked, or answered at its redirect URI. -/
lemma wp_authorizePushed_safe {requestUri : String} {pushed : ParRequestRecord} {client : Client}
    {request : ValidatedAuthorizationRequest}
    (hnames : AuthorizeNames req requestUri pushed.clientId)
    (h : RedirectTrusted P past requestUri pushed client request.redirectUri)
    (hstate : request.state = str ((storedBody pushed.params).get "state")) :
    Prog.wp (fun _ _ => True) (RedirectsTo P config req) past
      (authorizePushed P config req requestUri client request) := by
  have hanswer : ∀ q location, past <+: q →
      ClientLocation P config request.redirectUri request.state location →
      RedirectedTo P config req q location := fun q location hq hurl =>
    ⟨requestUri, pushed, client, request.redirectUri, h.mono hq,
      .answered location hnames hurl.responseUrl, .inr ⟨request.state, .inr hstate, hurl⟩⟩
  unfold authorizePushed
  rw [Prog.wp_bind, wp_now]
  refine ⟨trivial, fun t => ?_⟩
  have h1 : past <+: past ++ [⟨.now, t⟩] := List.prefix_append _ _
  simp only [Prog.Next]
  split_ifs
  · unfold authorizeSilently
    split
    · exact wp_redirectError_safe fun location => hanswer _ location h1
    · exact wp_decideAndIssue_safe fun q location hq => hanswer q location (h1.trans hq)
  · unfold parkRequest
    rw [Prog.wp_bind, wp_randomUUID]
    refine ⟨trivial, fun id => ?_⟩
    simp only [Prog.Next]
    rw [Prog.wp_bind]
    refine (wp_db (q := .interactionsInsert _)).mpr
      ⟨trivial, fun _ => redirectsTo_redirectReply ?_, fun _ => other_not_oauth⟩
    have h2 := h1.trans (List.prefix_append _ [⟨.randomUUID, id⟩])
    exact ⟨requestUri, pushed, client, request.redirectUri,
      h.mono (h2.trans (List.prefix_append _ _)), .parked id hnames, .inl ⟨id, rfl⟩⟩

/-- **The authorization endpoint** redirects to the interaction that it parks, or to a trusted
redirect URI, also when the stored parameters no longer validate. -/
lemma wp_handleAuthorize_safe (hr : req.route = .authorize) :
    Prog.wp (fun _ _ => True) (RedirectsTo P config req) past
      (handleAuthorize P config req (authorizeParams req)) := by
  unfold handleAuthorize
  split_ifs
  · exact redirectsTo_errorPage _ _
  · split
    · exact redirectsTo_errorPage _ _
    · exact redirectsTo_errorPage _ _
    · rename_i uri clientId huri hclient
      rw [Prog.wp_bind, wp_now]
      refine ⟨trivial, fun t => ?_⟩
      simp only [Prog.Next]
      rw [Prog.wp_bind]
      refine wp_db.mpr ⟨trivial, fun found => ?_, fun _ => other_not_oauth⟩
      cases found with
      | none => exact redirectsTo_errorPage _ _
      | some pushed =>
        simp only [Prog.Next]
        split_ifs with hc
        · exact redirectsTo_errorPage _ _
        · obtain rfl := not_not.mp hc
          unfold authorizeFor
          rw [Prog.wp_bind, wp_attempt]
          refine wp_loadClient (fun _ _ _ => trivial) (fun q client hq hl => ?_)
            (fun q _ => redirectsTo_errorPage _ _) (fun q e _ he => ?_)
          · have hnow : ⟨.now, t⟩ ∈ q := hq.mem (List.mem_append_left _ (mem_past_last _ _))
            have hpeek : ⟨.db (.parPeek uri t), .ok (some pushed)⟩ ∈ q := hq.mem (mem_past_last _ _)
            simp only [Prog.Next]
            split
            · -- the raw stored parameter is used once it is found registered
              unfold invalidPushedRequest
              dsimp only
              split
              · exact redirectsTo_errorPage _ _
              · rename_i trusted htrusted
                obtain ⟨hstored, hreg⟩ := Option.filter_eq_some_iff.mp htrusted
                have hmem : trusted ∈ client.metadata.redirectUris := by
                  have h : trusted ≠ "" ∧ redirectUriRegistered client trusted = true := by
                    simpa using hreg
                  simpa [redirectUriRegistered] using h.2
                exact wp_redirectError_safe fun location hurl =>
                  ⟨uri, pushed, client, trusted, ⟨⟨t, hnow, hpeek⟩, hl, hmem, hstored⟩,
                    .answered location ⟨hr, huri, hclient⟩ hurl.responseUrl,
                    .inr ⟨_, .inl rfl, hurl⟩⟩
            · rename_i request hv
              exact wp_authorizePushed_safe ⟨hr, huri, hclient⟩ (.of_valid hnow hpeek hl hv)
                (validated_state hv).1
          · rcases he with rfl | rfl
            · exact other_not_oauth
            · exact redirectsTo_errorPage _ _

/-- The consent page redirects nowhere. -/
lemma wp_showConsent_safe {id : String} {ctx : InteractionContext} {session : LoginSession} :
    Prog.wp (fun _ _ => True) (RedirectsTo P config req) past
      (showConsent P config id ctx session) := by
  unfold showConsent
  rw [Prog.wp_bind]
  refine (wp_db (q := .interactionsSetSubject _ _ _ _ _)).mpr
    ⟨trivial, fun _ => ?_, fun _ => other_not_oauth⟩
  simp only [Prog.Next]
  unfold consentPage
  split
  · exact other_not_oauth
  · exact redirectsTo_page (not_redirects (by simp [htmlReply]) (by simp [htmlReply, noStore]))

/-- **A visit of an interaction is no redirect.** -/
lemma wp_handleInteraction_safe :
    Prog.wp (fun _ _ => True) (RedirectsTo P config req) past
      (handleInteraction P config req) := by
  unfold handleInteraction
  split
  · exact redirectsTo_html (by omega) _
  · rename_i id _
    rw [Prog.wp_bind, wp_now]
    refine ⟨trivial, fun t => ?_⟩
    simp only [Prog.Next]
    rw [Prog.wp_bind]
    refine wp_loadInteractionContext (fun _ _ _ => trivial) (fun q _ _ ctx _ _ => ?_)
      (fun q _ => redirectsTo_html (by omega) _) (fun q _ => other_not_oauth)
    simp only [Prog.Next]
    rw [Prog.wp_bind]
    refine wp_sessionFrom (fun _ _ _ => trivial) (fun q' session _ _ _ => ?_) (fun q' _ => ?_)
    -- whether a session was read or not, the visit ends on one of the two pages
    all_goals
      simp only [Prog.Next]
      rw [Prog.wp_bind, wp_now]
      refine ⟨trivial, fun t' => ?_⟩
      simp only [Prog.Next]
      split
      · exact redirectsTo_html (by omega) _
      · exact wp_showConsent_safe

/-- **A login redirects to its interaction**, after the CSRF check and while the interaction can go
on. -/
lemma wp_handleLogin_safe (hr : req.route = .interactionLogin) :
    Prog.wp (fun _ _ => True) (RedirectsTo P config req) past (handleLogin P config req) := by
  unfold handleLogin
  split
  · exact redirectsTo_html (by omega) _
  · rename_i id hid
    split_ifs with hcsrf
    · exact redirectsTo_html (by omega) _
    · rw [Prog.wp_bind, wp_now]
      refine ⟨trivial, fun t => ?_⟩
      simp only [Prog.Next]
      rw [Prog.wp_bind]
      refine wp_loadInteractionContext (fun _ _ _ => trivial)
        (fun q interaction pushed ctx hq hctx => ?_)
        (fun q _ => redirectsTo_html (by omega) _) (fun q _ => other_not_oauth)
      have hnow : ⟨.now, t⟩ ∈ q := hq.mem (mem_past_last _ _)
      have hnames : InteractionNames req q id interaction.requestUri pushed.clientId :=
        ⟨hid, t, interaction, hnow, hctx.found, rfl, hctx.client_eq.symm⟩
      simp only [Prog.Next]
      rw [Prog.wp_bind]
      refine wp_devLogin (fun _ _ _ => trivial) fun q' found hq' => ?_
      cases found with
      | none => exact redirectsTo_html (by omega) _
      | some user =>
        simp only [Prog.Next]
        rw [Prog.wp_bind, wp_randomBytes]
        refine ⟨trivial, fun sid => ?_⟩
        simp only [Prog.Next]
        rw [Prog.wp_bind, wp_now]
        refine ⟨trivial, fun t' => ?_⟩
        have hpre : q <+: q' ++ [⟨.randomBytes 16, sid⟩] ++ [⟨.now, t'⟩] :=
          (hq'.trans (List.prefix_append _ _)).trans (List.prefix_append _ _)
        intro _
        refine ⟨rfl, interactionLocation P config id, by simp [Reply.locations, noStore], ?_⟩
        exact ⟨interaction.requestUri, pushed, ctx.client, ctx.request.redirectUri,
          (RedirectTrusted.of_context hnow hctx).mono hpre,
          .loggedIn id hr (hnames.mono hpre) (by simpa using hcsrf), .inl ⟨id, rfl⟩⟩

/-- **A consent submission redirects to the redirect URI of its request**, after its session, CSRF
and subject checks. -/
lemma wp_handleConsent_safe (hr : req.route = .interactionConsent) :
    Prog.wp (fun _ _ => True) (RedirectsTo P config req) past (handleConsent P config req) := by
  unfold handleConsent
  split
  · exact redirectsTo_html (by omega) _
  · rename_i id hid
    rw [Prog.wp_bind]
    refine wp_sessionFrom (fun _ _ _ => trivial) (fun q session t _ hs => ?_)
      (fun q _ => redirectsTo_html (by omega) _)
    simp only [Prog.Next]
    split_ifs with hcsrf
    · exact redirectsTo_html (by omega) _
    · rw [Prog.wp_bind, wp_now]
      refine ⟨trivial, fun t' => ?_⟩
      simp only [Prog.Next]
      rw [Prog.wp_bind]
      refine wp_loadInteractionContext (fun _ _ _ => trivial)
        (fun q' interaction pushed ctx hq' hctx => ?_)
        (fun q _ => redirectsTo_html (by omega) _) (fun q _ => other_not_oauth)
      have hnow : ⟨.now, t'⟩ ∈ q' := hq'.mem (mem_past_last _ _)
      have hnames : InteractionNames req q' id interaction.requestUri pushed.clientId :=
        ⟨hid, t', interaction, hnow, hctx.found, rfl, hctx.client_eq.symm⟩
      simp only [Prog.Next]
      split_ifs with hsub
      · exact redirectsTo_html (by omega) _
      · have hc : ConsentChecked P config req q' id ctx session :=
          { route := hr
            interaction := hid
            carries := ⟨t, hs.mono ((List.prefix_append _ _).trans hq')⟩
            csrf := by simpa using hcsrf
            context := hctx.context
            subject := not_not.mp hsub }
        unfold completeAndDecide
        rw [Prog.wp_bind, wp_now]
        refine ⟨trivial, fun t₂ => ?_⟩
        simp only [Prog.Next]
        rw [Prog.wp_bind]
        refine wp_db.mpr ⟨trivial, fun done => ?_, fun _ => other_not_oauth⟩
        cases done with
        | none => exact redirectsTo_html (by omega) _
        | some done =>
          refine wp_decideAndIssue_safe fun q location hq hurl => ?_
          have hpre : q' <+: q :=
            ((List.prefix_append _ _).trans (List.prefix_append _ _)).trans hq
          exact ⟨interaction.requestUri, pushed, ctx.client, ctx.request.redirectUri,
            (RedirectTrusted.of_context hnow hctx).mono hpre,
            .consented id ctx session location (hnames.mono hpre) (hc.mono hpre) hurl.responseUrl,
            .inr ⟨_, .inr (validated_state hctx.valid).1, hurl⟩⟩

/-- **A front-channel request is redirected for a reason only**, and a client is answered with the
state of its pushed request. -/
lemma wp_redirectsTo (h : req.route.isFrontChannel = true) :
    Prog.wp (fun _ _ => True)
      (fun q x => ∃ reply, x = .ok reply ∧ RedirectsTo P config req q (.ok reply)) []
      (handler P config req) := by
  have h404 : ∀ q, RedirectsTo P config req q (.ok notFound) := fun q =>
    redirectsTo_page (not_redirects (by omega) (by simp))
  have hdispatch : Prog.wp (fun _ _ => True) (RedirectsTo P config req) []
      (dispatch P config req) := by
    unfold dispatch
    cases hr : req.route with
    | authorize =>
      dsimp only
      split_ifs
      · exact wp_handleAuthorize_safe hr
      · exact h404 _
    | interaction =>
      dsimp only
      split_ifs
      · exact wp_handleInteraction_safe
      · exact h404 _
    | interactionLogin =>
      dsimp only
      split_ifs
      · exact wp_handleLogin_safe hr
      · exact h404 _
    | interactionConsent =>
      dsimp only
      split_ifs
      · exact wp_handleConsent_safe hr
      · exact h404 _
    | par => simp [hr, Route.isFrontChannel] at h
    | token => simp [hr, Route.isFrontChannel] at h
    | revoke => simp [hr, Route.isFrontChannel] at h
    | introspect => simp [hr, Route.isFrontChannel] at h
    | userinfo => simp [hr, Route.isFrontChannel] at h
    | jwks => simp [hr, Route.isFrontChannel] at h
  refine wp_respond (Prog.wp_mono (fun q x hx => ?_) hdispatch)
  cases x with
  | ok reply =>
    refine ⟨_, rfl, fun hred => ?_⟩
    simpa using hx (by simpa using hred)
  | error e =>
    refine ⟨_, rfl, redirectsTo_page ?_⟩
    rw [onSend_redirects]
    cases e with
    | oauth o => exact absurd rfl (hx o)
    | invalidClientMetadata => exact not_redirects (by omega) (by simp [noStore])
    | jwksUnavailable => exact not_redirects (by omega) (by simp [noStore])
    | jwsVerification => exact not_redirects (by omega) (by simp [noStore])
    | other => exact not_redirects (by omega) (by simp [noStore])

/-- **A front-channel request is redirected for a reason only.** -/
lemma wp_redirects (h : req.route.isFrontChannel = true) :
    Prog.wp (fun _ _ => True)
      (fun q x => ∃ reply, x = .ok reply ∧ RedirectsSafely P config req q (.ok reply)) []
      (handler P config req) := by
  refine Prog.wp_mono (fun q x hx => ?_) (wp_redirectsTo h)
  obtain ⟨reply, rfl, hto⟩ := hx
  exact ⟨reply, rfl, hto.safely⟩

/-! ## Redirects of a run -/

/-- The redirect URI of a stored push is the one that its request named. -/
lemma PushStores.redirect {q : List Event} {rec : ParRequestRecord} {redirectUri : String}
    (h : PushStores P config req q rec) (hu : assoc "redirect_uri" rec.params = some redirectUri) :
    req.route = .par ∧ ∃ client, Authenticated P config req.body client q ∧
      client.clientId = rec.clientId ∧ str (req.body.get "redirect_uri") = some redirectUri := by
  obtain ⟨hroute, client, jkt, hauth, -, _, _, validated, dpopJkt, _, -, hv, -, rfl⟩ := h
  refine ⟨hroute, client, hauth, rfl, ?_⟩
  have hstored : assoc "redirect_uri" (parParams validated dpopJkt) =
      some validated.redirectUri := by
    rw [assoc_parParams (by decide)]
    rfl
  rw [hv.redirect_eq, ← hstored]
  exact hu

namespace ServerRun

variable {backend : Backend} (R : ServerRun P config backend)

/-- The redirect URI that the process `pid` may be redirected to, after `i` steps of a run, on
account of a pushed request: the process found the pushed request live at a clock reading of its
own, the redirect URI is registered verbatim for the client of the push, as the process then loaded
it, and the push that stored the request named it. -/
structure RegisteredRedirect (i pid : ℕ) (requestUri : String) (pushed : ParRequestRecord)
    (redirectUri : String) : Prop where
  /-- The pushed request was live, at a clock reading of the process, when the process read it. -/
  live : ∃ j < i, ∃ p t row, R.Does j pid p ⟨.db (.parPeek requestUri t), .ok (some pushed)⟩ ∧
    (∃ m < i, ∃ p', R.Does m pid p' ⟨.now, t⟩) ∧ (R.store j).par.get? requestUri = some row ∧
    row.record = pushed ∧ row.consumedAt = none ∧ row.record.expiresAt.isPast t = false
  /-- The redirect URI was registered for the client of the push when the process loaded it. -/
  registered : ∃ j < i, ∃ p rec client,
    R.Does j pid p ⟨.db (.clientsFindById pushed.clientId), .ok (some rec)⟩ ∧
    (R.store j).clients.get? pushed.clientId = some rec ∧ rec.toClient P = .ok client ∧
    redirectUri ∈ client.metadata.redirectUris
  /-- The push, by the client, named it. -/
  named : ∃ j < i, ∃ pid' p client, R.Does j pid' p ⟨.db (.parInsert pushed), .ok ()⟩ ∧
    p.req.route = .par ∧ Authenticated P config p.req.body client p.past ∧
    client.clientId = pushed.clientId ∧ str (p.req.body.get "redirect_uri") = some redirectUri
  /-- The pushed request is the one of the reference. -/
  reference : pushed.requestUri = requestUri

/-- A trusted redirect URI of a process is registered. -/
lemma registeredRedirect {i pid : ℕ} {p : Proc (server P config backend)} (hi : i ≤ R.len)
    (hp : R.proc i pid = some p) {requestUri redirectUri : String} {pushed : ParRequestRecord}
    {client : Client} (h : RedirectTrusted P p.past requestUri pushed client redirectUri) :
    R.RegisteredRedirect i pid requestUri pushed redirectUri := by
  obtain ⟨t, hnow, hpeek⟩ := h.peeked
  obtain ⟨j, hj, q, hd, -⟩ := R.did hi hp hpeek
  obtain ⟨m, hm, q', hd', -⟩ := R.did hi hp hnow
  obtain ⟨row, hrow, rfl, hlive⟩ := (R.carried hd).parPeek
  obtain ⟨hu, k, hk, hc⟩ := R.par_origin (by omega) hrow
  obtain ⟨pid', p', _, hpush, hstores⟩ := hc.justified
  obtain ⟨hroute, c, hauth, hc, hname⟩ := hstores.redirect h.stored
  simp only [Memory.parLive, Bool.and_eq_true, Option.isNone_iff_eq_none,
    Bool.not_eq_true'] at hlive
  refine ⟨⟨j, hj, q, t, row, hd, ⟨m, hm, q', hd'⟩, hrow, rfl, hlive.1, hlive.2⟩, ?_,
    ⟨k, by omega, pid', p', c, hpush, hroute, hauth, hc, hname⟩, hu⟩
  obtain ⟨rec, hmem, hrec⟩ := h.loaded
  obtain ⟨j', hj', q'', hd'', -⟩ := R.did hi hp hmem
  exact ⟨j', hj', q'', rec, client, hd'', (R.carried hd'').clientsFindById, hrec, h.registered⟩

/-- **No open redirector.** A front-channel request is redirected to one location only: to an
interaction page of the server, after an authorization request that names a live pushed request, or
a login with a valid CSRF token on an interaction of one; or to a URL that a redirect URI becomes by
setting response parameters, in answer to an authorization request that names the pushed request
and its client, or to a consent submission that passed the session, CSRF and subject checks of its
interaction. In each case the redirect URI of the pushed request is registered for its client, and
the push named it.

**Proof sketch.** Each handler redirects only for a reason (`wp_redirects`), which speaks about the
calls of the request. The peek was made on the tables of some step, whose row a push inserted; the
client was loaded from the tables of some step. -/
theorem no_open_redirect {i pid : ℕ} {past : List Event} {reply : Reply} (hi : i ≤ R.len)
    (hp : R.proc i pid = some ⟨req, past, .ret reply⟩)
    (hroute : req.route.isFrontChannel = true) (hredirect : reply.Redirects) :
    reply.status = 303 ∧ ∃ location, reply.locations = [location] ∧
      ∃ requestUri pushed redirectUri, R.RegisteredRedirect i pid requestUri pushed redirectUri ∧
        ((∃ id, location = interactionLocation P config id ∧
            (AuthorizeNames req requestUri pushed.clientId ∨
              req.route = .interactionLogin ∧
                InteractionNames req past id requestUri pushed.clientId ∧
                verifyCsrfToken P (str (req.body.get "csrf")) id config.sessionSecret = true)) ∨
          ResponseUrl P redirectUri location ∧
            (AuthorizeNames req requestUri pushed.clientId ∨
              ∃ id ctx session, InteractionNames req past id requestUri pushed.clientId ∧
                ConsentChecked P config req past id ctx session)) := by
  have hfront : ∀ r : HttpRequest, Prog.wp (fun _ _ => True)
      (fun q x => r.route.isFrontChannel = true →
        ∃ reply, x = .ok reply ∧ RedirectsSafely P config r q (.ok reply)) []
          (handler P config r) := by
    intro r
    by_cases hr : r.route.isFrontChannel = true
    · exact Prog.wp_mono (fun q x hx _ => hx) (wp_redirects hr)
    · exact Prog.wp_of_forall (fun _ _ => trivial) fun q x h => absurd h hr
  obtain ⟨reply', he, hsafe⟩ := R.answered hfront hi hp hroute
  obtain rfl := Except.ok.inj he
  obtain ⟨hstatus, location, hloc, uri, pushed, client, redirectUri, htrusted, hwhy⟩ :=
    hsafe hredirect
  refine ⟨hstatus, location, hloc, uri, pushed, redirectUri,
    R.registeredRedirect hi hp htrusted, ?_⟩
  cases hwhy with
  | parked id names => exact .inl ⟨id, rfl, .inl names⟩
  | loggedIn id route names csrf => exact .inl ⟨id, rfl, .inr ⟨route, names, csrf⟩⟩
  | answered _ names url => exact .inr ⟨url, .inl names⟩
  | consented id ctx session _ names checked url =>
    exact .inr ⟨url, .inr ⟨id, ctx, session, names, checked⟩⟩

end ServerRun

namespace Sample

/-- The authorization request is answered by a redirect at the end. -/
def redirected (t : List (TraceStep system) × Conf system) : Bool :=
  match t.2.answer 1 with
  | some (r, _, reply) => r.route.isFrontChannel && reply.status = 303
  | none => false

set_option maxRecDepth 4000 in
lemma redirected_trace : (system.trace ⟨world, []⟩ authorized).any redirected = true := by
  decide +kernel

/-- The run of a silent authorization, which ends in a redirect. -/
def redirectedRun : ServerRun platform Sample.config .memory :=
  .ofTrace world authorized world_initial redirected redirected_trace

/-- The redirect of the silent authorization leads to a registered redirect URI. -/
theorem redirected_registered : ∃ req past reply,
    redirectedRun.proc redirectedRun.len 1 = some ⟨req, past, .ret reply⟩ ∧ reply.status = 303 ∧
      ∃ location, reply.locations = [location] ∧ ∃ requestUri pushed redirectUri,
        redirectedRun.RegisteredRedirect redirectedRun.len 1 requestUri pushed redirectUri := by
  obtain ⟨steps, last, ht, h⟩ : ∃ steps last, redirectedRun.HasTrace steps last ∧
    redirected (steps, last) = true := Run.hasTrace_ofTrace redirected_trace
  unfold redirected at h
  split at h
  · rename_i req past reply hanswer
    have hp : redirectedRun.proc redirectedRun.len 1 = some ⟨req, past, .ret reply⟩ := by
      rw [Run.proc, ht.last]
      exact Conf.answer_eq_some.mp hanswer
    have h : req.route.isFrontChannel = true ∧ reply.status = 303 := by simpa using h
    obtain ⟨hstatus, location, hloc, uri, pushed, redirectUri, hreg, -⟩ :=
      ServerRun.no_open_redirect redirectedRun le_rfl hp h.1 (.inl (by omega))
    exact ⟨req, past, reply, hp, hstatus, location, hloc, uri, pushed, redirectUri, hreg⟩
  · cases h

end Sample

end Fapi2As
