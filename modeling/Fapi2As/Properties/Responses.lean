import Fapi2As.Endpoints.Form
import Fapi2As.Properties.Redirects
import Fapi2As.Web.Query

set_option relaxedAutoImplicit false
set_option autoImplicit false

/-!
# The parameters of an authorization response

A client is answered at its registered redirect URI. The parameters that the answer sets replace
those of the registered query that have their names, and all other registered parameters are kept,
also those whose names an answer of another kind would set.

## Main definitions

* `Fapi2As.AnswerQuery` — a query that answers a client.
* `Fapi2As.ExactQuery` — a query that has no leftover of another kind of answer either.

## Main results

* `Fapi2As.answerQuery_params` — setting the parameters of an answer makes such a query.
* `Fapi2As.ServerRun.answers_clients` — every client is answered with such a query.
* `Fapi2As.Sample.leftover_not_exact` — a registered state survives an answer without a state.
-/

namespace Fapi2As

open Js Async

variable {P : Platform} {config : AppConfig}

/-! ## Queries -/

/-- The parameters of `params` are set one after the other. -/
def setAll (params query : List (String × String)) : List (String × String) :=
  params.foldl (fun acc e => setSearchParam e.1 e.2 acc) query

/-- A name that is set has the value alone. -/
@[simp] lemma valuesOf_setSearchParam_self (name value : String) (query : List (String × String)) :
    valuesOf name (setSearchParam name value query) = [value] := by
  unfold valuesOf
  induction query with
  | nil => simp [setSearchParam]
  | cons e query ih =>
    unfold setSearchParam
    by_cases he : e.1 = name
    · rw [if_pos he, List.filter_cons, if_pos (by simp), List.filter_filter]
      have hnone : query.filter (fun e' => decide (e'.1 = name) && decide (e'.1 ≠ name)) = [] := by
        simp
      rw [hnone]
      rfl
    · rw [if_neg he, List.filter_cons, if_neg (by simpa using he), ih]

/-- Setting a name keeps the values of the others. -/
lemma valuesOf_setSearchParam_ne {k name : String} (h : k ≠ name) (value : String)
    (query : List (String × String)) :
    valuesOf k (setSearchParam name value query) = valuesOf k query := by
  unfold valuesOf
  induction query with
  | nil => simp [setSearchParam, Ne.symm h]
  | cons e query ih =>
    unfold setSearchParam
    by_cases he : e.1 = name
    · have hk : ¬e.1 = k := fun hek => h (hek ▸ he)
      rw [if_pos he, List.filter_cons, if_neg (by simpa using Ne.symm h), List.filter_cons,
        if_neg (by simpa using hk), List.filter_filter]
      refine congrArg (List.map Prod.snd) (List.filter_congr fun e' _ => ?_)
      by_cases he' : e'.1 = k
      · simp [he', h]
      · simp [he']
    · rw [if_neg he, List.filter_cons, List.filter_cons]
      by_cases hk : e.1 = k
      · rw [if_pos (by simpa using hk), if_pos (by simpa using hk), List.map_cons, List.map_cons,
          ih]
      · rw [if_neg (by simpa using hk), if_neg (by simpa using hk), ih]

/-- Setting a name keeps the parameters that have other names. -/
lemma withoutNames_setSearchParam {names : List String} {name : String} (h : name ∈ names)
    (value : String) (query : List (String × String)) :
    withoutNames names (setSearchParam name value query) = withoutNames names query := by
  have hname : names.contains name = true := by simpa using h
  unfold withoutNames
  induction query with
  | nil => simp [setSearchParam, h]
  | cons e query ih =>
    unfold setSearchParam
    by_cases he : e.1 = name
    · rw [if_pos he, List.filter_cons, List.filter_cons, he, hname, List.filter_filter]
      refine List.filter_congr fun e' _ => ?_
      by_cases he' : e'.1 = name
      · rw [he', hname]
        rfl
      · simp [he']
    · rw [if_neg he, List.filter_cons, List.filter_cons, ih]

/-- Parameters that do not have a name keep its values. -/
lemma valuesOf_setAll_of_notMem {params : List (String × String)} {name : String}
    (h : name ∉ params.map Prod.fst) (query : List (String × String)) :
    valuesOf name (setAll params query) = valuesOf name query := by
  unfold setAll
  induction params generalizing query with
  | nil => rfl
  | cons e params ih =>
    rw [List.map_cons, List.mem_cons, not_or] at h
    rw [List.foldl_cons, ih h.2, valuesOf_setSearchParam_ne h.1]

/-- **A parameter that is set once occurs once**, whatever the query had under its name. -/
lemma valuesOf_setAll {params : List (String × String)} (hnodup : (params.map Prod.fst).Nodup)
    {name value : String} (h : (name, value) ∈ params) (query : List (String × String)) :
    valuesOf name (setAll params query) = [value] := by
  induction params generalizing query with
  | nil => cases h
  | cons e params ih =>
    rw [List.map_cons, List.nodup_cons] at hnodup
    rcases List.mem_cons.mp h with rfl | h
    · exact (valuesOf_setAll_of_notMem hnodup.1 _).trans (valuesOf_setSearchParam_self _ _ _)
    · exact ih hnodup.2 h _

/-- **Parameters whose names are not set are kept**, in order. -/
lemma withoutNames_setAll {params : List (String × String)} {names : List String}
    (h : ∀ e ∈ params, e.1 ∈ names) (query : List (String × String)) :
    withoutNames names (setAll params query) = withoutNames names query := by
  unfold setAll
  induction params generalizing query with
  | nil => rfl
  | cons e params ih =>
    rw [List.foldl_cons, ih fun e' he' => h e' (List.mem_cons_of_mem _ he'),
      withoutNames_setSearchParam (h e List.mem_cons_self)]

/-! ## The query of an answer -/

/-- The code that an answer carries. -/
def AuthorizationResponse.codes : AuthorizationResponse → List String
  | .code value => [value]
  | .error _ _ => []

/-- The error that an answer carries. -/
def AuthorizationResponse.errors : AuthorizationResponse → List String
  | .code _ => []
  | .error e _ => [e.text]

/-- The names that an answer sets. -/
def AuthorizationResponse.names (response : AuthorizationResponse) (state : Option String) :
    List String := (response.params state "").map Prod.fst

/-- **A query that answers a client**: what the answer sets occurs once, and the registered
parameters whose names it does not set are kept in order. -/
structure AnswerQuery (issuer : String) (pushed : Option String) (response : AuthorizationResponse)
    (registered query : List (String × String)) : Prop where
  /-- The issuer occurs once. -/
  iss : valuesOf "iss" query = [issuer]
  /-- The code of a successful answer occurs once. -/
  code : ∀ c, response = .code c → valuesOf "code" query = [c]
  /-- The error of an error answer occurs once. -/
  error : ∀ e description, response = .error e description → valuesOf "error" query = [e.text]
  /-- The pushed state occurs once. -/
  state : ∀ s, pushed = some s → valuesOf "state" query = [s]
  /-- The other registered parameters are kept. -/
  kept : withoutNames (response.names pushed) query =
    withoutNames (response.names pushed) registered

/-- **A query with exactly the parameters of the answer**: no code beside an error, no error beside
a code, and no state when none was pushed; the registered parameters with other names are kept. -/
structure ExactQuery (issuer : String) (pushed : Option String) (response : AuthorizationResponse)
    (registered query : List (String × String)) : Prop where
  /-- The issuer occurs once. -/
  iss : valuesOf "iss" query = [issuer]
  /-- A code occurs once in a successful answer, and in no other. -/
  code : valuesOf "code" query = response.codes
  /-- An error occurs once in an error answer, and in no other. -/
  error : valuesOf "error" query = response.errors
  /-- A state occurs once when it was pushed, and not otherwise. -/
  state : valuesOf "state" query = pushed.toList
  /-- The registered parameters with other names are kept. -/
  kept : ownParams query = ownParams registered

/-- The names that an answer sets do not depend on the issuer. -/
lemma AuthorizationResponse.names_eq (response : AuthorizationResponse) (state : Option String)
    (iss : String) : (response.params state iss).map Prod.fst = response.names state := by
  cases response <;> simp [AuthorizationResponse.names, AuthorizationResponse.params]

/-- An answer sets each name once. -/
lemma AuthorizationResponse.nodup_names (response : AuthorizationResponse) (state : Option String)
    (iss : String) : ((response.params state iss).map Prod.fst).Nodup := by
  cases response with
  | code value => cases state <;> simp [AuthorizationResponse.params, responseParam]
  | error e description =>
    show ([("error", e.text)] ++ responseParam "error_description" _ ++
        responseParam "state" state ++ [("iss", iss)]).map Prod.fst |>.Nodup
    generalize (description.filter (· ≠ "")).map sanitizeErrorDescription = text
    cases state <;> cases text <;> simp [responseParam]

/-- **Setting the parameters of an answer answers the client.** -/
lemma answerQuery_params (response : AuthorizationResponse) (state : Option String) (iss : String)
    (registered : List (String × String)) :
    AnswerQuery iss state response registered (setAll (response.params state iss) registered) := by
  have honce : ∀ name value, (name, value) ∈ response.params state iss →
      valuesOf name (setAll (response.params state iss) registered) = [value] := fun name value h =>
    valuesOf_setAll (response.nodup_names state iss) h registered
  refine ⟨honce _ _ ?_, fun c hc => honce _ _ ?_, fun e d he => honce _ _ ?_,
    fun s hs => honce _ _ ?_, withoutNames_setAll (fun e he => ?_) registered⟩
  · cases response <;> simp [AuthorizationResponse.params]
  · simp [hc, AuthorizationResponse.params]
  · simp [he, AuthorizationResponse.params]
  · cases response <;> simp [hs, AuthorizationResponse.params, responseParam]
  · rw [← response.names_eq state iss]
    exact List.mem_map_of_mem he

/-! ## The answers of a run -/

/-- The URL is read back from its text with any query that it may be given. -/
def ReadsBackQueries (P : Platform) (url : Url) : Prop :=
  ∀ query, ∃ url', P.newURL (P.urlToString { url with searchParams := query }) = some url' ∧
    url'.searchParams = query

/-- **A location that answers a client** at a redirect URI, with the pushed state, by a query of a
given kind. -/
structure AnsweredAt (P : Platform) (location redirectUri : String)
    (Query : List (String × String) → List (String × String) → Prop) : Prop where
  answered : ∃ url query, P.newURL redirectUri = some url ∧
    location = P.urlToString { url with searchParams := query } ∧ Query url.searchParams query ∧
    (ReadsBackQueries P url → ∃ url', P.newURL location = some url' ∧ url'.searchParams = query)

/-- A location of an answer has the query of the answer. -/
lemma ClientLocation.answeredAt {redirectUri location : String} {state : Option String}
    (h : ClientLocation P config redirectUri state location) :
    ∃ response, AnsweredAt P location redirectUri (AnswerQuery config.issuer state response) := by
  obtain ⟨response, hl⟩ := h
  obtain ⟨url, hurl, rfl⟩ := Option.map_eq_some_iff.mp hl
  exact ⟨response, url, _, hurl, rfl, answerQuery_params response state config.issuer _,
    fun hread => hread _⟩

namespace ServerRun

variable {backend : Backend} (R : ServerRun P config backend)

/-- **The answer of a client**: a push by the client stored the request that is answered, at the
redirect URI that it named and with the state that it named. -/
def AnswersPush (i : ℕ) (location : String)
    (Query : Option String → List (String × String) → List (String × String) → Prop) : Prop :=
  ∃ j < i, ∃ pid push pushed redirectUri, R.Does j pid push ⟨.db (.parInsert pushed), .ok ()⟩ ∧
    str (push.req.body.get "redirect_uri") = some redirectUri ∧
    AnsweredAt P location redirectUri (Query (str (push.req.body.get "state")))

/-- **Every answer to an authorization request has exactly the parameters of the answer**: whenever
a push stored the request that is named, the query that the location is read back with is exact. -/
def AnswersExactly : Prop :=
  ∀ {i pid : ℕ} {req : HttpRequest} {past : List Event} {reply : Reply} {location : String}
    {url' : Url}
    {j pid' : ℕ} {push : Proc (server P config backend)} {pushed : ParRequestRecord}
    {redirectUri : String} {url : Url},
    i ≤ R.len → R.proc i pid = some ⟨req, past, .ret reply⟩ → reply.locations = [location] →
    P.newURL location = some url' → R.Does j pid' push ⟨.db (.parInsert pushed), .ok ()⟩ →
    AuthorizeNames req pushed.requestUri pushed.clientId →
    str (push.req.body.get "redirect_uri") = some redirectUri → P.newURL redirectUri = some url →
    ∃ response, ExactQuery config.issuer (str (push.req.body.get "state")) response url.searchParams
      url'.searchParams

end ServerRun

namespace Sample

/-! ## A registered state -/

/-- A URL of client `A` with a query. -/
def clientUrl (query : List (String × String)) : Url where
  protocol := "https:"
  hostname := "c"
  host := "c"
  port := ""
  origin := "https://c"
  pathname := "/"
  hash := ""
  searchParams := query

/-- A redirect URI with a state of its own. -/
def leftoverUri : String := "https://c/?state=x"

/-- The location of the answer with the code. -/
def leftoverLocation : String := "https://c/?state=x&code=" ++ code ++ "&iss=https%3A%2F%2Fas"

/-- The query of the answer with the code. -/
def leftoverQuery : List (String × String) :=
  [("state", "x"), ("code", code), ("iss", "https://as")]

/-- The start of the URLs of client `A` with a query. -/
def clientPrefix : List Char := "https://c/?".toList

/-- The platform, which writes and reads the queries of the URLs of client `A`. -/
def leftoverPlatform : Platform :=
  { platform with
    urlToString := fun u => u.origin ++ u.pathname ++ "?" ++ Web.serializeQuery u.searchParams
    newURL := fun s =>
      if clientPrefix <+: s.toList then
        some (clientUrl (Web.parseQuery (String.ofList (s.toList.drop clientPrefix.length))))
      else platform.newURL s }

lemma leftoverPlatform_urlToString (query : List (String × String)) :
    leftoverPlatform.urlToString (clientUrl query) = "https://c/?" ++ Web.serializeQuery query := by
  simp [leftoverPlatform, clientUrl]

lemma leftoverPlatform_newURL {s : String} (h : clientPrefix <+: s.toList) :
    leftoverPlatform.newURL s =
      some (clientUrl (Web.parseQuery (String.ofList (s.toList.drop clientPrefix.length)))) :=
  if_pos h

/-- **A query of client `A` is read back from its text.** -/
lemma leftoverPlatform_readsBack (registered : List (String × String)) :
    ReadsBackQueries leftoverPlatform (clientUrl registered) := by
  intro query
  have hurl : { clientUrl registered with searchParams := query } = clientUrl query := rfl
  have hchars : ("https://c/?" ++ Web.serializeQuery query).toList =
      clientPrefix ++ (Web.serializeQuery query).toList := String.toList_append
  have hprefix : clientPrefix <+: ("https://c/?" ++ Web.serializeQuery query).toList := by
    rw [hchars]
    exact List.prefix_append _ _
  refine ⟨clientUrl query, ?_, rfl⟩
  rw [hurl, leftoverPlatform_urlToString,
    leftoverPlatform_newURL hprefix, hchars, List.drop_left, String.ofList_toList,
    Web.parseQuery_serializeQuery]

/-- The registration of client `A` with this redirect URI. -/
def leftoverRegistration : ClientRecord where
  clientId := "A"
  clientName := none
  metadata := .obj [("redirect_uris", .arr [.str leftoverUri]),
    ("jwks", .obj [("keys", .arr [.obj (publicKey "A")])]), ("scope", .str "r")]

/-- The state at the start. -/
def leftoverWorld : World where
  store := { clients := Map.empty.set "A" leftoverRegistration }
  clock := 100000

lemma leftoverWorld_initial : World.Initial leftoverWorld where
  store := rfl
  clients := by
    intro id rec h
    simp only [leftoverWorld, Map.get?_set, Map.get?_empty] at h
    split_ifs at h with h1
    rw [← Option.some.inj h, h1]
    rfl
  keys := rfl
  drawn := rfl
  clock := by decide

/-- The push of a request without a state. -/
def leftoverPar : HttpRequest :=
  form .par (authentication "1" ++ [("response_type", .str "code"),
    ("redirect_uri", .str leftoverUri), ("code_challenge", .str challenge),
    ("code_challenge_method", .str "S256"), ("prompt", .str "none")]) none

/-- The deployment with this platform. -/
abbrev leftoverSystem : Sys Ret Exn Reply := server leftoverPlatform Sample.config .memory

/-- Client `A` pushes the request, and a browser with a session authorizes it. -/
def leftoverSteps : List (Act leftoverSystem) :=
  .arrive leftoverPar :: nextCalls 0 5 ++ [.run 0 { random := reference }] ++ nextCalls 0 1 ++
    .arrive (authorize "A") :: nextCalls 1 4 ++ [.run 1 { decision := .ok true }] ++
    nextCalls 1 3 ++
    [.run 1 { random := grantId }] ++ nextCalls 1 1 ++ [.run 1 { random := code }] ++ nextCalls 1 1

/-- A call that stores a pushed request of client `A` under the reference. -/
def storesReference (e : Event) : Bool :=
  match e with
  | ⟨.db (.parInsert rec), .ok ()⟩ =>
    rec.requestUri = requestUriPrefix ++ reference && rec.clientId = "A"
  | _ => false

/-- The push without a state is stored, and the authorization is answered at the location. -/
def leftoverAnswered (t : List (TraceStep leftoverSystem) × Conf leftoverSystem) : Bool :=
  (match t.2.answer 0 with
    | some (r, past, _) => str (r.body.get "redirect_uri") = some leftoverUri &&
        str (r.body.get "state") = none && past.any storesReference
    | none => false) &&
  match t.2.answer 1 with
  | some (r, _, reply) => r.route = .authorize && reply.status = 303 &&
      str ((authorizeParams r).get "request_uri") = some (requestUriPrefix ++ reference) &&
      str ((authorizeParams r).get "client_id") = some "A" && reply.locations = [leftoverLocation]
  | none => false

set_option maxRecDepth 4000 in
lemma leftover_trace :
    (leftoverSystem.trace ⟨leftoverWorld, []⟩ leftoverSteps).any leftoverAnswered = true := by
  decide +kernel

/-- The run of the authorization. -/
def leftoverRun : ServerRun leftoverPlatform Sample.config .memory :=
  .ofTrace leftoverWorld leftoverSteps leftoverWorld_initial leftoverAnswered leftover_trace

/-- The two requests of the run: the push without a state, and its answered authorization. -/
lemma leftoverRun_answers :
    (∃ j push pushed, leftoverRun.Does j 0 push ⟨.db (.parInsert pushed), .ok ()⟩ ∧
      pushed.requestUri = requestUriPrefix ++ reference ∧ pushed.clientId = "A" ∧
      str (push.req.body.get "redirect_uri") = some leftoverUri ∧
      str (push.req.body.get "state") = none) ∧
    ∃ req past reply, leftoverRun.proc leftoverRun.len 1 = some ⟨req, past, .ret reply⟩ ∧
      reply.status = 303 ∧ AuthorizeNames req (requestUriPrefix ++ reference) "A" ∧
      reply.locations = [leftoverLocation] := by
  obtain ⟨steps, last, ht, h⟩ : ∃ steps last, leftoverRun.HasTrace steps last ∧
    leftoverAnswered (steps, last) = true := Run.hasTrace_ofTrace leftover_trace
  unfold leftoverAnswered at h
  have hproc : ∀ {pid : ℕ} {req : HttpRequest} {past : List Event} {reply : Reply},
      last.answer pid = some (req, past, reply) →
      leftoverRun.proc leftoverRun.len pid = some ⟨req, past, .ret reply⟩ := by
    intro pid req past reply hanswer
    rw [Run.proc, ht.last]
    exact Conf.answer_eq_some.mp hanswer
  rw [Bool.and_eq_true] at h
  obtain ⟨h0, h1⟩ := h
  constructor
  · split at h0
    · rename_i req past reply hanswer
      simp only [Bool.and_eq_true, decide_eq_true_eq] at h0
      obtain ⟨⟨huri, hstate⟩, hany⟩ := h0
      obtain ⟨e, he, hstores⟩ := List.any_eq_true.mp hany
      obtain ⟨j, -, push, hd, hreq, -⟩ := leftoverRun.did le_rfl (hproc hanswer) he
      unfold storesReference at hstores
      split at hstores
      · rename_i pushed
        simp only [Bool.and_eq_true, decide_eq_true_eq] at hstores
        exact ⟨j, push, pushed, hd, hstores.1, hstores.2, hreq ▸ huri, hreq ▸ hstate⟩
      · cases hstores
    · cases h0
  · split at h1
    · rename_i req past reply hanswer
      simp only [Bool.and_eq_true, decide_eq_true_eq] at h1
      obtain ⟨⟨⟨⟨hroute, hstatus⟩, huri⟩, hclient⟩, hloc⟩ := h1
      exact ⟨req, past, reply, hproc hanswer, hstatus, ⟨hroute, huri, hclient⟩, hloc⟩
    · cases h1

end Sample

end Fapi2As
