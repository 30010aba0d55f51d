import Fapi2As.Async.RelyGuarantee
import Fapi2As.Db.Texts
import Fapi2As.Endpoints.Routes

set_option relaxedAutoImplicit false
set_option autoImplicit false

/-!
# What requests hand to the storage

Most texts that reach the storage come from rows, from random values, from hashes and from values
that were matched against a class of characters, and none of these holds U+0000. A few are handed
over as they stand in the request: the address of a pushed request, the unverified subject of an
assertion, a redirect URI and a prompt, the id of an interaction, what a session says, the id of a
verified token.

## Main definitions

* `Fapi2As.Handed` — the texts of a request that a call takes over as they are.
* `Fapi2As.Guarded` — a call passes those, and else only texts without U+0000.
* `Fapi2As.Careful` — a program that makes guarded calls.

## Main results

* `Fapi2As.careful_handler` — every handler makes guarded calls.
-/

namespace Fapi2As

open Js Async

/-! ## Texts of a request -/

/-- The endpoints that authenticate clients. -/
def Route.authenticatesClients : Route → Bool
  | .par | .token | .revoke | .introspect => true
  | _ => false

/-- The interaction that a request names. -/
def HttpRequest.interactionId (req : HttpRequest) : Option String :=
  match req.route with
  | .interaction => str (req.query.get "id")
  | .interactionLogin | .interactionConsent => str (req.body.get "interaction_id")
  | _ => none

/-- The token that a request presents to be looked up. -/
def HttpRequest.presentedToken (req : HttpRequest) : Option String :=
  match req.route with
  | .revoke | .introspect => str (req.body.get "token")
  | .userinfo => req.authorization.bind dpopCredentials
  | _ => none

/-- What a session says of its user. -/
def LoginSession.texts (session : LoginSession) : List String :=
  session.sub :: (session.acr.toList ++ session.amr.toList).flatMap jsonTexts

section

variable (P : Platform) (config : AppConfig) (req : HttpRequest)

/-- **The texts that a call takes over from the request** as they stand there, unchecked. -/
inductive Handed : Query → String → Prop
  /-- The address of a pushed request that is to be authorized. -/
  | requestUri {uri : String} {t : ℕ} {s : String} (hroute : req.route = .authorize)
      (h : str ((authorizeParams req).get "request_uri") = some s) : Handed (.parPeek uri t) s
  /-- The subject of a client assertion, before it is verified. -/
  | subject {id assertion s : String} (hroute : req.route.authenticatesClients = true)
      (h : presentedAssertion req.body req.authorization = .ok assertion)
      (hs : decodeSubjectHint P assertion = some s) : Handed (.clientsFindById id) s
  /-- The redirect URI of a push. -/
  | redirectUri {rec : ParRequestRecord} {s : String}
      (h : str (req.body.get "redirect_uri") = some s) : Handed (.parInsert rec) s
  /-- The prompt of a push. -/
  | prompt {rec : ParRequestRecord} {s : String} (h : str (req.body.get "prompt") = some s) :
      Handed (.parInsert rec) s
  /-- The id of an interaction. -/
  | interaction {id : String} {t : ℕ} {s : String} (h : req.interactionId = some s) :
      Handed (.interactionsFind id t) s
  /-- What the session of a visit says of its user. -/
  | session {id subject : String} {authTime : Date} {acr amr : Option Json} {nowSec : ℕ}
      {session : LoginSession} {s : String} (h : sessionAt P config req nowSec = some session)
      (hs : s ∈ session.texts) : Handed (.interactionsSetSubject id subject authTime acr amr) s
  /-- The subject of the session of an authorization. -/
  | grantSubject {rec : GrantRecord} {nowSec : ℕ} {session : LoginSession}
      (h : sessionAt P config req nowSec = some session) : Handed (.grantsInsert rec) session.sub
  /-- The id of a token that verifies as one of the server. -/
  | jti {jti token : String} {keys : List Json} {s : String} (h : req.presentedToken = some token)
      (hs : verifiedJti P config token keys = some s) : Handed (.accessTokensFindByJti jti) s

/-- **A guarded call** passes the texts that it takes over from the request, and else only texts
without U+0000. -/
def Guarded : Call → Prop
  | .db q => (∀ t ∈ q.strings, NulFree t ∨ Handed P config req q t) ∧
      ∀ t, Handed P config req q t → t ∈ q.strings
  | _ => True

end

/-- The answers that can be relied on: those of calls without U+0000, and random values. -/
def Relied : (o : Call) → Ret o → Prop
  | .db q, r => ∀ a, r = .ok a → q.NulFree ∧ q.ResNulFree a
  | .randomUUID, s => NulFree s
  | .randomBytes _, s => NulFree s
  | _, _ => True

/-- **A careful program** makes guarded calls, and returns what meets a postcondition. -/
abbrev Careful (P : Platform) (config : AppConfig) (req : HttpRequest) {α : Type} (post : α → Prop)
    (p : Handler α) : Prop := p.Keeps (Guarded P config req) Relied post

variable {P : Platform} {config : AppConfig} {req : HttpRequest} {α : Type}

/-- A call that takes nothing over and passes no text with U+0000. -/
lemma guarded_of_nulFree {q : Query} (h : q.NulFree) (hno : ∀ t, ¬Handed P config req q t) :
    Guarded P config req (.db q) :=
  ⟨fun t ht => .inl (h t ht), fun t ht => absurd ht (hno t)⟩

/-! ## Calls -/

lemma careful_now : Careful P config req (fun _ => True) now :=
  Prog.keeps_perform trivial fun _ _ => trivial

lemma careful_randomUUID : Careful P config req NulFree randomUUID :=
  Prog.keeps_perform trivial fun _ h => h

lemma careful_randomBytes (n : ℕ) : Careful P config req NulFree (randomBytes n) :=
  Prog.keeps_perform trivial fun _ h => h

lemma careful_awaited {x : Except Fault α} :
    Careful P config req (fun a => x = .ok a) (awaited x) :=
  Prog.keeps_settle fun _ h => h

lemma careful_settle {φ : Type} {wrap : φ → Exn} {x : Except φ α} :
    Careful P config req (fun a => x = .ok a) (Prog.settle wrap x : Handler α) :=
  Prog.keeps_settle fun _ h => h

lemma careful_throwIf {c : Prop} [Decidable c] {e : OAuthError} :
    Careful P config req (fun _ => ¬c) (throwIf c e) := Prog.keeps_throwIf fun h => h

lemma careful_db {q : Query} (h : Guarded P config req (.db q)) :
    Careful P config req (fun a => q.NulFree ∧ q.ResNulFree a) (db q) :=
  (Prog.keeps_perform h fun _ hr => hr : Careful P config req (fun r => Relied (.db q) r)
    (Prog.perform (Call.db q))).bind fun _ hr => Prog.keeps_settle hr

/-- A call of another kind than a repository call. -/
lemma careful_perform {o : Call} (h : Guarded P config req o) :
    Careful P config req (fun _ => True) (Prog.perform o) := Prog.keeps_perform h fun _ _ => trivial

lemma careful_attempt {post : α → Prop} {p : Handler α} (h : Careful P config req post p) :
    Careful P config req (fun r => ∀ a, r = .ok a → post a) (attempt p) := by
  refine Prog.Keeps.tryCatch (fun e => ?_) (h.bind fun a ha => ?_)
  · exact fun a ha => by cases ha
  · exact fun b hb => Except.ok.inj hb ▸ ha

/-! ## Clients -/

/-- A client that is loaded has the identifier that it was looked up with. -/
lemma careful_loadClient {clientId : String}
    (h : Guarded P config req (.db (.clientsFindById clientId))) :
    Careful P config req (fun r => ∀ client, r = some client → client.clientId = clientId ∧
      NulFree clientId) (loadClient P clientId) := by
  unfold loadClient
  split_ifs
  · exact fun client hc => by cases hc
  · refine (careful_db h).bind fun rec hrec => ?_
    obtain ⟨hfree, hid⟩ := hrec
    cases rec with
    | none => exact fun client hc => by cases hc
    | some rec =>
      refine careful_settle.bind fun client hclient => fun c hc => ?_
      obtain rfl := Option.some.inj hc
      exact ⟨(rec.toClient_clientId hclient).trans (hid rec rfl),
        hfree clientId (by simp [Query.strings, Pg.texts])⟩

/-- The subject of the assertion of a request is handed to the look-up of the client. -/
lemma guarded_subject {assertion hint : String} (hroute : req.route.authenticatesClients = true)
    (h : presentedAssertion req.body req.authorization = .ok assertion)
    (hs : decodeSubjectHint P assertion = some hint) :
    Guarded P config req (.db (.clientsFindById hint)) := by
  refine ⟨fun t ht => .inr ?_, fun t ht => ?_⟩
  · obtain rfl : t = hint := by simpa [Query.strings, Query.values, Pg.texts] using ht
    exact .subject hroute h hs
  · cases ht with
    | subject _ h' hs' =>
      obtain rfl := Except.ok.inj (h.symm.trans h')
      obtain rfl := Option.some.inj (hs.symm.trans hs')
      simp [Query.strings, Pg.texts]

lemma careful_locateClient {assertion : String} (hroute : req.route.authenticatesClients = true)
    (h : presentedAssertion req.body req.authorization = .ok assertion) :
    Careful P config req (fun client => NulFree client.clientId) (locateClient P assertion) := by
  unfold locateClient
  refine Prog.Keeps.bind (?_ : Careful P config req
    (fun r => ∀ client, r = some client → NulFree client.clientId) _) fun found hf => ?_
  · refine Prog.Keeps.tryCatch ?_ ?_
    · exact fun _ => trivial
    split
    · rename_i hint hs
      refine (careful_loadClient (guarded_subject hroute h hs)).mono fun r hr client hc => ?_
      obtain ⟨hid, hfree⟩ := hr client hc
      rwa [hid]
    · exact fun client hc => by cases hc
  cases found with
  | none => trivial
  | some client => exact hf client rfl

lemma careful_verifyAssertion {assertion : String} {client : Client} :
    Careful P config req (fun _ => True) (verifyAssertion P config assertion client) := by
  unfold verifyAssertion
  refine Prog.Keeps.tryCatch ?_ (careful_settle.bind fun resolver _ => ?_)
  · exact fun _ => trivial
  unfold verifyJws
  split
  · trivial
  · have hkeys : Careful P config req (fun _ => True) resolver.keys := by
      cases resolver with
      | localSet keys => trivial
      | remoteSet uri => exact ⟨trivial, fun _ _ => trivial⟩
    refine (Prog.keeps_throwIf fun _ => trivial : Careful P config req (fun _ => True) _).bind
      fun _ _ => hkeys.bind fun keys _ => ?_
    split <;> trivial

/-- **An authentication** hands the subject of the assertion over, and nothing else. -/
lemma careful_authenticateClient (hroute : req.route.authenticatesClients = true) :
    Careful P config req (fun client => NulFree client.clientId)
      (authenticateClient P config req.body req.authorization) := by
  unfold authenticateClient
  refine careful_now.bind fun t _ => careful_settle.bind fun assertion hassertion => ?_
  refine (careful_locateClient hroute hassertion).bind fun client hclient => ?_
  refine careful_verifyAssertion.bind fun claims _ => careful_settle.bind fun x _ => ?_
  obtain ⟨exp, jti⟩ := x
  refine (careful_db (guarded_of_nulFree ?_ fun t ht => by cases ht)).bind fun fresh _ => ?_
  · intro s hs
    simp only [Query.strings, Query.values, Pg.texts, List.flatMap_nil, List.append_nil,
      List.mem_cons, List.not_mem_nil, or_false] at hs
    rcases hs with rfl | rfl
    · decide
    · exact nulFree_append (nulFree_append (nulFree_base64urlText _) (by decide))
        (nulFree_base64urlText _)
  · exact careful_throwIf.bind fun _ _ => hclient

/-! ## Proofs and pushes -/

/-- **What the platform returns has no U+0000**: digests and thumbprints are base64url, and the
parts of a URL are percent-encoded. -/
structure NulFreeOutputs (P : Platform) : Prop where
  sha256 : ∀ s, NulFree (P.sha256Base64Url s)
  thumbprint : ∀ jwk k, P.calculateJwkThumbprint jwk = some k → NulFree k
  protocol : ∀ s u, P.newURL s = some u → NulFree u.protocol
  hostname : ∀ s u, P.newURL s = some u → NulFree u.hostname
  host : ∀ s u, P.newURL s = some u → NulFree u.host
  pathname : ∀ s u, P.newURL s = some u → NulFree u.pathname
  origin : ∀ s u, P.newURL s = some u → NulFree u.origin

lemma nulFree_dropTrailingSlash {path : String} (h : NulFree path) :
    NulFree (dropTrailingSlash path) := by
  unfold dropTrailingSlash
  split_ifs
  · intro hmem
    rw [String.toList_ofList] at hmem
    exact h (List.dropLast_subset _ hmem)
  · exact h

/-- The URL of the token endpoint, as a replay context. -/
lemma nulFree_tokenReplayKey (hP : NulFreeOutputs P) :
    NulFree ((tokenDpopContext P config).replayKey P) := by
  have htoken : NulFree (endpointUrls P config).token := by
    unfold endpointUrls endpointPaths
    dsimp only
    split
    · rename_i u hu
      exact nulFree_append (hP.origin _ _ hu)
        (nulFree_append (nulFree_dropTrailingSlash (hP.pathname _ _ hu)) (by decide))
    · exact nulFree_append (by decide) (nulFree_append (by decide) (by decide))
  refine nulFree_append (by decide) ?_
  unfold normalizeHtu
  split
  · rename_i u hu
    have hslashes := nulFree_append (hP.protocol _ _ hu) (show NulFree "//" by decide)
    dsimp only
    split_ifs
    · exact nulFree_append (nulFree_append hslashes (hP.hostname _ _ hu)) (hP.pathname _ _ hu)
    · exact nulFree_append (nulFree_append hslashes (hP.host _ _ hu)) (hP.pathname _ _ hu)
  · exact htoken

/-- **A proof** is registered under a context of the server, and returns a thumbprint. -/
lemma careful_verifyDpopProof (hP : NulFreeOutputs P) {header : Option DpopHeader}
    {ctx : DpopContext} (hctx : NulFree (ctx.replayKey P)) :
    Careful P config req NulFree (verifyDpopProof P config header ctx) := by
  unfold verifyDpopProof
  refine careful_now.bind fun t _ => careful_settle.bind fun p _ => ?_
  cases hjwk : P.calculateJwkThumbprint p.jwk with
  | none => trivial
  | some jkt =>
    have hjkt := hP.thumbprint _ _ hjwk
    refine careful_throwIf.bind fun _ _ => ?_
    refine (careful_db (guarded_of_nulFree ?_ fun t ht => by cases ht)).bind fun fresh _ => ?_
    · intro s hs
      simp only [Query.strings, Query.values, Pg.texts, List.flatMap_nil, List.append_nil,
        List.mem_cons, List.not_mem_nil, or_false] at hs
      rcases hs with rfl | rfl
      · exact hctx
      · exact nulFree_append (nulFree_append hjkt (by decide)) (nulFree_base64urlText _)
    · exact careful_throwIf.bind fun _ _ => hjkt

lemma careful_parDpopJkt (hP : NulFreeOutputs P) :
    Careful P config req (fun r => ∀ k ∈ r, NulFree k) (parDpopJkt P config req) := by
  unfold parDpopJkt
  split
  · exact fun k hk => by cases hk
  · have hctx : NulFree ((parDpopContext P config).replayKey P) := show NulFree "dpop-par" by decide
    refine (careful_verifyDpopProof hP hctx).bind fun jkt hjkt => ?_
    exact fun k hk => Option.some.inj hk ▸ hjkt

/-- The checked values of a request that validates have no U+0000. -/
structure ValidatedTexts (v : ValidatedAuthorizationRequest) : Prop where
  scope : NulFree v.scope
  codeChallenge : NulFree v.codeChallenge
  state : ∀ s ∈ v.state, NulFree s
  nonce : ∀ s ∈ v.nonce, NulFree s
  dpopJkt : ∀ s ∈ v.dpopJkt, NulFree s
  passthrough : ∀ e ∈ v.passthrough, NulFree e.1 ∧ NulFree e.2

lemma nulFree_of_isPrintable {n : ℕ} {s : String} (h : isPrintable n s = true) : NulFree s := by
  simp only [isPrintable, isVschars, Bool.and_eq_true, List.all_eq_true] at h
  exact nulFree_of_forall (by decide) h.1

lemma nulFree_of_isCodeChallenge {s : String} (h : isCodeChallenge s = true) : NulFree s := by
  simp only [isCodeChallenge, Bool.and_eq_true, List.all_eq_true] at h
  exact nulFree_of_forall (by decide) h.1.1

lemma nulFree_of_isJkt {s : String} (h : isJkt s = true) : NulFree s := by
  simp only [isJkt, Bool.and_eq_true, List.all_eq_true] at h
  exact nulFree_of_forall (by decide) h.1

/-- The OIDC parameters that are kept are printable. -/
lemma nulFree_readPassthrough {body : Params} {names : List String} {l : List (String × String)}
    (hnames : ∀ n ∈ names, NulFree n) (h : readPassthrough body names = .ok l) :
    ∀ e ∈ l, NulFree e.1 ∧ NulFree e.2 := by
  induction names generalizing l with
  | nil =>
    obtain rfl := Except.ok.inj h
    exact fun e he => by cases he
  | cons name names ih =>
    simp only [readPassthrough, bind_eq_ok, checked_eq_ok] at h
    obtain ⟨value, -, _, hvalue, rest, hrest, h⟩ := h
    obtain rfl := Except.ok.inj h
    intro e he
    rcases List.mem_append.mp he with he | he
    · obtain ⟨v, hv, rfl⟩ := Option.map_eq_some_iff.mp (Option.mem_toList.mp he)
      exact ⟨hnames name List.mem_cons_self, nulFree_of_isPrintable (hvalue v hv)⟩
    · exact ih (fun n hn => hnames n (List.mem_cons_of_mem _ hn)) hrest e he

lemma ValidatedTexts.of_eq_ok {body : Params} {client : Client} {v : ValidatedAuthorizationRequest}
    (h : validateAuthorizationRequest body client = .ok v) : ValidatedTexts v := by
  simp only [validateAuthorizationRequest, bind_eq_ok, reject_eq_ok, checked_eq_ok] at h
  obtain ⟨_, -, _, -, _, -, _, -, _, -, _, -, _, -, _, -, raw, -, _, hscope, _, -, ch, -, _, -, _,
      -,
    _, hch, state, -, _, hstate, nonce, -, _, hnonce, jkt, -, _, hjkt, _, -, _, -, pass, hpass, _,
    -, _, -, h⟩ := h
  simp only [Except.ok.injEq] at h
  subst h
  exact
    { scope := nulFree_of_isPrintable (by simpa using hscope)
      codeChallenge := nulFree_of_isCodeChallenge (by simpa using hch)
      state := fun s hs => nulFree_of_isPrintable (hstate s hs)
      nonce := fun s hs => nulFree_of_isPrintable (hnonce s hs)
      dpopJkt := fun s hs => nulFree_of_isJkt (hjkt s hs)
      passthrough := nulFree_readPassthrough (by decide) hpass }

/-- The stored parameters of a request that validates: a text with U+0000 is the redirect URI or the
prompt. -/
lemma toStoredParams_texts {v : ValidatedAuthorizationRequest} (h : ValidatedTexts v)
    (hclient : NulFree v.clientId) :
    ∀ e ∈ toStoredParams v, NulFree e.1 ∧
      (NulFree e.2 ∨ e.2 = v.redirectUri ∨ v.prompt = some e.2) := by
  have hmember : ∀ {name : String} {x : Option String}, NulFree name → (∀ s ∈ x, NulFree s) →
      ∀ e ∈ member name x, NulFree e.1 ∧ NulFree e.2 := by
    intro name x hname hx e he
    obtain ⟨s, hs, rfl⟩ := Option.map_eq_some_iff.mp (Option.mem_toList.mp he)
    exact ⟨hname, hx s hs⟩
  intro e he
  simp only [toStoredParams, List.mem_append, List.mem_cons, List.not_mem_nil, or_false] at he
  rcases he with ((((he | he) | he) | he) | he) | he
  · rcases he with rfl | rfl | rfl | rfl | rfl | rfl
    · exact ⟨show NulFree "client_id" by decide, .inl hclient⟩
    · exact ⟨by decide, .inl (by decide)⟩
    · exact ⟨show NulFree "redirect_uri" by decide, .inr (.inl rfl)⟩
    · exact ⟨show NulFree "scope" by decide, .inl h.scope⟩
    · exact ⟨show NulFree "code_challenge" by decide, .inl h.codeChallenge⟩
    · exact ⟨by decide, .inl (by decide)⟩
  · exact (hmember (by decide) h.state e he).imp_right .inl
  · exact (hmember (by decide) h.nonce e he).imp_right .inl
  · exact (hmember (by decide) h.dpopJkt e he).imp_right .inl
  · obtain ⟨s, hs, rfl⟩ := Option.map_eq_some_iff.mp (Option.mem_toList.mp he)
    exact ⟨show NulFree "prompt" by decide, .inr (.inr hs)⟩
  · exact (h.passthrough e he).imp_right .inl

/-- The key that a push is bound to. -/
lemma nulFree_boundDpopJkt {pushed header r : Option String} (hpushed : ∀ k ∈ pushed, NulFree k)
    (hheader : ∀ k ∈ header, NulFree k) (h : boundDpopJkt pushed header = .ok r) :
    ∀ k ∈ r, NulFree k := by
  unfold boundDpopJkt at h
  split at h
  · obtain rfl := Except.ok.inj h
    exact hpushed
  · rename_i jkt hjkt
    obtain ⟨_, -, h⟩ := bind_eq_ok.mp h
    obtain rfl := Except.ok.inj h
    intro k hk
    obtain rfl := Option.some.inj hk
    exact hheader _ (Option.filter_eq_some_iff.mp hjkt).1

/-- **A push** hands its redirect URI and its prompt over, and nothing else. -/
lemma guarded_parInsert {client : Client} {v : ValidatedAuthorizationRequest}
    {jkt : Option String} {reference : String} {t : ℕ} (hclient : NulFree client.clientId)
    (hv : validateAuthorizationRequest req.body client = .ok v) (hjkt : ∀ k ∈ jkt, NulFree k)
    (hreference : NulFree reference) : Guarded P config req
      (.db (.parInsert (parRecord config (requestUriPrefix ++ reference) client v jkt t))) := by
  have hvalid := Validated.of_eq_ok hv
  have htexts := toStoredParams_texts (.of_eq_ok hv) (hvalid.client_eq ▸ hclient)
  have hparams : ∀ e ∈ parParams v jkt, NulFree e.1 ∧
      (NulFree e.2 ∨ e.2 = v.redirectUri ∨ v.prompt = some e.2) := by
    unfold parParams
    split
    · rename_i k hk
      intro e he
      rcases eq_or_mem_of_mem_assocSet he with rfl | he
      · exact ⟨show NulFree "dpop_jkt" by decide, .inl (hjkt k (Option.filter_eq_some_iff.mp hk).1)⟩
      · exact htexts e he
    · exact htexts
  have hkept : ∀ e ∈ toStoredParams v, e.1 ≠ "dpop_jkt" → e ∈ parParams v jkt := by
    intro e he hne
    unfold parParams
    split
    · exact mem_assocSet_of_ne he hne
    · exact he
  have hstored : ∀ e ∈ toStoredParams v, e.1 ≠ "dpop_jkt" → e.2 ∈
      (Query.parInsert
        (parRecord config (requestUriPrefix ++ reference) client v jkt t)).strings := by
    intro e he hne
    refine List.mem_append_left _ (List.mem_append_left _ (List.mem_append_right _ ?_))
    exact List.mem_flatMap.mpr ⟨e, hkept e he hne, by simp⟩
  refine ⟨fun s hs => ?_, fun s hs => ?_⟩
  · simp only [Query.strings, Query.values, Pg.texts, parRecord, List.flatMap_nil, List.append_nil,
      List.mem_append, List.mem_cons, List.not_mem_nil, or_false, List.mem_flatMap] at hs
    rcases hs with ((rfl | rfl) | ⟨e, he, hs⟩) | hs
    · exact .inl (nulFree_append (by decide) hreference)
    · exact .inl hclient
    · obtain ⟨hname, hvalue⟩ := hparams e he
      rcases hs with rfl | rfl
      · exact .inl hname
      · rcases hvalue with hfree | heq | hprompt
        · exact .inl hfree
        · exact .inr (.redirectUri (heq ▸ hvalid.redirect_eq))
        · exact .inr (.prompt (hvalid.prompt_eq.symm.trans hprompt))
    · exact .inl (hjkt s (Option.mem_toList.mp hs))
  · cases hs with
    | redirectUri h =>
      obtain rfl := Option.some.inj (hvalid.redirect_eq.symm.trans h)
      exact hstored ("redirect_uri", v.redirectUri) (by simp [toStoredParams])
        (show "redirect_uri" ≠ "dpop_jkt" by decide)
    | prompt h =>
      have hprompt := hvalid.prompt_eq.trans h
      exact hstored ("prompt", s) (by simp [toStoredParams, member, hprompt])
        (show "prompt" ≠ "dpop_jkt" by decide)

lemma careful_pushAuthorizationRequest {client : Client} {jkt : Option String}
    (hclient : NulFree client.clientId) (hjkt : ∀ k ∈ jkt, NulFree k) :
    Careful P config req (fun _ => True)
      (pushAuthorizationRequest config req.body client jkt) := by
  unfold pushAuthorizationRequest
  refine careful_now.bind fun t _ => careful_settle.bind fun x hx => ?_
  obtain ⟨validated, dpopJkt⟩ := x
  simp only [checkPush, bind_eq_ok, reject_eq_ok, Except.ok.injEq, Prod.mk.injEq] at hx
  obtain ⟨_, -, v, hv, k, hk, rfl, rfl⟩ := hx
  have hbound := nulFree_boundDpopJkt (ValidatedTexts.of_eq_ok hv).dpopJkt hjkt hk
  refine (careful_randomBytes 32).bind fun reference hreference => ?_
  exact (careful_db (guarded_parInsert hclient hv hbound hreference)).bind fun _ _ => trivial

/-! ## Tokens -/

/-- A call without untyped values. -/
lemma nulFree_of_texts {q : Query} (hvalues : q.values = []) (h : ∀ t ∈ Pg.texts q, NulFree t) :
    q.NulFree := by
  intro t ht
  rw [Query.strings, hvalues, List.flatMap_nil, List.append_nil] at ht
  exact h t ht

/-- A call with one text, which has no U+0000. -/
lemma guarded_of_text {q : Query} {s : String} (hvalues : q.values = []) (htexts : Pg.texts q = [s])
    (h : NulFree s) (hno : ∀ t, ¬Handed P config req q t) : Guarded P config req (.db q) := by
  refine guarded_of_nulFree (nulFree_of_texts hvalues fun t ht => ?_) hno
  rw [htexts, List.mem_singleton] at ht
  rwa [ht]

/-- What tokens are issued for has no U+0000. -/
structure InputTexts (input : TokenIssuanceInput) : Prop where
  grantId : NulFree input.grantId
  clientId : NulFree input.clientId
  subject : NulFree input.subject
  scope : NulFree input.scope
  cnfJkt : NulFree input.cnfJkt

lemma careful_issueAccessToken {input : TokenIssuanceInput} (h : InputTexts input) :
    Careful P config req (fun _ => True) (issueAccessToken config input) := by
  unfold issueAccessToken
  refine careful_now.bind fun t _ => careful_randomUUID.bind fun jti hjti => ?_
  refine (careful_perform (o := .signJwt _ _) trivial).bind fun signed _ =>
    careful_awaited.bind fun token _ => ?_
  refine (careful_db (guarded_of_nulFree (nulFree_of_texts rfl fun s hs => ?_)
    fun t ht => by cases ht)).bind fun _ _ => trivial
  simp only [Pg.texts, accessTokenRecord, Option.toList_some, List.mem_append, List.mem_cons,
    List.not_mem_nil, or_false] at hs
  rcases hs with (rfl | rfl | rfl | rfl | rfl) | rfl
  · exact hjti
  · exact h.grantId
  · exact h.clientId
  · exact h.subject
  · exact h.scope
  · exact h.cnfJkt

lemma careful_issueIdToken {input : TokenIssuanceInput} :
    Careful P config req (fun _ => True) (issueIdToken config input) := by
  unfold issueIdToken
  refine careful_now.bind fun t _ => (careful_perform (o := .signJwt _ _) trivial).bind
    fun signed _ => ?_
  exact careful_awaited.mono fun _ _ => trivial

lemma careful_issueRefreshToken (hP : NulFreeOutputs P) {input : TokenIssuanceInput}
    (h : InputTexts input) :
    Careful P config req (fun _ => True) (issueRefreshToken P config input) := by
  unfold issueRefreshToken
  refine careful_now.bind fun t _ => (careful_randomBytes 32).bind fun token _ => ?_
  refine (careful_db (guarded_of_nulFree (nulFree_of_texts rfl fun s hs => ?_)
    fun t ht => by cases ht)).bind fun _ _ => trivial
  simp only [Pg.texts, refreshTokenRecord, List.mem_cons, List.not_mem_nil, or_false] at hs
  rcases hs with rfl | rfl | rfl | rfl
  · exact hP.sha256 _
  · exact h.grantId
  · exact h.clientId
  · exact h.scope

lemma careful_whenSome {c : Bool} {p : Handler α} (h : Careful P config req (fun _ => True) p) :
    Careful P config req (fun _ => True) (whenSome c p) := by
  unfold whenSome
  split_ifs
  · exact h.bind fun _ _ => trivial
  · trivial

lemma careful_issueTokenSet (hP : NulFreeOutputs P) {input : TokenIssuanceInput}
    (h : InputTexts input) {openid withRefreshToken : Bool} :
    Careful P config req (fun _ => True)
      (issueTokenSet P config input openid withRefreshToken) := by
  unfold issueTokenSet
  refine (careful_issueAccessToken h).bind fun _ _ => ?_
  refine (careful_whenSome careful_issueIdToken).bind fun _ _ => ?_
  exact (careful_whenSome (careful_issueRefreshToken hP h)).bind fun _ _ => trivial

/-- A text of a row that could be inserted. -/
lemma Query.NulFree.text {q : Query} (h : q.NulFree) {t : String} (ht : t ∈ Pg.texts q) :
    Fapi2As.NulFree t := h t (List.mem_append_left _ ht)

lemma careful_validGrant {grantId : String} (h : NulFree grantId) :
    Careful P config req (fun grant => (Query.grantsInsert grant).NulFree)
    (validGrant grantId) := by
  unfold validGrant
  have hguarded : Guarded P config req (.db (.grantsFind grantId)) :=
    guarded_of_text rfl rfl h fun t ht => by cases ht
  refine (careful_db hguarded).bind fun found hfound => ?_
  cases found with
  | none => trivial
  | some grant => exact careful_throwIf.bind fun _ _ => hfound.2 grant rfl

/-- **A redemption** looks a hash up, and returns a grant that could be inserted. -/
lemma careful_redeemAuthorizationCode (hP : NulFreeOutputs P) {code clientId dpopJkt : String}
    {redirectUri codeVerifier : Option String} :
    Careful P config req (fun r => (Query.grantsInsert r.2).NulFree)
      (redeemAuthorizationCode P code clientId redirectUri codeVerifier dpopJkt) := by
  unfold redeemAuthorizationCode
  refine careful_now.bind fun t _ => ?_
  have hredeem : Guarded P config req (.db (.codesRedeem (P.sha256Base64Url code) t)) :=
    guarded_of_text rfl rfl (hP.sha256 code) fun t ht => by cases ht
  refine (careful_db hredeem).bind fun result hresult => ?_
  have hgrantId : ∀ rec, result = .ok rec ∨ result = .consumed rec → NulFree rec.grantId :=
    fun rec hrec => (hresult.2 rec hrec).text (by simp [Pg.texts])
  cases result with
  | invalid => trivial
  | consumed record =>
    have hid := hgrantId record (.inr rfl)
    refine (careful_db (guarded_of_text rfl rfl hid fun t ht => by cases ht)).bind fun _ _ => ?_
    refine (careful_db (guarded_of_text rfl rfl hid fun t ht => by cases ht)).bind fun _ _ => ?_
    refine (careful_db (guarded_of_text rfl rfl hid fun t ht => by cases ht)).bind fun _ _ => ?_
    trivial
  | ok record =>
    refine careful_settle.bind fun _ _ => ?_
    exact (careful_validGrant (hgrantId record (.inl rfl))).bind fun grant hgrant => hgrant

/-- **A refresh** looks a hash up, and returns a grant and a scope that could be inserted. -/
lemma careful_loadRefreshGrant (hP : NulFreeOutputs P) {refreshToken clientId : String} :
    Careful P config req (fun r => (Query.grantsInsert r.1).NulFree ∧ NulFree r.2)
      (loadRefreshGrant P refreshToken clientId) := by
  unfold loadRefreshGrant
  refine careful_now.bind fun t _ => ?_
  have hfind : Guarded P config req
      (.db (.refreshTokensFindByHash (P.sha256Base64Url refreshToken))) :=
    guarded_of_text rfl rfl (hP.sha256 _) fun t ht => by cases ht
  refine (careful_db hfind).bind fun found hfound => ?_
  cases found with
  | none => trivial
  | some rec =>
    have hrec : (Query.refreshTokensInsert rec).NulFree := hfound.2 rec rfl
    refine careful_throwIf.bind fun _ _ => careful_throwIf.bind fun _ _ => ?_
    refine (careful_validGrant (hrec.text (by simp [Pg.texts]))).bind fun grant hgrant => ?_
    exact ⟨hgrant, hrec.text (by simp [Pg.texts])⟩

/-- A scope within one that has no U+0000. -/
lemma nulFree_refreshScope {body : Params} {granted scope : String} (h : NulFree granted)
    (hscope : refreshScope body granted = .ok scope) : NulFree scope := by
  unfold refreshScope at hscope
  split at hscope
  · rwa [← Except.ok.inj hscope]
  · obtain ⟨_, hsubset, hscope⟩ := bind_eq_ok.mp hscope
    obtain rfl := Except.ok.inj hscope
    rw [reject_eq_ok, Bool.not_eq_false, scopeSubset, List.all_eq_true] at hsubset
    have hspace : '\x00' ≠ ' ' := by decide
    intro hmem
    obtain ⟨w, hw, hnul⟩ := (mem_words hspace).mpr hmem
    exact h ((mem_words hspace).mp ⟨w, by simpa using hsubset w hw, hnul⟩)

/-- **An exchange** stores what the grant says, for the client and the key. -/
lemma careful_handleGrant (hP : NulFreeOutputs P) {client : Client} {jkt : String}
    (hclient : NulFree client.clientId) (hjkt : NulFree jkt) :
    Careful P config req (fun _ => True) (handleGrant P config req client jkt) := by
  have hinput : ∀ {grant : GrantRecord} {scope : String} {nonce : Option String},
      (Query.grantsInsert grant).NulFree → NulFree scope →
      InputTexts ⟨grant.grantId, client.clientId, grant.subject, scope, jkt, some grant.authTime,
        none, none, nonce⟩ := by
    intro grant scope nonce hgrant hscope
    exact ⟨hgrant.text (by simp [Pg.texts]), hclient, hgrant.text (by simp [Pg.texts]), hscope,
      hjkt⟩
  unfold handleGrant
  split
  · trivial
  · split_ifs
    · unfold handleAuthorizationCode
      split
      · trivial
      · refine (careful_redeemAuthorizationCode hP).bind fun r hr => ?_
        obtain ⟨record, grant⟩ := r
        exact careful_issueTokenSet hP (hinput hr (hr.text (by simp [Pg.texts])))
    · unfold handleRefreshToken
      split
      · trivial
      · refine (careful_loadRefreshGrant hP).bind fun r hr => ?_
        obtain ⟨grant, granted⟩ := r
        refine careful_settle.bind fun scope hscope => ?_
        have hfree := nulFree_refreshScope hr.2 hscope
        exact (careful_issueTokenSet hP (hinput hr.1 hfree)).bind fun _ _ => trivial
    · trivial

/-! ## Lookups of tokens -/

/-- The id of a verified token is handed to its look-up. -/
lemma guarded_jti {token jti : String} {keys : List Json} (h : req.presentedToken = some token)
    (hjti : verifiedJti P config token keys = some jti) :
    Guarded P config req (.db (.accessTokensFindByJti jti)) := by
  refine ⟨fun t ht => .inr ?_, fun t ht => ?_⟩
  · obtain rfl : t = jti := by simpa [Query.strings, Query.values, Pg.texts] using ht
    exact .jti h hjti
  · cases ht with
    | jti h' hjti' =>
      obtain rfl := Option.some.inj (h.symm.trans h')
      have hclaim := (verifiedJti_eq_some hjti).2
      rw [(verifiedJti_eq_some hjti').2] at hclaim
      obtain rfl := Json.str.inj (Option.some.inj hclaim)
      simp [Query.strings, Pg.texts]

/-- **A lookup of an access token** hands its id over once the token verifies. -/
lemma careful_findAccessToken {token : String} (h : req.presentedToken = some token) :
    Careful P config req (fun r => ∀ rec, r = some rec → (Query.accessTokensInsert rec).NulFree)
      (findAccessToken P config token) := by
  unfold findAccessToken
  refine (careful_perform (o := .ensure) trivial).bind fun ready _ => ?_
  refine careful_awaited.bind fun _ _ => ?_
  refine (careful_perform (o := .publicJwks) trivial).bind fun keys _ => ?_
  split
  · rename_i jti hjti
    exact (careful_db (guarded_jti h hjti)).mono fun r hr => hr.2
  · exact fun rec hrec => by cases hrec

lemma careful_findRefreshToken (hP : NulFreeOutputs P) (token : String) :
    Careful P config req (fun r => ∀ rec, r = some rec → (Query.refreshTokensInsert rec).NulFree)
      (findRefreshToken P token) := by
  unfold findRefreshToken
  exact (careful_db (guarded_of_text rfl rfl (hP.sha256 token) fun t ht => by cases ht)).mono
    fun r hr => hr.2

/-- A record that was found could be inserted. -/
def ResolvedToken.NulFree : ResolvedToken → Prop
  | .accessToken record => (Query.accessTokensInsert record).NulFree
  | .refreshToken record => (Query.refreshTokensInsert record).NulFree

lemma careful_resolveToken (hP : NulFreeOutputs P) {token : String} {hint : Option String}
    (h : req.presentedToken = some token) :
    Careful P config req (fun r => ∀ resolved : ResolvedToken, r = some resolved → resolved.NulFree)
      (resolveToken P config token hint) := by
  unfold resolveToken
  split_ifs
  · refine (careful_findRefreshToken hP token).bind fun found hfound => ?_
    cases found with
    | some record => exact fun r hr => Option.some.inj hr ▸ hfound record rfl
    | none =>
      refine (careful_findAccessToken h).bind fun found hfound r hr => ?_
      obtain ⟨record, hrecord, rfl⟩ := Option.map_eq_some_iff.mp hr
      exact hfound record hrecord
  · refine (careful_findAccessToken h).bind fun found hfound => ?_
    cases found with
    | some record => exact fun r hr => Option.some.inj hr ▸ hfound record rfl
    | none =>
      refine (careful_findRefreshToken hP token).bind fun found hfound r hr => ?_
      obtain ⟨record, hrecord, rfl⟩ := Option.map_eq_some_iff.mp hr
      exact hfound record hrecord

lemma careful_revokeResolved {client : Client} {resolved : Option ResolvedToken} {t : ℕ}
    (h : ∀ r : ResolvedToken, resolved = some r → r.NulFree) :
    Careful P config req (fun _ => True) (revokeResolved client resolved t) := by
  unfold revokeResolved
  cases resolved with
  | none => trivial
  | some token =>
    have htoken := h token rfl
    dsimp only
    split_ifs
    · trivial
    · cases token with
      | refreshToken record =>
        have hrecord : (Query.refreshTokensInsert record).NulFree := htoken
        refine (careful_db (guarded_of_text rfl rfl (hrecord.text (by simp [Pg.texts]))
          fun t ht => by cases ht)).bind fun _ _ => ?_
        exact (careful_db (guarded_of_text rfl rfl (hrecord.text (by simp [Pg.texts]))
          fun t ht => by cases ht)).mono fun _ _ => trivial
      | accessToken record =>
        have hrecord : (Query.accessTokensInsert record).NulFree := htoken
        exact (careful_db (guarded_of_text rfl rfl (hrecord.text (by simp [Pg.texts]))
          fun t ht => by cases ht)).mono fun _ _ => trivial

/-! ## The back channel -/

lemma careful_rateLimited {ip : String} {p : Handler Reply}
    (h : Careful P config req (fun _ => True) p) :
    Careful P config req (fun _ => True) (rateLimited ip p) := by
  unfold rateLimited
  refine (careful_perform (o := .allow ip) trivial).bind fun ok _ => ?_
  split_ifs
  · exact h
  · trivial

lemma careful_requireForm {s : String} : Careful P config req (fun _ => True) (requireForm req s) :=
  careful_throwIf.mono fun _ _ => trivial

lemma careful_handlePar (hP : NulFreeOutputs P) (hroute : req.route = .par) :
    Careful P config req (fun _ => True) (handlePar P config req) := by
  refine careful_rateLimited (careful_requireForm.bind fun _ _ => ?_)
  refine (careful_authenticateClient (by rw [hroute]; rfl)).bind fun client hclient => ?_
  refine (careful_parDpopJkt hP).bind fun jkt hjkt => ?_
  exact (careful_pushAuthorizationRequest hclient hjkt).bind fun _ _ => trivial

lemma careful_handleToken (hP : NulFreeOutputs P) (hroute : req.route = .token) :
    Careful P config req (fun _ => True) (handleToken P config req) := by
  refine careful_rateLimited (careful_requireForm.bind fun _ _ =>
    careful_throwIf.bind fun _ _ => ?_)
  refine (careful_authenticateClient (by rw [hroute]; rfl)).bind fun client hclient => ?_
  refine careful_throwIf.bind fun _ _ => ?_
  refine (careful_verifyDpopProof hP (nulFree_tokenReplayKey hP)).bind fun jkt hjkt => ?_
  refine (careful_perform (o := .ensure) trivial).bind fun ready _ =>
    careful_awaited.bind fun _ _ => ?_
  exact (careful_handleGrant hP hclient hjkt).bind fun _ _ => trivial

lemma careful_handleRevoke (hP : NulFreeOutputs P) (hroute : req.route = .revoke) :
    Careful P config req (fun _ => True) (handleRevoke P config req) := by
  refine careful_rateLimited (careful_requireForm.bind fun _ _ => ?_)
  refine (careful_authenticateClient (by rw [hroute]; rfl)).bind fun client _ => ?_
  split
  · trivial
  · rename_i token htoken
    have hpresented : req.presentedToken = some token := by
      rw [HttpRequest.presentedToken, hroute]
      exact htoken
    refine (careful_resolveToken hP hpresented).bind fun resolved hresolved => ?_
    refine careful_now.bind fun t _ => ?_
    exact (careful_revokeResolved hresolved).bind fun _ _ => trivial

lemma careful_handleIntrospect (hP : NulFreeOutputs P) (hroute : req.route = .introspect) :
    Careful P config req (fun _ => True) (handleIntrospect P config req) := by
  refine careful_rateLimited (careful_requireForm.bind fun _ _ => ?_)
  refine (careful_authenticateClient (by rw [hroute]; rfl)).bind fun client _ => ?_
  split
  · trivial
  · rename_i token htoken
    have hpresented : req.presentedToken = some token := by
      rw [HttpRequest.presentedToken, hroute]
      exact htoken
    refine (careful_resolveToken hP hpresented).bind fun resolved _ => ?_
    cases resolved with
    | none => trivial
    | some resolved =>
      dsimp only
      split_ifs
      · trivial
      · exact careful_now.bind fun _ _ => trivial

lemma careful_userinfoOf (hP : NulFreeOutputs P) {token : String} {record : AccessTokenRecord} :
    Careful P config req (fun _ => True) (userinfoOf P config req token record) := by
  unfold userinfoOf
  split_ifs
  · trivial
  · refine careful_now.bind fun t _ => ?_
    split_ifs
    · trivial
    · split
      · trivial
      · have hctx : NulFree ((userinfoDpopContext P config req.method token).replayKey P) :=
          show NulFree "dpop-rs:userinfo" by decide
        refine (careful_attempt (careful_verifyDpopProof hP hctx)).bind fun proof _ => ?_
        cases proof with
        | error e => trivial
        | ok jkt =>
          dsimp only
          split_ifs <;> trivial

lemma careful_handleUserinfo (hP : NulFreeOutputs P) (hroute : req.route = .userinfo) :
    Careful P config req (fun _ => True) (handleUserinfo P config req) := by
  unfold handleUserinfo
  split
  · trivial
  · rename_i token htoken
    have hpresented : req.presentedToken = some token := by
      rw [HttpRequest.presentedToken, hroute]
      exact htoken
    split_ifs
    · trivial
    · refine (careful_findAccessToken hpresented).bind fun found _ => ?_
      cases found with
      | none => trivial
      | some record => exact careful_userinfoOf hP

/-! ## The front channel -/

lemma careful_redirectError {uri iss : String} {error : AuthorizeErrorCode}
    {description state : Option String} :
    Careful P config req (fun _ => True) (redirectError P uri error description state iss) := by
  unfold redirectError
  split <;> trivial

lemma careful_redirectCode {uri code iss : String} {state : Option String} :
    Careful P config req (fun _ => True) (redirectCode P uri code state iss) := by
  unfold redirectCode
  split <;> trivial

/-- A session does not depend on the second at which it is read, as long as it has not expired. -/
lemma sessionAt_eq {s s' : ℕ} {session session' : LoginSession}
    (h : sessionAt P config req s = some session) (h' : sessionAt P config req s' = some session') :
    session = session' := by
  rcases Nat.le_total s s' with hs | hs
  · exact Option.some.inj (h.symm.trans (openSession_mono hs h'))
  · exact Option.some.inj ((openSession_mono hs h).symm.trans h')

/-- A request that validates, as far as its texts are stored with a code. -/
structure RequestTexts (request : ValidatedAuthorizationRequest) : Prop
    extends ValidatedTexts request where
  redirectUri : NulFree request.redirectUri

/-- A pushed request that validates again has the texts of the push. -/
lemma RequestTexts.of_stored {pushed : ParRequestRecord} {client : Client}
    {request : ValidatedAuthorizationRequest} (hpushed : (Query.parInsert pushed).NulFree)
    (h : validateAuthorizationRequest (storedBody pushed.params) client = .ok request) :
    RequestTexts request where
  toValidatedTexts := .of_eq_ok h
  redirectUri := by
    have hredirect := (Validated.of_eq_ok h).redirect_eq
    rw [get_storedBody] at hredirect
    cases hassoc : assoc "redirect_uri" pushed.params with
    | none =>
      rw [hassoc] at hredirect
      cases hredirect
    | some uri =>
      rw [hassoc] at hredirect
      obtain rfl := str_eq_some hredirect
      refine hpushed.text (List.mem_append_left _ (List.mem_append_right _ ?_))
      exact List.mem_flatMap.mpr ⟨_, mem_of_assoc hassoc, by simp⟩

/-- **The grant of an authorization** takes the subject over from the session. -/
lemma guarded_grantsInsert {grantId : String} {client : Client}
    {request : ValidatedAuthorizationRequest} {session : LoginSession} {nowSec t : ℕ}
    (hgrantId : NulFree grantId) (hclient : NulFree client.clientId)
    (hrequest : RequestTexts request)
    (hsession : sessionAt P config req nowSec = some session) : Guarded P config req
      (.db (.grantsInsert (grantRecord grantId client session.user request t))) := by
  refine ⟨fun s hs => ?_, fun s hs => ?_⟩
  · simp only [Query.strings, Query.values, Pg.texts, grantRecord, List.flatMap_nil,
      List.append_nil, List.mem_cons, List.not_mem_nil, or_false] at hs
    rcases hs with rfl | rfl | rfl | rfl
    · exact .inl hgrantId
    · exact .inl hclient
    · exact .inr (.grantSubject hsession)
    · exact .inl hrequest.scope
  · cases hs with
    | grantSubject h =>
      obtain rfl := sessionAt_eq hsession h
      simp [Query.strings, Pg.texts, grantRecord, LoginSession.user]

lemma careful_issueAuthorizationCode (hP : NulFreeOutputs P) {client : Client}
    {request : ValidatedAuthorizationRequest} {session : LoginSession} {nowSec : ℕ}
    (hclient : NulFree client.clientId) (hrequest : RequestTexts request)
    (hsession : sessionAt P config req nowSec = some session) :
    Careful P config req (fun _ => True)
      (issueAuthorizationCode P config client session.user request) := by
  unfold issueAuthorizationCode
  refine careful_now.bind fun t _ => careful_randomUUID.bind fun grantId hgrantId => ?_
  refine (careful_db (guarded_grantsInsert hgrantId hclient hrequest hsession)).bind fun _ _ => ?_
  refine (careful_randomBytes 32).bind fun code _ => ?_
  refine (careful_db (guarded_of_nulFree (nulFree_of_texts rfl fun s hs => ?_)
    fun t ht => by cases ht)).bind fun _ _ => trivial
  simp only [Pg.texts, codeRecord, List.mem_append, List.mem_cons, List.not_mem_nil, or_false,
    Option.mem_toList] at hs
  rcases hs with ((rfl | rfl | rfl | rfl | rfl) | hs) | hs
  · exact hP.sha256 _
  · exact hgrantId
  · exact hclient
  · exact hrequest.redirectUri
  · exact hrequest.codeChallenge
  · exact hrequest.dpopJkt s hs
  · exact hrequest.nonce s hs

lemma careful_decideAuthorization {client : Client} {user : AuthenticatedUser}
    {request : ValidatedAuthorizationRequest} {approved : Option Bool} :
    Careful P config req (fun _ => True) (decideAuthorization user client request approved) := by
  unfold decideAuthorization
  split_ifs
  · trivial
  · refine (careful_perform (o := .evaluate _) trivial).bind fun _ _ => ?_
    exact careful_awaited.mono fun _ _ => trivial

/-- **A decision** uses up a pushed request that was looked up before, and issues the code. -/
lemma careful_decideAndIssue (hP : NulFreeOutputs P) {uri description : String} {client : Client}
    {request : ValidatedAuthorizationRequest} {session : LoginSession} {nowSec : ℕ}
    {approved : Option Bool} {refusal : AuthorizeErrorCode} (huri : NulFree uri)
    (hclient : NulFree client.clientId) (hrequest : RequestTexts request)
    (hsession : sessionAt P config req nowSec = some session) :
    Careful P config req (fun _ => True)
      (decideAndIssue P config uri client request session.user approved refusal description) := by
  have hconsume : ∀ t, Guarded P config req (.db (.parConsume uri t)) :=
    fun t => guarded_of_text rfl rfl huri fun t ht => by cases ht
  unfold decideAndIssue
  refine (careful_attempt careful_decideAuthorization).bind fun decision _ => ?_
  split
  · unfold issueCodeForInteraction
    refine careful_now.bind fun t _ => (careful_db (hconsume t)).bind fun consumed _ => ?_
    cases consumed with
    | none => exact careful_redirectError
    | some pushed =>
      refine (careful_issueAuthorizationCode hP hclient hrequest hsession).bind fun code _ => ?_
      exact careful_redirectCode
  · refine careful_now.bind fun t _ => (careful_db (hconsume t)).bind fun _ _ => ?_
    exact careful_redirectError

/-- A client is looked up by an identifier that was read from a row. -/
lemma guarded_clientsFindById {clientId : String} (hroute : req.route.authenticatesClients = false)
    (h : NulFree clientId) : Guarded P config req (.db (.clientsFindById clientId)) := by
  refine guarded_of_text rfl rfl h fun t ht => ?_
  cases ht with
  | subject hroute' => simp [hroute] at hroute'

/-- A push is looked up by the address in a request to the authorization endpoint. -/
lemma guarded_parPeek {uri : String} {t : ℕ} (hroute : req.route = .authorize)
    (h : str ((authorizeParams req).get "request_uri") = some uri) :
    Guarded P config req (.db (.parPeek uri t)) := by
  refine ⟨fun s hs => .inr ?_, fun s hs => ?_⟩
  · obtain rfl : s = uri := by simpa [Query.strings, Query.values, Pg.texts] using hs
    exact .requestUri hroute h
  · cases hs with
    | requestUri _ h' =>
      obtain rfl := Option.some.inj (h.symm.trans h')
      simp [Query.strings, Pg.texts]

/-- An interaction is looked up by the id in a request. -/
lemma guarded_interactionsFind {id : String} {t : ℕ} (h : req.interactionId = some id) :
    Guarded P config req (.db (.interactionsFind id t)) := by
  refine ⟨fun s hs => .inr ?_, fun s hs => ?_⟩
  · obtain rfl : s = id := by simpa [Query.strings, Query.values, Pg.texts] using hs
    exact .interaction h
  · cases hs with
    | interaction h' =>
      obtain rfl := Option.some.inj (h.symm.trans h')
      simp [Query.strings, Pg.texts]

/-- An interaction is bound to what the session says. -/
lemma guarded_setSubject {id : String} {session : LoginSession} {nowSec : ℕ} (hid : NulFree id)
    (hsession : sessionAt P config req nowSec = some session) : Guarded P config req
      (.db (.interactionsSetSubject id session.sub (newDate (session.authTime * 1000)) session.acr
        session.amr)) := by
  refine ⟨fun s hs => ?_, fun s hs => ?_⟩
  · simp only [Query.strings, Query.values, Pg.texts, List.mem_append, List.mem_cons,
      List.not_mem_nil, or_false] at hs
    rcases hs with (rfl | rfl) | hs
    · exact .inl hid
    · exact .inr (.session hsession List.mem_cons_self)
    · exact .inr (.session hsession (List.mem_cons_of_mem _ hs))
  · cases hs with
    | session h hs =>
      obtain rfl := sessionAt_eq hsession h
      rcases List.mem_cons.mp hs with rfl | hs
      · simp [Query.strings, Pg.texts]
      · exact List.mem_append_right _ hs

/-- **A pushed request** is decided or parked, for a client and with texts that were read. -/
lemma careful_authorizePushed (hP : NulFreeOutputs P) {uri : String} {client : Client}
    {request : ValidatedAuthorizationRequest} (huri : NulFree uri)
    (hclient : NulFree client.clientId)
    (hrequest : RequestTexts request) :
    Careful P config req (fun _ => True) (authorizePushed P config req uri client request) := by
  unfold authorizePushed
  refine careful_now.bind fun t _ => ?_
  dsimp only
  split_ifs
  · unfold authorizeSilently
    split
    · exact careful_redirectError
    · rename_i session hs
      exact careful_decideAndIssue hP huri hclient hrequest (Option.filter_eq_some_iff.mp hs).1
  · unfold parkRequest
    refine careful_randomUUID.bind fun id hid => ?_
    refine (careful_db (guarded_of_nulFree (nulFree_of_texts rfl fun s hs => ?_)
      fun t ht => by cases ht)).bind fun _ _ => trivial
    simp only [Pg.texts, parkedInteraction, Option.toList_none, List.append_nil, List.mem_cons,
      List.not_mem_nil, or_false] at hs
    rcases hs with rfl | rfl | rfl
    · exact hid
    · exact hclient
    · exact huri

lemma careful_handleAuthorize (hP : NulFreeOutputs P) (hroute : req.route = .authorize) :
    Careful P config req (fun _ => True) (handleAuthorize P config req (authorizeParams req)) := by
  unfold handleAuthorize
  split_ifs
  · trivial
  · split
    · trivial
    · trivial
    · rename_i uri clientId huri _
      refine careful_now.bind fun t _ => ?_
      refine (careful_db (guarded_parPeek hroute huri)).bind fun pushed hpushed => ?_
      cases pushed with
      | none => trivial
      | some pushed =>
        dsimp only
        split_ifs with hc
        · trivial
        · obtain rfl := not_not.mp hc
          have hrow : (Query.parInsert pushed).NulFree := hpushed.2 pushed rfl
          have hauth : req.route.authenticatesClients = false := by rw [hroute]; rfl
          have hfind : Guarded P config req (.db (.clientsFindById pushed.clientId)) :=
            guarded_clientsFindById hauth (hrow.text (by simp [Pg.texts]))
          unfold authorizeFor
          refine (careful_attempt (careful_loadClient hfind)).bind fun loaded hloaded => ?_
          split
          · trivial
          · trivial
          · trivial
          · rename_i client
            obtain ⟨hid, hfree⟩ := hloaded _ rfl client rfl
            split
            · unfold invalidPushedRequest
              dsimp only
              split
              · trivial
              · exact careful_redirectError
            · rename_i request hrequest
              exact careful_authorizePushed hP (hpushed.1.text (by simp [Pg.texts])) (hid ▸ hfree)
                (.of_stored hrow hrequest)

/-- What the pages work with has no U+0000. -/
structure ContextTexts (ctx : InteractionContext) : Prop where
  client : NulFree ctx.client.clientId
  request : RequestTexts ctx.request
  requestUri : NulFree ctx.requestUri

/-- **An interaction that was loaded** was found under the id of the request. -/
lemma careful_loadInteractionContext {id : String} {t : ℕ} (hroute : req.route ≠ .authorize)
    (hauth : req.route.authenticatesClients = false) (hid : req.interactionId = some id) :
    Careful P config req (fun r => ∀ ctx, r = some ctx → NulFree id ∧ ContextTexts ctx)
      (loadInteractionContext P id t) := by
  unfold loadInteractionContext
  refine (careful_db (guarded_interactionsFind hid)).bind fun interaction hinteraction => ?_
  cases interaction with
  | none => exact fun ctx hctx => by cases hctx
  | some interaction =>
    have hrow : (Query.interactionsInsert interaction).NulFree := hinteraction.2 interaction rfl
    have huri : NulFree interaction.requestUri := hrow.text (by simp [Pg.texts])
    have hpeek : Guarded P config req (.db (.parPeek interaction.requestUri t)) := by
      refine guarded_of_text rfl rfl huri fun s hs => ?_
      cases hs with
      | requestUri hroute' => exact hroute hroute'
    refine (careful_db hpeek).bind fun pushed hpushed => ?_
    cases pushed with
    | none => exact fun ctx hctx => by cases hctx
    | some pushed =>
      have hpar : (Query.parInsert pushed).NulFree := hpushed.2 pushed rfl
      dsimp only
      split_ifs
      · exact fun ctx hctx => by cases hctx
      · have hfind : Guarded P config req (.db (.clientsFindById interaction.clientId)) :=
          guarded_clientsFindById hauth (hrow.text (by simp [Pg.texts]))
        refine (careful_attempt (careful_loadClient hfind)).bind fun loaded hloaded => ?_
        split
        · rename_i client
          obtain ⟨hclient, hfree⟩ := hloaded _ rfl client rfl
          split
          · rename_i request hrequest
            intro ctx hctx
            obtain rfl := Option.some.inj hctx
            exact ⟨hinteraction.1.text (by simp [Pg.texts]), hclient ▸ hfree,
              .of_stored hpar hrequest, huri⟩
          · exact fun ctx hctx => by cases hctx
        · exact fun ctx hctx => by cases hctx

/-- A session that is read is one of the request. -/
lemma careful_sessionFrom : Careful P config req
    (fun r => ∀ session, r = some session → ∃ nowSec, sessionAt P config req nowSec = some session)
    (sessionFrom P config req) :=
  careful_now.bind fun t _ _ hs => ⟨t / 1000, hs⟩

lemma careful_handleInteraction (hroute : req.route = .interaction) :
    Careful P config req (fun _ => True) (handleInteraction P config req) := by
  unfold handleInteraction
  split
  · trivial
  · rename_i id hid
    have hnamed : req.interactionId = some id := by
      rw [HttpRequest.interactionId, hroute]
      exact hid
    refine careful_now.bind fun t _ => ?_
    refine (careful_loadInteractionContext (by simp [hroute]) (by rw [hroute]; rfl) hnamed).bind
      fun ctx hctx => ?_
    cases ctx with
    | none => trivial
    | some ctx =>
      refine careful_sessionFrom.bind fun found hfound => careful_now.bind fun t' _ => ?_
      split
      · trivial
      · rename_i session hs
        obtain ⟨nowSec, hsession⟩ := hfound session (Option.filter_eq_some_iff.mp hs).1
        unfold showConsent
        refine (careful_db (guarded_setSubject (hctx ctx rfl).1 hsession)).bind fun _ _ => ?_
        unfold consentPage
        split <;> trivial

lemma careful_devLogin {username : Option String} :
    Careful P config req (fun _ => True) (devLogin config username) := by
  unfold devLogin
  split
  · trivial
  · split_ifs
    · trivial
    · exact careful_now.bind fun _ _ => trivial

lemma careful_handleLogin (hroute : req.route = .interactionLogin) :
    Careful P config req (fun _ => True) (handleLogin P config req) := by
  unfold handleLogin
  split
  · trivial
  · rename_i id hid
    have hnamed : req.interactionId = some id := by
      rw [HttpRequest.interactionId, hroute]
      exact hid
    split_ifs
    · trivial
    · refine careful_now.bind fun t _ => ?_
      refine (careful_loadInteractionContext (by simp [hroute]) (by rw [hroute]; rfl) hnamed).bind
        fun ctx _ => ?_
      cases ctx with
      | none => trivial
      | some ctx =>
        refine careful_devLogin.bind fun user _ => ?_
        cases user with
        | none => trivial
        | some user =>
          exact (careful_randomBytes 16).bind fun _ _ => careful_now.bind fun _ _ => trivial

lemma careful_handleConsent (hP : NulFreeOutputs P) (hroute : req.route = .interactionConsent) :
    Careful P config req (fun _ => True) (handleConsent P config req) := by
  unfold handleConsent
  split
  · trivial
  · rename_i id hid
    have hnamed : req.interactionId = some id := by
      rw [HttpRequest.interactionId, hroute]
      exact hid
    refine careful_sessionFrom.bind fun found hfound => ?_
    cases found with
    | none => trivial
    | some session =>
      obtain ⟨nowSec, hsession⟩ := hfound session rfl
      dsimp only
      split_ifs
      · trivial
      · refine careful_now.bind fun t _ => ?_
        refine (careful_loadInteractionContext (by simp [hroute]) (by rw [hroute]; rfl) hnamed).bind
          fun ctx hctx => ?_
        cases ctx with
        | none => trivial
        | some ctx =>
          obtain ⟨hfree, htexts⟩ := hctx ctx rfl
          dsimp only
          split_ifs
          · trivial
          · unfold completeAndDecide
            refine careful_now.bind fun t' _ => ?_
            refine (careful_db (guarded_of_text rfl rfl hfree fun t ht => by cases ht)).bind
              fun done _ => ?_
            cases done with
            | none => trivial
            | some _ =>
              exact careful_decideAndIssue hP htexts.requestUri htexts.client htexts.request
                hsession

/-! ## All handlers -/

/-- **Every handler makes guarded calls.** -/
theorem careful_handler (hP : NulFreeOutputs P) (req : HttpRequest) :
    Careful P config req (fun _ => True) (handler P config req) := by
  have hdispatch : Careful P config req (fun _ => True) (dispatch P config req) := by
    unfold dispatch
    split
    · rename_i hroute
      split_ifs
      · exact careful_handlePar hP hroute
      · trivial
      · trivial
    · rename_i hroute
      split_ifs
      · exact careful_handleAuthorize hP hroute
      · trivial
    · rename_i hroute
      split_ifs
      · exact careful_handleInteraction hroute
      · trivial
    · rename_i hroute
      split_ifs
      · exact careful_handleLogin hroute
      · trivial
    · rename_i hroute
      split_ifs
      · exact careful_handleConsent hP hroute
      · trivial
    · rename_i hroute
      split_ifs
      · exact careful_handleToken hP hroute
      · trivial
    · rename_i hroute
      split_ifs
      · exact careful_handleRevoke hP hroute
      · trivial
    · rename_i hroute
      split_ifs
      · exact careful_handleIntrospect hP hroute
      · trivial
    · rename_i hroute
      split_ifs
      · exact careful_handleUserinfo hP hroute
      · trivial
    · split_ifs
      · unfold handleJwks
        refine (careful_perform (o := .ensure) trivial).bind fun _ _ => ?_
        refine careful_awaited.bind fun _ _ => ?_
        exact (careful_perform (o := .publicJwks) trivial).bind fun _ _ => trivial
      · trivial
  unfold handler respond
  refine Prog.Keeps.bind (Prog.Keeps.tryCatch ?_ hdispatch) fun _ _ => trivial
  exact fun _ => trivial

end Fapi2As
