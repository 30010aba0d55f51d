import Fapi2As.Server.Runs

set_option relaxedAutoImplicit false
set_option autoImplicit false

/-!
# What the token endpoint answers

A successful reply of the token endpoint is the body of a token set that was issued after the
exchange of a code, or after the use of a refresh token, which is then repeated in the reply.

## Main definitions

* `Fapi2As.TokensIssued` — how a token set was issued for its input.
* `Fapi2As.TokenReplied` — how a successful reply came about.

## Main results

* `Fapi2As.ServerRun.tokenReplied` — every successful reply of the token endpoint came about so.
-/

namespace Fapi2As

open Js Async

variable {P : Platform} {config : AppConfig} {req : HttpRequest} {past : List Event}

/-! ## Token sets -/

/-- An access token of an input was signed and its record stored. -/
def AccessIssued (config : AppConfig) (input : TokenIssuanceInput) (token : String)
    (q : List Event) : Prop :=
  ∃ jti t, ⟨.signJwt (accessTokenClaims config input jti t) (some atJwt), .ok token⟩ ∈ q ∧
    ⟨.db (.accessTokensInsert (accessTokenRecord config input jti t)), .ok ()⟩ ∈ q

/-- An ID token of an input was signed. -/
def IdSigned (config : AppConfig) (input : TokenIssuanceInput) (token : String)
    (q : List Event) : Prop :=
  ∃ t, ⟨.signJwt (idTokenClaims config input t) none, .ok token⟩ ∈ q

/-- **A token set that was issued for an input** by the calls `q`. -/
structure TokensIssued (config : AppConfig) (input : TokenIssuanceInput)
    (openid withRefreshToken : Bool) (tokens : IssuedTokens) (q : List Event) : Prop where
  /-- Its access token was signed and stored. -/
  access : AccessIssued config input tokens.accessToken q
  /-- Its ID token was signed. -/
  signed : ∀ token ∈ tokens.idToken, IdSigned config input token q
  /-- It has an ID token when one was asked for. -/
  idToken : tokens.idToken.isSome = openid
  /-- It has a refresh token when one was asked for. -/
  refreshToken : tokens.refreshToken.isSome = withRefreshToken

lemma AccessIssued.mono {input : TokenIssuanceInput} {token : String} {q q' : List Event}
    (h : AccessIssued config input token q) (hq : q <+: q') :
    AccessIssued config input token q' := by
  obtain ⟨jti, t, h1, h2⟩ := h
  exact ⟨jti, t, hq.mem h1, hq.mem h2⟩

lemma IdSigned.mono {input : TokenIssuanceInput} {token : String} {q q' : List Event}
    (h : IdSigned config input token q) (hq : q <+: q') : IdSigned config input token q' := by
  obtain ⟨t, h⟩ := h
  exact ⟨t, hq.mem h⟩

/-- The access token that is issued is signed and stored. -/
lemma wp_issueAccessToken_issued {input : TokenIssuanceInput} :
    Prog.wp (fun _ _ => True)
      (fun q x => ∀ token, x = .ok token → AccessIssued config input token q)
      past (issueAccessToken config input) := by
  unfold issueAccessToken
  rw [Prog.wp_bind, wp_now]
  refine ⟨trivial, fun t => ?_⟩
  simp only [Prog.Next]
  rw [Prog.wp_bind, wp_randomUUID]
  refine ⟨trivial, fun jti => ?_⟩
  simp only [Prog.Next]
  rw [Prog.wp_bind, Prog.wp_perform]
  refine ⟨trivial, fun signed => ?_⟩
  simp only [Prog.Next]
  rw [Prog.wp_bind, wp_awaited]
  refine ⟨fun token ht => ?_, fun _ _ _ h => by cases h⟩
  subst ht
  simp only [Prog.Next]
  rw [Prog.wp_bind]
  refine (wp_db (q := .accessTokensInsert (accessTokenRecord config input jti t))).mpr
    ⟨trivial, fun _ token' h => ?_, fun _ _ h => by cases h⟩
  obtain rfl := Except.ok.inj h
  exact ⟨jti, t, List.mem_append_left _ (mem_past_last _ _), mem_past_last _ _⟩

/-- The ID token that is issued is signed. -/
lemma wp_issueIdToken_signed {input : TokenIssuanceInput} :
    Prog.wp (fun _ _ => True) (fun q x => ∀ token, x = .ok token → IdSigned config input token q)
      past (issueIdToken config input) := by
  unfold issueIdToken
  rw [Prog.wp_bind, wp_now]
  refine ⟨trivial, fun t => ?_⟩
  simp only [Prog.Next]
  rw [Prog.wp_bind, Prog.wp_perform]
  refine ⟨trivial, fun signed => ?_⟩
  refine wp_awaited.mpr ⟨fun token ht token' h => ?_, fun _ _ _ h => by cases h⟩
  obtain rfl := Except.ok.inj h
  exact ⟨t, ht ▸ mem_past_last _ _⟩

/-- **A token set is issued for its input.** -/
lemma wp_issueTokenSet_issued {input : TokenIssuanceInput} {openid withRefreshToken : Bool} :
    Prog.wp (fun _ _ => True) (fun q x => ∀ tokens, x = .ok tokens →
        TokensIssued config input openid withRefreshToken tokens q)
      past (issueTokenSet P config input openid withRefreshToken) := by
  unfold issueTokenSet
  rw [Prog.wp_bind]
  refine Prog.wp_mono (fun q x hx => ?_) wp_issueAccessToken_issued
  cases x with
  | error e => exact fun _ h => by cases h
  | ok accessToken =>
    have haccess := hx accessToken rfl
    simp only [Prog.Next]
    have hlast : ∀ q' idToken, q <+: q' → (∀ token ∈ idToken, IdSigned config input token q') →
        idToken.isSome = openid →
        Prog.wp (fun _ _ => True) (fun q x => ∀ tokens, x = .ok tokens →
            TokensIssued config input openid withRefreshToken tokens q) q'
          (whenSome withRefreshToken (issueRefreshToken P config input) >>= fun refreshToken =>
            pure (tokenResponse config input accessToken idToken refreshToken)) := by
      intro q' idToken hq hid hsome
      rw [Prog.wp_bind, wp_whenSome]
      have hdone : ∀ q'' (refreshToken : Option String), q' <+: q'' →
          refreshToken.isSome = withRefreshToken →
          TokensIssued config input openid withRefreshToken
            (tokenResponse config input accessToken idToken refreshToken) q'' :=
        fun q'' refreshToken hq' hr =>
          ⟨haccess.mono (hq.trans hq'), fun token ht => (hid token ht).mono hq', hsome, hr⟩
      refine ⟨fun hw => Prog.wp_mono (fun q'' x hx => ?_) (Prog.wp_of_prefix (fun _ _ => trivial)
        (fun _ _ h => h)), fun hw tokens h => ?_⟩
      · cases x with
        | error e => exact fun _ h => by cases h
        | ok token =>
          intro tokens h
          obtain rfl := Except.ok.inj h
          exact hdone _ _ hx (by rw [hw]; rfl)
      · obtain rfl := Except.ok.inj h
        exact hdone _ _ List.prefix_rfl (by rw [hw]; rfl)
    rw [Prog.wp_bind, wp_whenSome]
    refine ⟨fun ho => ?_, fun ho => hlast _ _ List.prefix_rfl (by simp) (by rw [ho]; rfl)⟩
    refine Prog.wp_mono (fun q' x hx => ?_)
      (Prog.wp_extends wp_issueIdToken_signed)
    cases x with
    | error e => exact fun _ h => by cases h
    | ok idToken =>
      refine hlast _ _ hx.1 (fun token ht => ?_) (by rw [ho]; rfl)
      obtain rfl := Option.some.inj ht
      exact hx.2 _ rfl

/-! ## Replies -/

/-- A member of a JSON reply. -/
def Reply.field (reply : Reply) (name : String) : Option Json :=
  match reply.body with
  | .json members => members.get name
  | _ => none

/-- A reply with an access token. -/
def Reply.isGrant (reply : Reply) : Bool := (reply.field "access_token").isSome

/-- The hook that adds headers keeps the body. -/
@[simp] lemma onSend_field (reply : Reply) (name : String) :
    (onSend reply).field name = reply.field name := by
  simp [Reply.field]

@[simp] lemma onSend_isGrant (reply : Reply) : (onSend reply).isGrant = reply.isGrant := by
  simp [Reply.isGrant]

/-- An error carries no access token. -/
lemma errorReply_isGrant (e : Exn) : (errorReply e).isGrant = false := by
  cases e with
  | oauth e =>
    simp only [Reply.isGrant, Reply.field, errorReply, OAuthError.toBody]
    split
    · split_ifs <;> rfl
    · rfl
  | _ => rfl

/-- **How a successful reply of the token endpoint came about.** -/
inductive TokenReplied (P : Platform) (config : AppConfig) (req : HttpRequest) (q : List Event)
    (reply : Reply) : Prop
  | code (client : Client) (jkt : String) (record : AuthorizationCodeRecord) (grant : GrantRecord)
      (tokens : IssuedTokens) (exchange : CodeExchange P config req q client jkt record grant)
      (issued : TokensIssued config (codeInput client jkt record grant)
        ((split ' ' grant.scope).contains "openid")
        (client.metadata.grantTypes.contains .refreshToken) tokens q)
      (body : reply.body = .json tokens.toBody) : TokenReplied P config req q reply
  | refresh (client : Client) (jkt scope token : String) (rec : RefreshTokenRecord)
      (grant : GrantRecord) (tokens : IssuedTokens)
      (exchange : RefreshExchange P config req q client jkt scope rec grant)
      (issued : TokensIssued config (refreshInput client jkt scope grant)
        ((split ' ' scope).contains "openid") false tokens q)
      (presented : str (req.body.get "refresh_token") = some token)
      (body : reply.body = .json { tokens with refreshToken := some token }.toBody) :
      TokenReplied P config req q reply

/-- How the grant handlers come to their token sets. -/
private def GrantReplied (P : Platform) (config : AppConfig) (req : HttpRequest) (q : List Event)
    (x : Except Exn IssuedTokens) : Prop :=
  ∀ response, x = .ok response → ∀ reply : Reply, reply.body = .json response.toBody →
    TokenReplied P config req q reply

/-- The token set of an exchanged code. -/
private lemma wp_codeReplied {client : Client} {jkt : String}
    (h : TokenRequest P config req past client jkt)
    (hg : str (req.body.get "grant_type") = some "authorization_code") :
    Prog.wp (fun _ _ => True) (GrantReplied P config req) past
      (handleAuthorizationCode P config req.body client jkt) := by
  unfold handleAuthorizationCode
  split
  · exact fun _ h => by cases h
  · rename_i code hcode
    rw [Prog.wp_bind]
    refine wp_redeemAuthorizationCode (fun _ _ _ => trivial) (fun _ _ _ => trivial)
      (fun _ _ _ _ => trivial) (fun q record grant hpq hr => ?_) (fun q e _ _ h => by cases h)
    have hx : CodeExchange P config req q client jkt record grant :=
      ⟨h.mono hpq, hg, code, hcode, hr⟩
    simp only [Prog.Next]
    refine Prog.wp_mono (fun q' x hx' response hresponse reply hbody => ?_)
      (Prog.wp_extends wp_issueTokenSet_issued)
    exact .code client jkt record grant response (hx.mono hx'.1) (hx'.2 response hresponse) hbody

/-- The token set of a refresh token. -/
private lemma wp_refreshReplied {client : Client} {jkt : String}
    (h : TokenRequest P config req past client jkt)
    (hg : str (req.body.get "grant_type") = some "refresh_token") :
    Prog.wp (fun _ _ => True) (GrantReplied P config req) past
      (handleRefreshToken P config req.body client jkt) := by
  unfold handleRefreshToken
  split
  · exact fun _ h => by cases h
  · rename_i token htoken
    rw [Prog.wp_bind]
    refine wp_loadRefreshGrant (fun _ _ _ => trivial) (fun q rec grant hpq hl => ?_)
      (fun q e _ _ h => by cases h)
    simp only [Prog.Next]
    rw [Prog.wp_bind, Prog.wp_settle]
    refine ⟨fun scope hscope => ?_, fun e _ _ h => by cases h⟩
    simp only [Prog.Next]
    rw [Prog.wp_bind]
    refine Prog.wp_mono (fun q' x hx => ?_)
      (Prog.wp_extends wp_issueTokenSet_issued)
    cases x with
    | error e => exact fun _ h => by cases h
    | ok tokens =>
      intro response hresponse reply hbody
      obtain rfl := Except.ok.inj hresponse
      have hx' : RefreshExchange P config req q' client jkt scope rec grant :=
        ⟨h.mono (hpq.trans hx.1), hg, hscope, token, htoken, hl.mono hx.1⟩
      exact .refresh client jkt scope token rec grant tokens hx' (hx.2 tokens rfl) htoken hbody

/-- **A successful reply of the token endpoint** follows an exchange. -/
lemma wp_handleToken_replied (hr : req.route = .token) :
    Prog.wp (fun _ _ => True) (fun q x => ∀ reply, x = .ok reply → reply.isGrant = true →
      TokenReplied P config req q reply) past (handleToken P config req) := by
  unfold handleToken rateLimited
  rw [Prog.wp_bind, Prog.wp_perform]
  refine ⟨trivial, fun ok => ?_⟩
  simp only [Prog.Next]
  split_ifs
  swap
  · intro reply h hs
    obtain rfl := Except.ok.inj h
    cases hs
  unfold requireForm
  rw [Prog.wp_bind, wp_throwIf]
  refine ⟨fun _ _ h => (by cases h), fun _ => ?_⟩
  simp only [Prog.Next]
  rw [Prog.wp_bind, wp_throwIf]
  refine ⟨fun _ _ h => (by cases h), fun _ => ?_⟩
  simp only [Prog.Next]
  rw [Prog.wp_bind]
  refine wp_authenticateClient (fun _ _ _ => trivial) (fun _ _ _ _ => trivial)
    (fun q client _ hc => ?_) (fun q e _ _ h => by cases h)
  simp only [Prog.Next]
  rw [Prog.wp_bind, wp_throwIf]
  refine ⟨fun _ _ h => (by cases h), fun _ => ?_⟩
  simp only [Prog.Next]
  rw [Prog.wp_bind]
  refine wp_verifyDpopProof (fun _ _ _ => trivial) (fun _ _ _ _ => trivial)
    (fun q' jkt hpq hp => ?_) (fun q' e _ _ h => by cases h)
  simp only [Prog.Next]
  rw [Prog.wp_bind, Prog.wp_perform]
  refine ⟨trivial, fun ready => ?_⟩
  simp only [Prog.Next]
  rw [Prog.wp_bind, wp_awaited]
  refine ⟨fun _ _ => ?_, fun _ _ _ h => by cases h⟩
  simp only [Prog.Next]
  rw [Prog.wp_bind]
  have ht : TokenRequest P config req (q' ++ [⟨.ensure, ready⟩]) client jkt :=
    (⟨hr, hc.mono hpq, hp⟩ : TokenRequest P config req q' client jkt).mono (List.prefix_append _ _)
  have hgrant : Prog.wp (fun _ _ => True) (GrantReplied P config req) (q' ++ [⟨.ensure, ready⟩])
      (handleGrant P config req client jkt) := by
    unfold handleGrant
    split
    · exact fun _ h => by cases h
    · rename_i grantType hgt
      split_ifs with h1 h2
      · exact wp_codeReplied ht (h1 ▸ hgt)
      · exact wp_refreshReplied ht (h2 ▸ hgt)
      · exact fun _ h => by cases h
  refine Prog.wp_mono (fun q'' x hx => ?_) hgrant
  cases x with
  | error e => exact fun _ h => by cases h
  | ok response =>
    intro reply h _
    obtain rfl := Except.ok.inj h
    exact hx response rfl _ rfl

/-- Every reply to a request of the token endpoint that carries an access token follows an exchange.
-/
lemma wp_handler_replied (req : HttpRequest) :
    Prog.wp (fun _ _ => True) (fun q x => ∃ reply, x = .ok reply ∧
        (req.route = .token → reply.isGrant = true → TokenReplied P config req q reply))
      [] (handler P config req) := by
  refine wp_respond ?_
  by_cases hr : req.route = .token
  · unfold dispatch
    simp only [hr]
    split_ifs
    · refine Prog.wp_mono (fun q x hx => ?_) (wp_handleToken_replied hr)
      cases x with
      | ok reply =>
        refine ⟨_, rfl, fun _ hs => ?_⟩
        cases hx reply rfl (by simpa using hs) with
        | code client jkt record grant tokens hexchange hissued hbody =>
          exact .code client jkt record grant tokens hexchange hissued (by simpa using hbody)
        | refresh client jkt scope token rec grant tokens hexchange hissued hp hbody =>
          exact .refresh client jkt scope token rec grant tokens hexchange hissued hp
            (by simpa using hbody)
      | error e =>
        exact ⟨_, rfl, fun _ hs => by simp [errorReply_isGrant] at hs⟩
    · exact ⟨_, rfl, fun _ hs => by cases hs⟩
  · refine Prog.wp_of_forall (fun _ _ => trivial) fun q x => ?_
    cases x with
    | ok reply => exact ⟨_, rfl, fun h => absurd h hr⟩
    | error e => exact ⟨_, rfl, fun h => absurd h hr⟩

/-- **A reply with an access token follows an exchange**, in every run. -/
lemma ServerRun.tokenReplied {backend : Backend} (R : ServerRun P config backend) {i pid : ℕ}
    {reply : Reply} (hi : i ≤ R.len) (h : R.proc i pid = some ⟨req, past, .ret reply⟩)
    (hr : req.route = .token) (hg : reply.isGrant = true) :
    TokenReplied P config req past reply := by
  obtain ⟨reply', heq, hreplied⟩ := R.answered wp_handler_replied hi h
  obtain rfl := Except.ok.inj heq
  exact hreplied hr hg

end Fapi2As
