import Fapi2As.Server.Justified

set_option relaxedAutoImplicit false
set_option autoImplicit false

/-!
# The back-channel handlers keep their guarantees

## Main results

* `Fapi2As.wp_handlePar`, `Fapi2As.wp_handleToken`, `Fapi2As.wp_handleRevoke`,
  `Fapi2As.wp_handleIntrospect`, `Fapi2As.wp_handleUserinfo`.
-/

namespace Fapi2As

open Js Async

variable {P : Platform} {config : AppConfig} {req : HttpRequest} {past : List Event}

/-! ## What the endpoints share -/

/-- A refused request, or a handler that runs after the rate limiter was asked. -/
lemma wp_rateLimited {p : Handler Reply}
    (h : ∀ q, Prog.wp (Justified P config req) (Replies P config req) q p) :
    Prog.wp (Justified P config req) (Replies P config req) past (rateLimited req.ip p) := by
  unfold rateLimited
  rw [Prog.wp_bind, Prog.wp_perform]
  refine ⟨trivial, fun ok => ?_⟩
  simp only [Prog.Next]
  split_ifs
  · exact h _
  · exact .plain (by simp [jsonError]) (by simp [jsonError]) (by simp [jsonError])
      (by simp [jsonError])

lemma replies_error (q : List Event) (e : Exn) : Replies P config req q (.error e) :=
  answered_errorReply e

/-- The checks that come before a handler reads its request: a failed one is answered with an
error. -/
lemma wp_check {c : Prop} [Decidable c] {e : OAuthError} {f : Unit → Handler Reply}
    (h : ¬c → Prog.wp (Justified P config req) (Replies P config req) past (f ())) :
    Prog.wp (Justified P config req) (Replies P config req) past (throwIf c e >>= f) := by
  rw [Prog.wp_bind, wp_throwIf]
  exact ⟨fun _ => replies_error _ _, fun hc => h hc⟩

/-- The authentication of the client comes before everything that a request may do. -/
lemma wp_authenticated {f : Client → Handler Reply}
    (h : ∀ q client, Authenticated P config req.body client q →
      Prog.wp (Justified P config req) (Replies P config req) q (f client)) :
    Prog.wp (Justified P config req) (Replies P config req) past
      (authenticateClient P config req.body req.authorization >>= f) := by
  rw [Prog.wp_bind]
  exact wp_authenticateClient (justified_quiet P config req)
    (fun q o _ ho => by
      obtain ⟨_, _, _, _, _, _, _, rfl⟩ := id ho
      exact .inl ho)
    (fun q client _ hc => h q client hc) (fun q e _ => replies_error q e)

/-- The registration of the replay entry of a proof that is verified for a request. -/
lemma justified_proofRegisters {ctx : DpopContext} (hctx : ProofContext P config req ctx)
    {q : List Event} {o : Call} (h : ProofRegisters P config req.dpop ctx o) :
    Justified P config req q o := by
  obtain ⟨_, _, _, _, _, rfl⟩ := id h
  exact .inr ⟨ctx, hctx, h⟩

/-! ## PAR -/

/-- **A push is made by an authenticated client.** -/
lemma wp_handlePar (hr : req.route = .par) :
    Prog.wp (Justified P config req) (Replies P config req) past (handlePar P config req) := by
  have hany : ∀ q x, Replies P config req q x := by
    intro q x
    cases x with
    | ok reply => exact .other (by simp [hr]) (by simp [hr]) (by simp [hr]) (by simp [hr])
    | error e => exact replies_error q e
  refine wp_rateLimited fun q => wp_check fun _ => wp_authenticated fun q client hc => ?_
  rw [Prog.wp_bind]
  have hpush : ∀ q' jkt, q <+: q' → PushProof P config req q' jkt →
      Prog.wp (Justified P config req) (Replies P config req) q'
        (pushAuthorizationRequest config req.body client jkt >>= fun result =>
          pure { status := 201
                 headers := [("cache-control", "no-cache, no-store")]
                 body := .json [("request_uri", .str result.requestUri),
                   ("expires_in", .num result.expiresIn)] }) := by
    intro q' jkt hq hp
    rw [Prog.wp_bind]
    refine wp_pushAuthorizationRequest (justified_quiet P config req)
      (fun q'' rec hq' hpushed => ?_)
      fun q'' x _ => by
        cases x with
        | ok result => exact hany _ (.ok _)
        | error e => exact replies_error _ e
    refine ⟨hr, client, jkt, hc.mono (hq.trans hq'), ?_, hpushed⟩
    unfold PushProof at hp ⊢
    split
    · rename_i hd
      simpa [hd] using hp
    · rename_i header hd
      simp only [hd] at hp
      obtain ⟨k, hk, hacc⟩ := hp
      exact ⟨k, hk, hacc.mono hq'⟩
  unfold parDpopJkt
  split
  · rename_i hd
    exact hpush _ _ List.prefix_rfl (by simp [PushProof, hd])
  · rename_i header hd
    rw [Prog.wp_bind, ← hd]
    refine wp_verifyDpopProof (justified_quiet P config req)
      (fun q' o _ ho => justified_proofRegisters (.par hr) ho)
      (fun q' jkt hq hp => hpush _ _ hq ?_) (fun q' e _ => replies_error _ e)
    unfold PushProof
    rw [hd] at hp ⊢
    exact ⟨jkt, rfl, hp⟩

/-! ## Tokens -/

lemma Redeemed.mono {code clientId dpopJkt : String} {redirectUri codeVerifier : Option String}
    {record : AuthorizationCodeRecord} {grant : GrantRecord} {q q' : List Event}
    (h : Redeemed P code clientId redirectUri codeVerifier dpopJkt record grant q) (hq : q <+: q') :
    Redeemed P code clientId redirectUri codeVerifier dpopJkt record grant q' := by
  obtain ⟨⟨t, ht⟩, h1, h2, h3⟩ := h
  exact ⟨⟨t, hq.mem ht⟩, h1, hq.mem h2, h3⟩

lemma RefreshLoaded.mono {token clientId : String} {rec : RefreshTokenRecord} {grant : GrantRecord}
    {q q' : List Event} (h : RefreshLoaded P token clientId rec grant q) (hq : q <+: q') :
    RefreshLoaded P token clientId rec grant q' := by
  obtain ⟨h1, h2, ⟨t, ht, he⟩, h3, h4, h5⟩ := h
  exact ⟨hq.mem h1, h2, ⟨t, hq.mem ht, he⟩, h3, hq.mem h4, h5⟩

lemma TokenRequest.mono {client : Client} {jkt : String} {q q' : List Event}
    (h : TokenRequest P config req q client jkt) (hq : q <+: q') :
    TokenRequest P config req q' client jkt := ⟨h.route, h.client.mono hq, h.proof.mono hq⟩

lemma CodeExchange.mono {client : Client} {jkt : String} {record : AuthorizationCodeRecord}
    {grant : GrantRecord} {q q' : List Event}
    (h : CodeExchange P config req q client jkt record grant) (hq : q <+: q') :
    CodeExchange P config req q' client jkt record grant := by
  obtain ⟨h1, h2, code, h3, h4⟩ := h
  exact ⟨h1.mono hq, h2, code, h3, h4.mono hq⟩

lemma Exchange.mono {input : TokenIssuanceInput} {q q' : List Event}
    (h : Exchange P config req q input) (hq : q <+: q') : Exchange P config req q' input := by
  cases h with
  | code client jkt record grant h => exact .code client jkt record grant (h.mono hq)
  | refresh client jkt scope rec grant h =>
    obtain ⟨h1, h2, h3, token, h4, h5⟩ := h
    exact .refresh client jkt scope rec grant ⟨h1.mono hq, h2, h3, token, h4, h5.mono hq⟩

/-- What the grant handlers guarantee: tokens that they return were stored by an exchange. -/
def Grants (P : Platform) (config : AppConfig) (req : HttpRequest) (q : List Event) :
    Except Exn IssuedTokens → Prop
  | .ok _ => ∃ input rec, Exchange P config req q input ∧
      ⟨.db (.accessTokensInsert rec), .ok ()⟩ ∈ q ∧ rec.grantId = input.grantId
  | .error _ => True

/-- **Tokens are stored only by an exchange**, the refresh token only by the exchange of a code. -/
lemma wp_issued {input : TokenIssuanceInput} {openid withRefreshToken : Bool}
    (hx : Exchange P config req past input)
    (hrefresh : ∀ q rec, past <+: q → withRefreshToken = true →
      RefreshTokenStored P config input rec q → RefreshTokenIssued P config req q rec) :
    Prog.wp (Justified P config req) (Grants P config req) past
      (issueTokenSet P config input openid withRefreshToken) := by
  have hq := justified_quiet P config req
  refine wp_issueTokenSet hq (fun q o hpq ho => ?_)
    (fun q rec hpq hs => ⟨input, hx.mono hpq, hs⟩) hrefresh
    (fun q rec tokens hpq hmem hg => ⟨input, rec, hx.mono hpq, hmem, hg⟩) (fun q e _ => trivial)
  cases ho with
  | access q₀ jti now h => exact ⟨input, hx.mono hpq, .access q₀ jti now h⟩
  | id now => exact ⟨input, hx.mono hpq, .id now⟩

/-- The exchange of a code. -/
lemma wp_handleAuthorizationCode {client : Client} {jkt : String}
    (h : TokenRequest P config req past client jkt)
    (hg : str (req.body.get "grant_type") = some "authorization_code") :
    Prog.wp (Justified P config req) (Grants P config req) past
      (handleAuthorizationCode P config req.body client jkt) := by
  unfold handleAuthorizationCode
  split
  · trivial
  · rename_i code hcode
    rw [Prog.wp_bind]
    refine wp_redeemAuthorizationCode (justified_quiet P config req)
      (fun q t hpq => ⟨client, jkt, code, h.mono hpq, hcode, rfl⟩) (fun q o hpq ho => ?_)
      (fun q record grant hpq hr => ?_) (fun q e _ => trivial)
    · have hrev : Revokes P config req q o := .replay client jkt code o (h.mono hpq) hcode ho
      cases ho <;> exact hrev
    · have hx : CodeExchange P config req q client jkt record grant :=
        ⟨h.mono hpq, hg, code, hcode, hr⟩
      exact wp_issued (.code client jkt record grant hx) fun q' rec hpq' _ hs =>
        ⟨client, jkt, record, grant, hx.mono hpq', hs⟩

/-- The use of a refresh token. -/
lemma wp_handleRefreshToken {client : Client} {jkt : String}
    (h : TokenRequest P config req past client jkt)
    (hg : str (req.body.get "grant_type") = some "refresh_token") :
    Prog.wp (Justified P config req) (Grants P config req) past
      (handleRefreshToken P config req.body client jkt) := by
  unfold handleRefreshToken
  split
  · trivial
  · rename_i token htoken
    rw [Prog.wp_bind]
    refine wp_loadRefreshGrant (justified_quiet P config req) (fun q rec grant hpq hl => ?_)
      (fun q e _ => trivial)
    simp only [Prog.Next]
    rw [Prog.wp_bind, Prog.wp_settle]
    refine ⟨fun scope hscope => ?_, fun e _ => trivial⟩
    simp only [Prog.Next]
    rw [Prog.wp_bind]
    refine Prog.wp_mono (fun q' x hx => ?_) (wp_issued (.refresh client jkt scope rec grant
      ⟨h.mono hpq, hg, hscope, token, htoken, hl⟩) (by simp))
    cases x with
    | ok tokens => exact hx
    | error e => trivial

/-- **Tokens come from an exchange** by an authenticated client with an accepted proof. -/
lemma wp_handleToken (hr : req.route = .token) :
    Prog.wp (Justified P config req) (Replies P config req) past (handleToken P config req) := by
  refine wp_rateLimited fun q => wp_check fun _ => wp_check fun _ =>
    wp_authenticated fun q client hc => wp_check fun _ => ?_
  rw [Prog.wp_bind]
  refine wp_verifyDpopProof (justified_quiet P config req)
    (fun q' o _ ho => justified_proofRegisters (.token hr) ho) (fun q' jkt hpq hp => ?_)
    (fun q' e _ => replies_error _ e)
  simp only [Prog.Next]
  rw [Prog.wp_bind, Prog.wp_perform]
  refine ⟨trivial, fun ready => ?_⟩
  simp only [Prog.Next]
  rw [Prog.wp_bind, wp_awaited]
  refine ⟨fun _ _ => ?_, fun e _ => replies_error _ _⟩
  simp only [Prog.Next]
  rw [Prog.wp_bind]
  have ht : TokenRequest P config req (q' ++ [⟨.ensure, ready⟩]) client jkt :=
    (⟨hr, hc.mono hpq, hp⟩ : TokenRequest P config req q' client jkt).mono (List.prefix_append _ _)
  have hlast : ∀ q'' x, Grants P config req q'' x →
      Prog.Next (Justified P config req) (Replies P config req) (fun response : IssuedTokens =>
        (pure { status := 200, headers := [noStore, ("pragma", "no-cache")],
                body := .json response.toBody } : Handler Reply)) q'' x := by
    intro q'' x hx
    cases x with
    | error e => exact replies_error _ e
    | ok tokens =>
      exact ⟨by simp [hr], by simp [hr], by simp [hr], fun _ _ _ _ => hx⟩
  refine Prog.wp_mono hlast ?_
  unfold handleGrant
  split
  · trivial
  · rename_i grantType hgt
    split_ifs with h1 h2
    · exact wp_handleAuthorizationCode ht (h1 ▸ hgt)
    · exact wp_handleRefreshToken ht (h2 ▸ hgt)
    · trivial

/-! ## Revocation -/

lemma Resolves.mono {token : String} {r : ResolvedToken} {q q' : List Event}
    (h : Resolves P config token q r) (hq : q <+: q') : Resolves P config token q' r := by
  cases h with
  | accessToken record h => exact .accessToken record (h.mono hq)
  | refreshToken record h => exact .refreshToken record (hq.mem h)

lemma RevokeRequest.mono {r : ResolvedToken} {q q' : List Event}
    (h : RevokeRequest P config req q r) (hq : q <+: q') : RevokeRequest P config req q' r := by
  obtain ⟨h1, client, token, h2, h3, h4, h5⟩ := h
  exact ⟨h1, client, token, h2.mono hq, h3, h4.mono hq, h5⟩

/-- **A client revokes only tokens that it was found to own.** -/
lemma wp_handleRevoke (hr : req.route = .revoke) :
    Prog.wp (Justified P config req) (Replies P config req) past (handleRevoke P config req) := by
  have hok : ∀ q reply, Replies P config req q (.ok reply) := fun q reply =>
    .other (by simp [hr]) (by simp [hr]) (by simp [hr]) (by simp [hr])
  refine wp_rateLimited fun q => wp_check fun _ => wp_authenticated fun q client hc => ?_
  split
  · exact replies_error _ _
  · rename_i token htoken
    rw [Prog.wp_bind]
    have hlast : ∀ q' resolved, q <+: q' → (∀ r ∈ resolved, Resolves P config token q' r) →
        Prog.wp (Justified P config req) (Replies P config req) q' (now >>= fun t =>
          revokeResolved client resolved t >>= fun _ =>
            pure { status := 200, headers := [noStore] }) := by
      intro q' resolved hpq hres
      rw [Prog.wp_bind, wp_now]
      refine ⟨trivial, fun t => ?_⟩
      have h1 : q' <+: q' ++ [⟨.now, t⟩] := List.prefix_append _ _
      simp only [Prog.Next]
      rw [Prog.wp_bind]
      unfold revokeResolved
      split
      · exact hok _ _
      · rename_i r
        split_ifs with hown
        · exact hok _ _
        · have hrev : RevokeRequest P config req (q' ++ [⟨.now, t⟩]) r :=
            ⟨hr, client, token, hc.mono (hpq.trans h1), htoken, (hres r rfl).mono h1,
              not_not.mp hown⟩
          split
          · rename_i record
            rw [Prog.wp_bind]
            exact wp_db.mpr ⟨Revokes.refreshToken record t hrev,
              fun _ => wp_db.mpr ⟨Revokes.cascade record t (hrev.mono (List.prefix_append _ _)),
                fun _ => hok _ _, fun _ => replies_error _ _⟩, fun _ => replies_error _ _⟩
          · rename_i record
            exact wp_db.mpr ⟨Revokes.accessToken record t hrev, fun _ => hok _ _,
              fun _ => replies_error _ _⟩
    exact wp_resolveToken (justified_quiet P config req)
      (fun q' r hpq hres => hlast q' (some r) hpq (by simpa using hres))
      (fun q' hpq => hlast q' none hpq (by simp)) (fun q' e _ => replies_error _ e)

/-! ## Introspection -/

/-- **A token is reported active only to its client, and only when it was found unrevoked.** -/
lemma wp_handleIntrospect (hr : req.route = .introspect) :
    Prog.wp (Justified P config req) (Replies P config req) past
      (handleIntrospect P config req) := by
  have hin : ∀ q, Replies P config req q (.ok inactive) := fun q =>
    .plain (by simp [inactive]) (by simp [inactive]) (by simp [inactive]) (by simp [inactive])
  refine wp_rateLimited fun q => wp_check fun _ => wp_authenticated fun q client hc => ?_
  split
  · exact replies_error _ _
  · rename_i token htoken
    rw [Prog.wp_bind]
    refine wp_resolveToken (justified_quiet P config req) (fun q' r hpq hres => ?_)
      (fun q' _ => hin q') (fun q' e _ => replies_error _ e)
    simp only [Prog.Next]
    split_ifs with hown
    · exact hin q'
    · rw [Prog.wp_bind, wp_now]
      refine ⟨trivial, fun t => ?_⟩
      have h1 : q' <+: q' ++ [⟨.now, t⟩] := List.prefix_append _ _
      have hact : ∀ body, r.revokedAt = none →
          Answered P config req (q' ++ [⟨.now, t⟩]) { headers := [noStore], body := .json body } :=
        fun body hu =>
          ⟨by simp [hr], by simp [hr], fun _ _ _ => ⟨r, ⟨client, hc.mono (hpq.trans h1),
          not_not.mp hown⟩, ⟨token, htoken, hres.mono h1⟩, hu⟩, by simp [hr]⟩
      simp only [Prog.Next, Prog.wp_pure]
      unfold introspectionOf
      split <;> split_ifs with hdead
      · exact hin _
      · exact hact _ (not_not.mp fun h => hdead (.inl h))
      · exact hin _
      · exact hact _ (not_not.mp fun h => hdead (.inl h))

/-! ## Userinfo -/

/-- **A subject is named only for an accepted token.** -/
lemma wp_handleUserinfo (hr : req.route = .userinfo) :
    Prog.wp (Justified P config req) (Replies P config req) past (handleUserinfo P config req) := by
  have hch : ∀ q status error, Replies P config req q (.ok (challenge status error)) := by
    intro q status error
    unfold challenge
    cases error with
    | none => exact .plain (by simp) (by simp) (by simp) (by simp)
    | some e => exact .plain (by simp) (by simp) (by simp) (by simp)
  unfold handleUserinfo
  split
  · exact hch _ _ _
  · rename_i token htoken
    split_ifs
    · exact hch _ _ _
    · rw [Prog.wp_bind]
      refine wp_findAccessToken (justified_quiet P config req) (fun q record hpq hf => ?_)
        (fun q _ => hch _ _ _) (fun q e _ => replies_error _ e)
      simp only [Prog.Next]
      unfold userinfoOf
      split_ifs with hrev
      · exact hch _ _ _
      · rw [Prog.wp_bind, wp_now]
        refine ⟨trivial, fun t => ?_⟩
        have h1 : q <+: q ++ [⟨.now, t⟩] := List.prefix_append _ _
        simp only [Prog.Next]
        split_ifs with hexp
        · exact hch _ _ _
        · split
          · exact hch _ _ _
          · rename_i cnfJkt hcnf
            rw [Prog.wp_bind, wp_attempt]
            refine wp_verifyDpopProof (justified_quiet P config req)
              (fun q' o _ ho => justified_proofRegisters (.userinfo token hr) ho)
              (fun q' jkt hpq' hp => ?_) (fun q' e _ => hch _ _ _)
            simp only [Prog.Next]
            split_ifs with hkey
            · exact hch _ _ _
            · obtain rfl := not_not.mp hkey
              refine ⟨by simp [hr], fun _ subject hs => ⟨token, record, jkt, ?_⟩, by simp [hr],
                by simp [hr]⟩
              simp only [subjectReply, Body.json.injEq, List.cons.injEq, Prod.mk.injEq, true_and,
                Json.str.injEq, and_true] at hs
              exact
                { presented := htoken
                  found := hf.mono (h1.trans hpq')
                  unrevoked := not_not.mp hrev
                  unexpired := ⟨t, hpq'.mem (mem_past_last _ _), by simpa using hexp⟩
                  proof := hp
                  bound := (Option.filter_eq_some_iff.mp hcnf).1
                  subject_eq := hs.symm }

end Fapi2As
