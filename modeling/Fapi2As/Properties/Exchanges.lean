import Fapi2As.Properties.Pushes
import Fapi2As.Properties.TokenAgreement
import Fapi2As.Server.TokenReplies

set_option relaxedAutoImplicit false
set_option autoImplicit false

/-!
# When the token endpoint issues tokens

What a token response rests on is known from the calls of its request. Here the converse is settled
as well: served alone and while nothing fails, a request of an authenticated client with an accepted
proof gets tokens exactly when the tables hold what it asks for, and is refused with status 400
otherwise. So no valid code and no valid refresh token is ever refused.

## Main definitions

* `Fapi2As.RedeemableCode`, `Fapi2As.UsableRefreshToken` — what the tables hold for an exchange.
* `Fapi2As.Exchangeable` — a request asks for an exchange that the tables allow.
* `Fapi2As.ProvenAs` — a token request was authenticated and its proof accepted.

## Main results

* `Fapi2As.tokens_iff_exchangeable` — tokens are issued exactly for the exchanges that the tables
  allow.
-/

namespace Fapi2As

open Js Async

variable {P : Platform} {config : AppConfig} {backend : Backend} {α : Type} {w w' : World}
  {es : List Event}

/-! ## Executions without trouble -/

/-- A signature that was not made. -/
def isUnsigned (e : Event) : Bool :=
  match e with
  | ⟨.signJwt _ _, .error _⟩ => true
  | _ => false

/-- **Nothing fails in an execution**: no awaited call rejects, and every signature is made. -/
structure Untroubled (es : List Event) : Prop where
  unfailing : Unfailing es
  signed : ∀ e ∈ es, isUnsigned e = false

lemma untroubled_append {q q' : List Event} :
    Untroubled (q ++ q') ↔ Untroubled q ∧ Untroubled q' := by
  refine ⟨fun h => ?_, fun h => ?_⟩
  · obtain ⟨hq, hq'⟩ := unfailing_append.mp h.unfailing
    exact ⟨⟨hq, fun e he => h.signed e (List.mem_append_left _ he)⟩,
      ⟨hq', fun e he => h.signed e (List.mem_append_right _ he)⟩⟩
  · refine ⟨unfailing_append.mpr ⟨h.1.unfailing, h.2.unfailing⟩, fun e he => ?_⟩
    rcases List.mem_append.mp he with he | he
    · exact h.1.signed e he
    · exact h.2.signed e he

lemma Untroubled.tail {e : Event} (h : Untroubled (e :: es)) : Untroubled es :=
  ⟨(unfailing_cons.mp h.unfailing).2, fun e he => h.signed e (List.mem_cons_of_mem _ he)⟩

/-- A call that always answers goes on. -/
lemma alone_perform_next {o : Call} {f : Ret o → Handler α} {y : Except Exn α}
    (h : RunsAlone P config backend (Prog.perform o >>= f) w es y w') (hok : Untroubled es) :
    ∃ r es' w₁, ⟨o, r⟩ ∈ es ∧ Untroubled es' ∧ RunsAlone P config backend (f r) w₁ es' y w' := by
  rcases h.bind with ⟨r, es₁, es₂, w₁, h1, h2, rfl⟩ | ⟨e, h1, rfl⟩
  · obtain ⟨_, r', -, rfl, hr⟩ := h1.perform
    obtain rfl := Except.ok.inj hr
    exact ⟨r, es₂, w₁, List.mem_cons_self, hok.tail, h2⟩
  · obtain ⟨_, _, -, -, hr⟩ := h1.perform
    cases hr

/-- A sequence whose first part returns a value in every execution without trouble. -/
lemma alone_bind_ok {β : Type} {p : Handler α} {f : α → Handler β} {y : Except Exn β}
    (h : RunsAlone P config backend (p >>= f) w es y w') (hok : Untroubled es)
    (hp : ∀ {es₁ : List Event} {x : Except Exn α} {w₁ : World},
      RunsAlone P config backend p w es₁ x w₁ → Untroubled es₁ → ∃ a, x = .ok a) :
    ∃ a es₂ w₁, Untroubled es₂ ∧ RunsAlone P config backend (f a) w₁ es₂ y w' := by
  rcases h.bind with ⟨a, es₁, es₂, w₁, -, h2, rfl⟩ | ⟨e, h1, rfl⟩
  · exact ⟨a, es₂, w₁, (untroubled_append.mp hok).2, h2⟩
  · obtain ⟨_, hr⟩ := hp h1 hok
    cases hr

/-! ## Issuing -/

/-- A signature that was made is returned. -/
lemma alone_awaited_signed {payload : Params} {typ : Option String}
    {r : Ret (.signJwt payload typ)} {y : Except Exn String}
    (h : RunsAlone P config backend (awaited r) w es y w')
    (hr : isUnsigned ⟨.signJwt payload typ, r⟩ = false) : ∃ token, y = .ok token := by
  obtain ⟨-, -, ⟨token, -, hy⟩ | ⟨_, rfl, -⟩⟩ := h.settle
  · exact ⟨token, hy⟩
  · cases hr

/-- A repository call that does not reject goes on. -/
lemma alone_db_next {q : Query} {f : q.Res → Handler α} {y : Except Exn α}
    (h : RunsAlone P config backend (db q >>= f) w es y w') (hok : Untroubled es) :
    ∃ a es' w₁, Untroubled es' ∧ RunsAlone P config backend (f a) w₁ es' y w' :=
  alone_bind_ok h hok fun h1 hok₁ => by
    obtain ⟨a, -, -, hr⟩ := alone_db_ok h1 hok₁.unfailing
    exact ⟨a, hr⟩

/-- A reading of the clock goes on. -/
lemma alone_now_next {f : ℕ → Handler α} {y : Except Exn α}
    (h : RunsAlone P config backend (now >>= f) w es y w') (hok : Untroubled es) :
    ∃ es', Untroubled es' ∧ RunsAlone P config backend (f w.clock) w es' y w' := by
  rcases h.bind with ⟨t, es₁, es₂, w₁, h1, h2, rfl⟩ | ⟨e, h1, rfl⟩
  · obtain ⟨-, rfl, ht⟩ := alone_now h1
    obtain rfl := Except.ok.inj ht
    exact ⟨es₂, (untroubled_append.mp hok).2, h2⟩
  · cases (alone_now h1).2.2

/-- **A token set is issued.** -/
lemma alone_issueTokenSet {input : TokenIssuanceInput} {openid withRefreshToken : Bool}
    {y : Except Exn IssuedTokens}
    (h : RunsAlone P config backend (issueTokenSet P config input openid withRefreshToken) w
      es y w')
    (hok : Untroubled es) : ∃ tokens, y = .ok tokens := by
  have hwhen : ∀ {c : Bool} {p : Handler String} {w w' : World} {es : List Event}
      {y : Except Exn (Option String)},
      (∀ {w w' : World} {es : List Event} {y : Except Exn String},
        RunsAlone P config backend p w es y w' → Untroubled es → ∃ token, y = .ok token) →
      RunsAlone P config backend (whenSome c p) w es y w' → Untroubled es → ∃ r, y = .ok r := by
    intro c p w w' es y hp h hok
    unfold whenSome at h
    split_ifs at h
    · obtain ⟨token, _, _, -, h'⟩ := alone_bind_ok h hok hp
      exact ⟨_, h'.of_ret.2.1⟩
    · exact ⟨_, h.of_ret.2.1⟩
  unfold issueTokenSet at h
  obtain ⟨access, _, _, hok₁, h1⟩ := alone_bind_ok h hok fun h hok => by
    unfold issueAccessToken at h
    obtain ⟨_, hok, h⟩ := alone_now_next h hok
    obtain ⟨jti, _, _, -, hok, h⟩ := alone_perform_next h hok
    obtain ⟨r, _, _, hr, hok', h⟩ := alone_perform_next h hok
    obtain ⟨token, _, _, hok, h⟩ := alone_bind_ok h hok' fun h _ =>
      alone_awaited_signed h (hok.signed _ hr)
    obtain ⟨_, _, _, -, h⟩ := alone_db_next h hok
    exact ⟨token, h.of_ret.2.1⟩
  obtain ⟨id, _, _, hok₂, h2⟩ := alone_bind_ok h1 hok₁ fun h hok => hwhen (fun h hok => by
    unfold issueIdToken at h
    obtain ⟨_, hok, h⟩ := alone_now_next h hok
    obtain ⟨r, _, _, hr, -, h⟩ := alone_perform_next h hok
    exact alone_awaited_signed h (hok.signed _ hr)) h hok
  obtain ⟨refresh, _, _, -, h3⟩ := alone_bind_ok h2 hok₂ fun h hok => hwhen (fun h hok => by
    unfold issueRefreshToken at h
    obtain ⟨_, hok, h⟩ := alone_now_next h hok
    obtain ⟨token, _, _, -, hok, h⟩ := alone_perform_next h hok
    obtain ⟨_, _, _, -, h⟩ := alone_db_next h hok
    exact ⟨token, h.of_ret.2.1⟩) h hok
  exact ⟨_, h3.of_ret.2.1⟩

/-! ## Codes and refresh tokens -/

/-- A refusal: an error with status 400. -/
def Refused (y : Except Exn α) : Prop := ∃ e : OAuthError, y = .error (.oauth e) ∧ e.status = 400

/-- A check that is passed, or refuses the request. -/
lemma alone_throwIf_refused {c : Prop} [Decidable c] {e : OAuthError} {x : Except Exn Unit}
    (h : RunsAlone P config backend (throwIf c e) w es x w') (he : e.status = 400) :
    (∃ u, (w' = w ∧ ¬c) ∧ x = .ok u) ∨ c ∧ Refused x := by
  obtain ⟨-, rfl, ⟨hc, rfl⟩ | ⟨hc, rfl⟩⟩ := h.throwIf
  · exact .inr ⟨hc, e, rfl, he⟩
  · exact .inl ⟨(), ⟨rfl, hc⟩, rfl⟩

/-- **A first part that returns or refuses** lets the rest run, or refuses the whole. -/
lemma alone_bind_refused {β : Type} {p : Handler α} {f : α → Handler β} {y : Except Exn β}
    {A : α → World → Prop} {N : Prop} (h : RunsAlone P config backend (p >>= f) w es y w')
    (hok : Untroubled es)
    (hp : ∀ {es₁ : List Event} {x : Except Exn α} {w₁ : World},
      RunsAlone P config backend p w es₁ x w₁ →
      Untroubled es₁ → (∃ a, A a w₁ ∧ x = .ok a) ∨ N ∧ Refused x) :
    (∃ a es₂ w₁, A a w₁ ∧ Untroubled es₂ ∧ RunsAlone P config backend (f a) w₁ es₂ y w') ∨
      N ∧ Refused y := by
  rcases h.bind with ⟨a, es₁, es₂, w₁, h1, h2, rfl⟩ | ⟨e, h1, rfl⟩
  · obtain ⟨hok₁, hok₂⟩ := untroubled_append.mp hok
    rcases hp h1 hok₁ with ⟨a', ha, hr⟩ | ⟨-, _, hr, -⟩
    · obtain rfl := Except.ok.inj hr
      exact .inl ⟨a, es₂, w₁, ha, hok₂, h2⟩
    · cases hr
  · rcases hp h1 hok with ⟨_, -, hr⟩ | ⟨hn, e', hr, hstatus⟩
    · cases hr
    · exact .inr ⟨hn, e', congrArg Except.error (Except.error.inj hr), hstatus⟩

/-- A grant is in the tables and has not been revoked. -/
structure ValidGrant (w : World) (grantId : String) (grant : GrantRecord) : Prop where
  found : w.store.grants.get? grantId = some grant
  unrevoked : grant.revokedAt = none

/-- **A code is redeemable**: it is unused and has not expired, the request passes its checks, and
its grant is valid. -/
structure RedeemableCode (P : Platform) (w : World) (code clientId : String)
    (redirectUri codeVerifier : Option String) (jkt : String) (record : AuthorizationCodeRecord)
    (grant : GrantRecord) : Prop where
  unused : w.store.codes.get? (P.sha256Base64Url code) = some ⟨record, none⟩
  unexpired : record.expiresAt.isPast w.clock = false
  checked : RedeemedChecked P record clientId redirectUri codeVerifier jkt
  grant : ValidGrant w record.grantId grant

/-- **A refresh token is usable**: it is neither revoked nor expired, it belongs to the client, and
its grant is valid. -/
structure UsableRefreshToken (P : Platform) (w : World) (token clientId : String)
    (record : RefreshTokenRecord) (grant : GrantRecord) : Prop where
  found : w.store.refreshTokens.get? (P.sha256Base64Url token) = some record
  unrevoked : record.revokedAt = none
  unexpired : record.expiresAt.isPast w.clock = false
  owner : record.clientId = clientId
  grant : ValidGrant w record.grantId grant

/-- The checks of a redeemed code pass, or refuse it. -/
lemma checkRedeemed_cases (record : AuthorizationCodeRecord) (clientId : String)
    (redirectUri codeVerifier : Option String) (jkt : String) :
    checkRedeemed P record clientId redirectUri codeVerifier jkt = .ok () ∨
      ¬RedeemedChecked P record clientId redirectUri codeVerifier jkt ∧
        ∃ e, checkRedeemed P record clientId redirectUri codeVerifier jkt = .error e ∧
          e.status = 400 := by
  unfold checkRedeemed reject
  by_cases hclient : record.clientId ≠ clientId
  · exact .inr ⟨fun h => hclient h.client, _, by rw [if_pos hclient]; rfl, rfl⟩
  rw [if_neg hclient]
  by_cases hredirect : redirectUri ≠ some record.redirectUri
  · exact .inr ⟨fun h => hredirect h.redirect, _, by rw [if_pos hredirect]; rfl, rfl⟩
  rw [if_neg hredirect]
  by_cases hpkce : ¬∃ v ∈ codeVerifier, verifyS256 P v record.codeChallenge = true
  · exact .inr ⟨fun h => hpkce h.pkce, _, by rw [if_pos hpkce]; rfl, rfl⟩
  rw [if_neg hpkce]
  by_cases hkey : ∃ k ∈ record.dpopJkt, k ≠ "" ∧ k ≠ jkt
  · refine .inr ⟨fun h => ?_, _, by rw [if_pos hkey]; rfl, rfl⟩
    obtain ⟨k, hk, hne, hother⟩ := hkey
    exact hother (h.key k hk hne)
  · exact .inl (by rw [if_neg hkey]; rfl)

/-- **A grant is found valid**, or the request is refused. -/
lemma alone_validGrant {grantId : String} {y : Except Exn GrantRecord}
    (h : RunsAlone P config backend (validGrant grantId) w es y w') (hok : Untroubled es) :
    (∃ grant, ValidGrant w grantId grant ∧ y = .ok grant) ∨
      (¬∃ grant, ValidGrant w grantId grant) ∧ Refused y := by
  unfold validGrant at h
  rcases h.bind with ⟨found, es₁, es₂, w₁, h1, h2, rfl⟩ | ⟨e, h1, rfl⟩
  swap
  · obtain ⟨_, -, -, hr⟩ := alone_db_ok h1 hok.unfailing
    cases hr
  obtain ⟨a, hc, -, ha⟩ := alone_db_ok h1 (untroubled_append.mp hok).1.unfailing
  obtain rfl := Except.ok.inj ha
  have hfound := hc.grantsFind
  cases found with
  | none =>
    refine .inr ⟨fun hx => ?_, _, h2.of_throw.2.1, rfl⟩
    obtain ⟨grant, hv⟩ := hx
    rw [hv.found] at hfound
    cases hfound
  | some grant =>
    have hsame : ∀ grant', ValidGrant w grantId grant' → grant' = grant := fun grant' hv =>
      Option.some.inj (hv.found.symm.trans hfound)
    rcases alone_bind_refused h2 (untroubled_append.mp hok).2 fun h3 _ =>
      alone_throwIf_refused h3 rfl
      with ⟨_, _, _, ⟨-, hunrevoked⟩, -, h4⟩ | ⟨hrevoked, hrefused⟩
    · exact .inl ⟨grant, ⟨hfound, not_not.mp hunrevoked⟩, h4.of_ret.2.1⟩
    · refine .inr ⟨fun hx => ?_, hrefused⟩
      obtain ⟨grant', hv⟩ := hx
      exact hrevoked (hsame grant' hv ▸ hv.unrevoked)

/-- The checks of a redeemed code, as they are thrown. -/
lemma alone_checkRedeemed {record : AuthorizationCodeRecord} {clientId jkt : String}
    {redirectUri codeVerifier : Option String} {y : Except Exn Unit}
    (h : RunsAlone P config backend (Prog.settle Exn.oauth
      (checkRedeemed P record clientId redirectUri codeVerifier jkt)) w es y w') :
    (∃ u, (w' = w ∧ RedeemedChecked P record clientId redirectUri codeVerifier jkt) ∧ y = .ok u) ∨
      ¬RedeemedChecked P record clientId redirectUri codeVerifier jkt ∧ Refused y := by
  obtain ⟨-, rfl, ⟨u, hchecked, hy⟩ | ⟨e, herr, hy⟩⟩ := h.settle
  · exact .inl ⟨u, ⟨rfl, .of_eq_ok hchecked⟩, hy⟩
  · rcases checkRedeemed_cases (P := P) record clientId redirectUri codeVerifier jkt with
      hpass | ⟨hno, e', herr', hstatus⟩
    · rw [hpass] at herr
      cases herr
    · obtain rfl := Except.error.inj (herr'.symm.trans herr)
      exact .inr ⟨hno, e', hy, hstatus⟩

/-- **A code that was used up** is exchanged when it passes its checks and its grant is valid. -/
lemma alone_redeemed {record : AuthorizationCodeRecord} {clientId jkt : String}
    {redirectUri codeVerifier : Option String}
    {y : Except Exn (AuthorizationCodeRecord × GrantRecord)}
    (h : RunsAlone P config backend (Prog.settle Exn.oauth
      (checkRedeemed P record clientId redirectUri codeVerifier jkt) >>= fun _ =>
      validGrant record.grantId >>= fun grant => pure (record, grant)) w es y w')
    (hok : Untroubled es) :
    (∃ grant, RedeemedChecked P record clientId redirectUri codeVerifier jkt ∧
        ValidGrant w record.grantId grant ∧ y = .ok (record, grant)) ∨
      (RedeemedChecked P record clientId redirectUri codeVerifier jkt →
        ¬∃ grant, ValidGrant w record.grantId grant) ∧ Refused y := by
  rcases alone_bind_refused
    (A := fun _ w₁ => w₁ = w ∧ RedeemedChecked P record clientId redirectUri codeVerifier jkt)
    (N := ¬RedeemedChecked P record clientId redirectUri codeVerifier jkt) h hok fun h1 _ =>
      alone_checkRedeemed h1 with ⟨_, _, _, ⟨rfl, hchecked⟩, hok₂, h2⟩ | ⟨hno, hrefused⟩
  · rcases alone_bind_refused
      (A := fun grant _ => ValidGrant _ record.grantId grant) h2 hok₂ fun h3 hok₃ =>
      alone_validGrant h3 hok₃ with ⟨grant, _, _, hgrant, -, h4⟩ | ⟨hno, hrefused⟩
    · exact .inl ⟨grant, hchecked, hgrant, h4.of_ret.2.1⟩
    · exact .inr ⟨fun _ => hno, hrefused⟩
  · exact .inr ⟨fun hc => absurd hc hno, hrefused⟩

/-- **A code is redeemed** when it is redeemable, and refused otherwise. -/
lemma alone_redeemAuthorizationCode {code clientId jkt : String}
    {redirectUri codeVerifier : Option String}
    {y : Except Exn (AuthorizationCodeRecord × GrantRecord)}
    (h : RunsAlone P config backend
      (redeemAuthorizationCode P code clientId redirectUri codeVerifier jkt) w es y w')
    (hok : Untroubled es) :
    (∃ record grant, RedeemableCode P w code clientId redirectUri codeVerifier jkt record grant ∧
        y = .ok (record, grant)) ∨
      (¬∃ record grant,
        RedeemableCode P w code clientId redirectUri codeVerifier jkt record grant) ∧
      Refused y := by
  unfold redeemAuthorizationCode at h
  obtain ⟨_, hok, h⟩ := alone_now_next h hok
  rcases h.bind with ⟨result, es₁, es₂, w₁, h1, h2, rfl⟩ | ⟨e, h1, rfl⟩
  swap
  · obtain ⟨_, -, -, hr⟩ := alone_db_ok h1 hok.unfailing
    cases hr
  obtain ⟨hok₁, hok₂⟩ := untroubled_append.mp hok
  obtain ⟨a, hc, -, ha⟩ := alone_db_ok h1 hok₁.unfailing
  obtain rfl := Except.ok.inj ha
  have heq := hc.eq_memory rfl
  simp only [Memory.exec, Memory.codesRedeem] at heq
  cases hrow : w.store.codes.get? (P.sha256Base64Url code) with
  | none =>
    rw [hrow] at heq
    obtain ⟨rfl, -⟩ := Prod.mk.inj heq
    refine .inr ⟨fun hx => ?_, _, h2.of_throw.2.1, rfl⟩
    obtain ⟨_, _, hr⟩ := hx
    rw [hr.unused] at hrow
    cases hrow
  | some row =>
    have hsame : ∀ record, w.store.codes.get? (P.sha256Base64Url code) = some ⟨record, none⟩ →
        row = ⟨record, none⟩ := fun record hr => Option.some.inj (hrow.symm.trans hr)
    rw [hrow] at heq
    dsimp only at heq
    split_ifs at heq with hconsumed hexpired
    · -- a code that was used: the revocations are made, and the request is refused
      obtain ⟨rfl, -⟩ := Prod.mk.inj heq
      refine .inr ⟨fun hx => ?_, ?_⟩
      · obtain ⟨record, _, hr⟩ := hx
        rw [hsame record hr.unused] at hconsumed
        cases hconsumed
      · obtain ⟨_, _, _, hok₃, h3⟩ := alone_db_next h2 hok₂
        obtain ⟨_, _, _, hok₄, h4⟩ := alone_db_next h3 hok₃
        obtain ⟨_, _, _, hok₅, h5⟩ := alone_db_next h4 hok₄
        exact ⟨_, h5.of_throw.2.1, rfl⟩
    · obtain ⟨rfl, -⟩ := Prod.mk.inj heq
      refine .inr ⟨fun hx => ?_, _, h2.of_throw.2.1, rfl⟩
      obtain ⟨record, _, hr⟩ := hx
      rw [hsame record hr.unused] at hexpired
      exact absurd hr.unexpired (by simpa using hexpired)
    · obtain ⟨rfl, hstore⟩ := Prod.mk.inj heq
      have hvalid : ∀ {grant}, ValidGrant w₁ row.record.grantId grant ↔
          ValidGrant w row.record.grantId grant := by
        intro grant
        have hgrants : w₁.store.grants = w.store.grants := by rw [hstore]
        exact ⟨fun h => ⟨hgrants ▸ h.found, h.unrevoked⟩, fun h => ⟨hgrants ▸ h.found, h.unrevoked⟩⟩
      rcases alone_redeemed h2 hok₂ with ⟨grant, hchecked, hgrant, hy⟩ | ⟨hno, hrefused⟩
      · have hunused : row = ⟨row.record, none⟩ := by
          obtain ⟨record, consumedAt⟩ := row
          simpa using hconsumed
        exact .inl ⟨row.record, grant, ⟨hrow.trans (congrArg some hunused), by simpa using hexpired,
          hchecked, hvalid.mp hgrant⟩, hy⟩
      · refine .inr ⟨fun hx => ?_, hrefused⟩
        obtain ⟨record, grant, hr⟩ := hx
        obtain rfl : row.record = record := by rw [hsame record hr.unused]
        exact hno hr.checked ⟨grant, hvalid.mpr hr.grant⟩

/-- **A refresh token is accepted** when it is usable, and refused otherwise. -/
lemma alone_loadRefreshGrant {token clientId : String} {y : Except Exn (GrantRecord × String)}
    (h : RunsAlone P config backend (loadRefreshGrant P token clientId) w es y w')
    (hok : Untroubled es) :
    (∃ record grant, UsableRefreshToken P w token clientId record grant ∧
        y = .ok (grant, record.scope)) ∨
      (¬∃ record grant, UsableRefreshToken P w token clientId record grant) ∧ Refused y := by
  unfold loadRefreshGrant at h
  obtain ⟨_, hok, h⟩ := alone_now_next h hok
  rcases h.bind with ⟨found, es₁, es₂, w₁, h1, h2, rfl⟩ | ⟨e, h1, rfl⟩
  swap
  · obtain ⟨_, -, -, hr⟩ := alone_db_ok h1 hok.unfailing
    cases hr
  obtain ⟨hok₁, hok₂⟩ := untroubled_append.mp hok
  obtain ⟨a, hc, hw, ha⟩ := alone_db_ok h1 hok₁.unfailing
  obtain rfl := Except.ok.inj ha
  obtain ⟨hfound, hstore⟩ := Prod.mk.inj (hc.eq_memory rfl)
  have hfound : w.store.refreshTokens.get? (P.sha256Base64Url token) = found := hfound.symm
  obtain rfl : w₁ = w := by
    rw [hw, hstore]
  cases found with
  | none =>
    refine .inr ⟨fun hx => ?_, _, h2.of_throw.2.1, rfl⟩
    obtain ⟨_, _, hr⟩ := hx
    rw [hr.found] at hfound
    cases hfound
  | some record =>
    have hsame : ∀ {record' grant}, UsableRefreshToken P w₁ token clientId record' grant →
        record' = record := fun hr => Option.some.inj (hr.found.symm.trans hfound)
    rcases alone_bind_refused h2 hok₂ fun h3 _ => alone_throwIf_refused h3 rfl
      with ⟨_, _, _, ⟨rfl, hlive⟩, hok₄, h4⟩ | ⟨hdead, hrefused⟩
    swap
    · refine .inr ⟨fun hx => ?_, hrefused⟩
      obtain ⟨record', grant, hu⟩ := hx
      obtain rfl := hsame hu
      rcases hdead with hrevoked | hexpired
      · exact hrevoked hu.unrevoked
      · rw [hu.unexpired] at hexpired
        cases hexpired
    rcases alone_bind_refused h4 hok₄ fun h5 _ => alone_throwIf_refused h5 rfl
      with ⟨_, _, _, ⟨rfl, howner⟩, hok₆, h6⟩ | ⟨hother, hrefused⟩
    swap
    · refine .inr ⟨fun hx => ?_, hrefused⟩
      obtain ⟨record', grant, hu⟩ := hx
      exact hother (hsame hu ▸ hu.owner)
    rcases alone_bind_refused
      (A := fun grant _ => ValidGrant _ record.grantId grant) h6 hok₆ fun h7 hok₇ =>
      alone_validGrant h7 hok₇ with ⟨grant, _, _, hgrant, -, h8⟩ | ⟨hno, hrefused⟩
    · obtain ⟨hunrevoked, hunexpired⟩ := not_or.mp hlive
      exact .inl ⟨record, grant, ⟨hfound, not_not.mp hunrevoked, by simpa using hunexpired,
        not_not.mp howner, hgrant⟩, h8.of_ret.2.1⟩
    · refine .inr ⟨fun hx => ?_, hrefused⟩
      obtain ⟨record', grant, hu⟩ := hx
      exact hno ⟨grant, hsame hu ▸ hu.grant⟩

/-! ## Exchanges -/

/-- **A request asks for an exchange that the tables allow**: of a redeemable code, or of a usable
refresh token for a scope within its own. -/
inductive Exchangeable (P : Platform) (w : World) (body : Params) (client : Client) (jkt : String) :
    Prop
  | code (code : String) (record : AuthorizationCodeRecord) (grant : GrantRecord)
      (asked : str (body.get "grant_type") = some "authorization_code")
      (presented : str (body.get "code") = some code)
      (redeemable : RedeemableCode P w code client.clientId (str (body.get "redirect_uri"))
        (str (body.get "code_verifier")) jkt record grant)
  | refresh (token scope : String) (record : RefreshTokenRecord) (grant : GrantRecord)
      (asked : str (body.get "grant_type") = some "refresh_token")
      (presented : str (body.get "refresh_token") = some token)
      (usable : UsableRefreshToken P w token client.clientId record grant)
      (within : refreshScope body record.scope = .ok scope)

variable {req : HttpRequest} {client : Client} {jkt : String} {reply : Reply}

/-- A code is exchanged when the tables allow it. -/
lemma alone_handleAuthorizationCode {y : Except Exn IssuedTokens}
    (h : RunsAlone P config backend (handleAuthorizationCode P config req.body client jkt) w
      es y w')
    (hok : Untroubled es) (hasked : str (req.body.get "grant_type") = some "authorization_code") :
    Exchangeable P w req.body client jkt ∧ (∃ tokens, y = .ok tokens) ∨
      ¬Exchangeable P w req.body client jkt ∧ Refused y := by
  have hone : ∀ {code}, str (req.body.get "code") = some code →
      (Exchangeable P w req.body client jkt ↔ ∃ record grant,
        RedeemableCode P w code client.clientId (str (req.body.get "redirect_uri"))
          (str (req.body.get "code_verifier")) jkt record grant) := by
    intro code hcode
    refine ⟨fun hx => ?_, fun hr => ?_⟩
    · cases hx with
      | code code' record grant _ hcode' hr =>
        obtain rfl := Option.some.inj (hcode.symm.trans hcode')
        exact ⟨record, grant, hr⟩
      | refresh _ _ _ _ hasked' =>
        rw [hasked] at hasked'
        exact absurd (Option.some.inj hasked') (by decide)
    · obtain ⟨record, grant, hr⟩ := hr
      exact .code code record grant hasked hcode hr
  unfold handleAuthorizationCode at h
  cases hcode : str (req.body.get "code") with
  | none =>
    rw [hcode] at h
    refine .inr ⟨fun hx => ?_, _, h.of_throw.2.1, rfl⟩
    cases hx with
    | code _ _ _ _ hcode' =>
      rw [hcode] at hcode'
      cases hcode'
    | refresh _ _ _ _ hasked' =>
      rw [hasked] at hasked'
      exact absurd (Option.some.inj hasked') (by decide)
  | some code =>
    rw [hcode] at h
    dsimp only at h
    rcases alone_bind_refused
      (A := fun r _ => RedeemableCode P w code client.clientId (str (req.body.get "redirect_uri"))
        (str (req.body.get "code_verifier")) jkt r.1 r.2) h hok fun h1 hok₁ => by
          refine (alone_redeemAuthorizationCode h1 hok₁).imp_left fun hr => ?_
          obtain ⟨record, grant, hr, hx⟩ := hr
          exact ⟨(record, grant), hr, hx⟩
      with ⟨⟨record, grant⟩, _, _, hr, hok₂, h2⟩ | ⟨hno, hrefused⟩
    · exact .inl ⟨(hone hcode).mpr ⟨record, grant, hr⟩, alone_issueTokenSet h2 hok₂⟩
    · exact .inr ⟨fun hx => hno ((hone hcode).mp hx), hrefused⟩

/-- A scope is refused with status 400. -/
lemma refreshScope_error {body : Params} {granted : String} {e : OAuthError}
    (h : refreshScope body granted = .error e) : e.status = 400 := by
  unfold refreshScope at h
  split at h
  · cases h
  · unfold reject at h
    split_ifs at h
    · obtain rfl := Except.error.inj h
      rfl
    · cases h

/-- A refresh token is exchanged when the tables allow it. -/
lemma alone_handleRefreshToken {y : Except Exn IssuedTokens}
    (h : RunsAlone P config backend (handleRefreshToken P config req.body client jkt) w es y w')
    (hok : Untroubled es) (hasked : str (req.body.get "grant_type") = some "refresh_token") :
    Exchangeable P w req.body client jkt ∧ (∃ tokens, y = .ok tokens) ∨
      ¬Exchangeable P w req.body client jkt ∧ Refused y := by
  have hone : Exchangeable P w req.body client jkt → ∃ token record grant scope,
      str (req.body.get "refresh_token") = some token ∧
      UsableRefreshToken P w token client.clientId record grant ∧
      refreshScope req.body record.scope = .ok scope := by
    intro hx
    cases hx with
    | code _ _ _ hasked' =>
      rw [hasked] at hasked'
      exact absurd (Option.some.inj hasked') (by decide)
    | refresh token scope record grant _ htoken hu hscope =>
      exact ⟨token, record, grant, scope, htoken, hu, hscope⟩
  unfold handleRefreshToken at h
  cases htoken : str (req.body.get "refresh_token") with
  | none =>
    rw [htoken] at h
    refine .inr ⟨fun hx => ?_, _, h.of_throw.2.1, rfl⟩
    obtain ⟨_, _, _, _, htoken', -⟩ := hone hx
    rw [htoken] at htoken'
    cases htoken'
  | some token =>
    rw [htoken] at h
    dsimp only at h
    rcases alone_bind_refused
      (A := fun r _ => ∃ record, UsableRefreshToken P w token client.clientId record r.1 ∧
        r.2 = record.scope) h hok fun h1 hok₁ => by
          refine (alone_loadRefreshGrant h1 hok₁).imp_left fun hu => ?_
          obtain ⟨record, grant, hu, hx⟩ := hu
          exact ⟨(grant, record.scope), ⟨record, hu, rfl⟩, hx⟩
      with ⟨⟨grant, granted⟩, _, _, ⟨record, hu, hgranted⟩, hok₂, h2⟩ | ⟨hno, hrefused⟩
    swap
    · refine .inr ⟨fun hx => ?_, hrefused⟩
      obtain ⟨token', record, grant, _, htoken', hu, -⟩ := hone hx
      obtain rfl := Option.some.inj (htoken.symm.trans htoken')
      exact hno ⟨record, grant, hu⟩
    obtain rfl : granted = record.scope := hgranted
    rcases alone_bind_refused (A := fun scope _ => refreshScope req.body record.scope = .ok scope)
      (N := ∃ e, refreshScope req.body record.scope = .error e) h2 hok₂ fun h3 _ => by
        obtain ⟨-, -, ⟨scope, hscope, hx⟩ | ⟨e, hscope, hx⟩⟩ := h3.settle
        · exact .inl ⟨scope, hscope, hx⟩
        · exact .inr ⟨⟨e, hscope⟩, e, hx, refreshScope_error hscope⟩
      with ⟨scope, _, _, hscope, hok₄, h4⟩ | ⟨⟨e, hscope⟩, hrefused⟩
    · obtain ⟨tokens, _, _, -, h5⟩ := alone_bind_ok h4 hok₄ fun h hok => alone_issueTokenSet h hok
      exact .inl ⟨.refresh token scope record grant hasked htoken hu hscope, _, h5.of_ret.2.1⟩
    · refine .inr ⟨fun hx => ?_, hrefused⟩
      obtain ⟨token', record', _, scope, htoken', hu', hscope'⟩ := hone hx
      obtain rfl := Option.some.inj (htoken.symm.trans htoken')
      obtain rfl := Option.some.inj (hu'.found.symm.trans hu.found)
      rw [hscope'] at hscope
      cases hscope

/-- **The grant that a token request asks for** is given when the tables allow it, and refused
otherwise. -/
lemma alone_handleGrant {y : Except Exn IssuedTokens}
    (h : RunsAlone P config backend (handleGrant P config req client jkt) w es y w')
    (hok : Untroubled es) :
    Exchangeable P w req.body client jkt ∧ (∃ tokens, y = .ok tokens) ∨
      ¬Exchangeable P w req.body client jkt ∧ Refused y := by
  unfold handleGrant at h
  cases hasked : str (req.body.get "grant_type") with
  | none =>
    rw [hasked] at h
    refine .inr ⟨fun hx => ?_, _, h.of_throw.2.1, rfl⟩
    cases hx with
    | code _ _ _ hasked' => cases hasked.symm.trans hasked'
    | refresh _ _ _ _ hasked' => cases hasked.symm.trans hasked'
  | some grantType =>
    rw [hasked] at h
    dsimp only at h
    split_ifs at h with hcode hrefresh
    · exact alone_handleAuthorizationCode h hok (hasked.trans (congrArg some hcode))
    · exact alone_handleRefreshToken h hok (hasked.trans (congrArg some hrefresh))
    · refine .inr ⟨fun hx => ?_, _, h.of_throw.2.1, rfl⟩
      cases hx with
      | code _ _ _ hasked' => exact hcode (Option.some.inj (hasked.symm.trans hasked'))
      | refresh _ _ _ _ hasked' => exact hrefresh (Option.some.inj (hasked.symm.trans hasked'))

/-- The tables and the clock decide whether an exchange is allowed. -/
lemma Exchangeable.of_eq {body : Params} (hcodes : w'.store.codes = w.store.codes)
    (hrefresh : w'.store.refreshTokens = w.store.refreshTokens)
    (hgrants : w'.store.grants = w.store.grants) (hclock : w'.clock = w.clock)
    (h : Exchangeable P w body client jkt) : Exchangeable P w' body client jkt := by
  have hvalid : ∀ {grantId grant}, ValidGrant w grantId grant → ValidGrant w' grantId grant :=
    fun hg => ⟨hgrants ▸ hg.found, hg.unrevoked⟩
  cases h with
  | code code record grant hasked hcode hr =>
    exact .code code record grant hasked hcode
      ⟨hcodes ▸ hr.unused, hclock ▸ hr.unexpired, hr.checked, hvalid hr.grant⟩
  | refresh token scope record grant hasked htoken hu hscope =>
    exact .refresh token scope record grant hasked htoken
      ⟨hrefresh ▸ hu.found, hu.unrevoked, hclock ▸ hu.unexpired, hu.owner, hvalid hu.grant⟩ hscope

lemma SameTokens.exchangeable {body : Params} (h : SameTokens w w') :
    Exchangeable P w' body client jkt ↔ Exchangeable P w body client jkt :=
  ⟨.of_eq h.codes.symm h.refreshTokens.symm h.grants.symm h.clock.symm,
    .of_eq h.codes h.refreshTokens h.grants h.clock⟩

/-! ## Token requests -/

/-- **A token request was authenticated and its proof accepted**: after the rate limiter let it
pass, its calls are those of an authentication that returned the client, and of a verification that
returned the key. -/
def ProvenAs (P : Platform) (config : AppConfig) (req : HttpRequest) (client : Client)
    (jkt : String)
    (es : List Event) : Prop :=
  ∃ q q', Prog.Path (authenticateClient P config req.body req.authorization) q (.ret client) ∧
    Prog.Path (verifyDpopProof P config req.dpop (tokenDpopContext P config)) q' (.ret jkt) ∧
    ⟨.allow req.ip, true⟩ :: (q ++ q') <+: es

/-- A check that is followed by calls has passed. -/
lemma alone_throwIf_next {c : Prop} [Decidable c] {e : OAuthError} {f : Unit → Handler α}
    {y : Except Exn α} (h : RunsAlone P config backend (throwIf c e >>= f) w es y w')
    (hne : es ≠ []) :
    RunsAlone P config backend (f ()) w es y w' := by
  rcases h.bind with ⟨_, es₁, es₂, w₁, h1, h2, rfl⟩ | ⟨e, h1, rfl⟩
  · obtain ⟨rfl, rfl, -⟩ := h1.throwIf
    exact h2
  · exact absurd h1.throwIf.1 hne

/-- The limiter keeps the tokens. -/
lemma exec_allow {ip : String} {x : Oracle} {allowed : Bool}
    (h : exec P config backend (.allow ip) x w = some (allowed, w')) : SameTokens w w' := by
  have h : some ((w.limiter.allow config.rateLimitPerMin ip w.clock).1, { w with
    limiter := (w.limiter.allow config.rateLimitPerMin ip w.clock).2 }) = some (allowed, w') := h
  obtain ⟨-, rfl⟩ := Prod.mk.inj (Option.some.inj h)
  exact ⟨rfl, fun _ hk => hk, rfl, rfl, rfl, rfl⟩

/-- **A token request with an accepted proof** goes on to its grant in a state with the same tokens.
-/
lemma alone_handleToken {x : Except Exn Reply}
    (h : RunsAlone P config backend (handleToken P config req) w es x w')
    (hproven : ProvenAs P config req client jkt es) (hok : Untroubled es) :
    ∃ w₁ es', SameTokens w w₁ ∧ Untroubled es' ∧
      RunsAlone P config backend (handleGrant P config req client jkt >>= fun response =>
        pure { status := 200, headers := [noStore, ("pragma", "no-cache")]
               body := .json response.toBody }) w₁ es' x w' := by
  obtain ⟨q, q', hauth, hproof, hprefix⟩ := hproven
  have hq : q ≠ [] := by
    rintro rfl
    unfold authenticateClient at hauth
    cases hauth
  have hq' : q' ≠ [] := by
    rintro rfl
    unfold verifyDpopProof at hproof
    cases hproof
  have hnext : ∀ {q es : List Event}, q ≠ [] → q <+: es → es ≠ [] := fun hne hp h =>
    hne (List.prefix_nil.mp (h ▸ hp))
  unfold handleToken rateLimited requireForm at h
  rcases h.bind with ⟨allowed, es₁, es₂, w₁, h1, h2, rfl⟩ | ⟨e, h1, rfl⟩
  swap
  · obtain ⟨_, _, -, -, hr⟩ := h1.perform
    cases hr
  obtain ⟨o, r, hx, rfl, hr⟩ := h1.perform
  obtain rfl := Except.ok.inj hr
  obtain ⟨hhead, hrest⟩ := List.cons_prefix_cons.mp hprefix
  obtain rfl : allowed = true := by
    cases hhead
    rfl
  rw [if_pos rfl] at h2
  have hne : es₂ ≠ [] := hnext hq ((List.prefix_append q q').trans hrest)
  have h3 := alone_throwIf_next (alone_throwIf_next h2 hne) hne
  obtain ⟨es₃, w₂, h4, h5, rfl⟩ := h3.bind_of_path hauth ((List.prefix_append q q').trans hrest)
  have hrest' : q' <+: es₃ := (List.prefix_append_right_inj q).mp hrest
  have h6 := alone_throwIf_next h5 (hnext hq' hrest')
  obtain ⟨es₄, w₃, h7, h8, rfl⟩ := h6.bind_of_path hproof hrest'
  rw [← Prog.bind_assoc] at h8
  have hok₄ : Untroubled es₄ :=
    (untroubled_append.mp (untroubled_append.mp (untroubled_append.mp hok).2).2).2
  have hallow : exec P config backend (.allow req.ip) o w = some (true, w₁) := hx
  have hsame : SameTokens w w₃ := (exec_allow hallow).trans
    ((alone_authenticates h4 (authenticateClient_onlyCalls _ _)).trans
      (alone_authenticates h7 (verifyDpopProof_onlyCalls _ _)))
  rcases h8.bind with ⟨_, es₅, es₆, w₄, h9, h10, rfl⟩ | ⟨e, h9, rfl⟩
  · have hok' := untroubled_append.mp hok₄
    exact ⟨w₄, es₆, hsame.trans (alone_ensure h9 hok'.1.unfailing).1.sameTokens, hok'.2, h10⟩
  · cases (alone_ensure h9 hok₄.unfailing).2

/-- **Tokens are issued exactly for the exchanges that the tables allow.** Served alone, and while
no call rejects and every signature is made, a token request that was authenticated and whose proof
was accepted gets an access token exactly when it asks for an exchange that the tables and the clock
of the state allow: of a code that is unused, unexpired and passes its checks, or of a refresh token
of the client that is unrevoked and unexpired, both under a grant that is not revoked. Otherwise it
is refused with status 400.

**Proof sketch.** The authentication, the verification of the proof and the load of the keys keep
the tokens (`alone_handleToken`), so the grant is decided by the state before (`alone_handleGrant`):
every lookup returns what the tables hold, every check passes or refuses, and a token set is always
issued (`alone_issueTokenSet`). -/
theorem tokens_iff_exchangeable
    (h : RunsAlone P config backend (handler P config req) w es (.ok reply) w')
    (hroute : req.route = .token) (hmethod : req.method = "POST")
    (hproven : ProvenAs P config req client jkt es) (hok : Untroubled es) :
    (reply.isGrant = true ↔ Exchangeable P w req.body client jkt) ∧
      (reply.isGrant = false → reply.status = 400) := by
  unfold handler dispatch at h
  simp only [hroute, hmethod, if_true] at h
  obtain ⟨x, hx, hreply⟩ := alone_respond h
  obtain rfl := Except.ok.inj hreply
  obtain ⟨w₁, es', hsame, hok', hrest⟩ := alone_handleToken hx hproven hok
  rw [onSend_isGrant, onSend_status, ← hsame.exchangeable]
  rcases hrest.bind with ⟨response, es₁, es₂, w₂, h1, h2, rfl⟩ | ⟨e, h1, rfl⟩
  · obtain ⟨-, rfl, -⟩ := h2.of_ret
    rcases alone_handleGrant h1 (untroubled_append.mp hok').1 with ⟨hx, -⟩ | ⟨-, _, hr, -⟩
    · exact ⟨⟨fun _ => hx, fun _ => rfl⟩, fun hr => by cases hr⟩
    · cases hr
  · rcases alone_handleGrant h1 hok' with ⟨-, _, hr⟩ | ⟨hno, e', hr, hstatus⟩
    · cases hr
    · obtain rfl := Except.error.inj hr
      have hgrant : (replyOf (.error (.oauth e'))).isGrant = false := errorReply_isGrant (.oauth e')
      refine ⟨⟨fun hg => ?_, fun hx => absurd hx hno⟩, fun _ => hstatus⟩
      rw [hgrant] at hg
      cases hg

namespace Sample

/-! ## A redemption and its repetition -/

/-- What the outside chooses while the code is redeemed. -/
def redeemOracles : List Oracle :=
  [{}, {}, {}, {}, {}, {}, { loaded := some [signingKey] }, {}, {}, {}, {}, { random := jti },
    { token := .ok "t" }, {}, {}, { random := refresh }, {}]

/-- The token request is served without trouble, with an accepted proof; its reply has tokens or
not. -/
def tried (body proof : String) (oracles : List Oracle) (granted : Bool) (w : World) : Bool :=
  (system.evalAlone (handler platform Sample.config (redeem body proof)) oracles w).any fun x =>
    x.1.all (fun e => !isRejection e && !isUnsigned e) && x.1.head? = some ⟨.allow "", true⟩ &&
      ((authenticateClient platform Sample.config (redeem body proof).body none).outcome
        (x.1.tail.take 3)).any (fun y => y.toOption.isSome) &&
      ((verifyDpopProof platform Sample.config (redeem body proof).dpop
        (tokenDpopContext platform Sample.config)).outcome
        ((x.1.tail.drop 3).take 2)).any (fun y => y.toOption.isSome) &&
      x.2.1.toOption.any fun reply => reply.isGrant = granted

/-- What such a request came to. -/
lemma tried_eq_true {body proof : String} {oracles : List Oracle} {granted : Bool} {w : World}
    (h : tried body proof oracles granted w = true) : ∃ es reply w' client jkt,
    RunsAlone platform Sample.config .memory
    (handler platform Sample.config (redeem body proof)) w es
      (.ok reply) w' ∧
    ProvenAs platform Sample.config (redeem body proof) client jkt es ∧ Untroubled es ∧
    reply.isGrant = granted := by
  obtain ⟨⟨es, y, w'⟩, heval, htest⟩ := (Option.any_eq_true _ _).mp h
  simp only [Bool.and_eq_true, List.all_eq_true, Bool.not_eq_true', decide_eq_true_eq] at htest
  obtain ⟨⟨⟨⟨hok, hhead⟩, hauth⟩, hproof⟩, hreply⟩ := htest
  obtain ⟨z, hz, hclient⟩ := (Option.any_eq_true _ _).mp hauth
  obtain ⟨client, hclient⟩ := Option.isSome_iff_exists.mp hclient
  obtain rfl := eq_ok_of_toOption hclient
  obtain ⟨z', hz', hjkt⟩ := (Option.any_eq_true _ _).mp hproof
  obtain ⟨jkt, hjkt⟩ := Option.isSome_iff_exists.mp hjkt
  obtain rfl := eq_ok_of_toOption hjkt
  obtain ⟨reply, hreply, hgrant⟩ := (Option.any_eq_true _ _).mp hreply
  obtain rfl := eq_ok_of_toOption hreply
  refine ⟨es, reply, w', client, jkt, Sys.alone_of_evalAlone system heval,
    ⟨es.tail.take 3, (es.tail.drop 3).take 2, Prog.path_of_outcome hz, Prog.path_of_outcome hz',
      ?_⟩, ⟨fun e he => (hok e he).1, fun e he => (hok e he).2⟩, of_decide_eq_true hgrant⟩
  cases es with
  | nil => cases hhead
  | cons e es =>
    obtain rfl := Option.some.inj hhead
    refine List.cons_prefix_cons.mpr ⟨rfl, ?_⟩
    rw [List.tail_cons, ← List.take_add]
    exact List.take_prefix _ _

set_option maxRecDepth 4000 in
lemma tried_trace :
    (system.trace ⟨world, []⟩ authorized).any
    (fun t => tried "2" "p" redeemOracles true t.2.world) =
      true := by
  decide +kernel

set_option maxRecDepth 4000 in
lemma repeated_trace : (system.trace ⟨world, []⟩ redemption).any
    (fun t => tried "3" "q" (List.replicate 12 {}) false t.2.world) = true := by
  decide +kernel

/-- The code is exchanged after its authorization, and a repetition of the request is refused. -/
theorem redemption_exchangeable :
    (∃ w es reply w' client jkt, RunsAlone platform Sample.config .memory
        (handler platform Sample.config (redeem "2" "p")) w es (.ok reply) w' ∧
      reply.isGrant = true ∧ Exchangeable platform w (redeem "2" "p").body client jkt) ∧
    ∃ w es reply w' client jkt, RunsAlone platform Sample.config .memory
        (handler platform Sample.config (redeem "3" "q")) w es (.ok reply) w' ∧
      reply.status = 400 ∧ ¬Exchangeable platform w (redeem "3" "q").body client jkt := by
  obtain ⟨t, -, ht⟩ := (Option.any_eq_true _ _).mp tried_trace
  obtain ⟨es, reply, w', client, jkt, hrun, hproven, hok, hgrant⟩ := tried_eq_true ht
  obtain ⟨t', -, ht'⟩ := (Option.any_eq_true _ _).mp repeated_trace
  obtain ⟨es', reply', w'', client', jkt', hrun', hproven', hok', hgrant'⟩ := tried_eq_true ht'
  obtain ⟨hiff, -⟩ := tokens_iff_exchangeable hrun rfl rfl hproven hok
  obtain ⟨hiff', hrefused⟩ := tokens_iff_exchangeable hrun' rfl rfl hproven' hok'
  refine ⟨⟨_, es, reply, w', client, jkt, hrun, hgrant, hiff.mp hgrant⟩,
    _, es', reply', w'', client', jkt', hrun', hrefused hgrant', fun hx => ?_⟩
  have hissued := hiff'.mpr hx
  rw [hgrant'] at hissued
  cases hissued

end Sample

end Fapi2As
