import Fapi2As.Config
import Fapi2As.Domain.Interaction

set_option relaxedAutoImplicit false
set_option autoImplicit false

/-!
# Token construction

JWT access tokens, ID tokens and opaque refresh tokens: the claim sets, and the records kept for
introspection and revocation.

## Main definitions

* `Fapi2As.TokenIssuanceInput`, `Fapi2As.issueTokenSet` — the full token response for a grant.
* `Fapi2As.accessTokenClaims`, `Fapi2As.accessTokenRecord`, `Fapi2As.idTokenClaims`,
  `Fapi2As.refreshTokenRecord`.
* `Fapi2As.AccessTokenStored`, `Fapi2As.RefreshTokenStored` — the records that are inserted.

## Main results

* `Fapi2As.wp_issueTokenSet` — the calls of issuing a token set.
-/

namespace Fapi2As

open Js Async

variable (P : Platform) (config : AppConfig)

/-- What tokens are issued for. -/
structure TokenIssuanceInput where
  grantId : String
  clientId : String
  subject : String
  scope : String
  cnfJkt : String
  authTime : Option Date
  acr : Option Json := none
  amr : Option Json := none
  nonce : Option String := none

/-- The token response, without the members that are always the same. -/
structure IssuedTokens where
  accessToken : String
  expiresIn : ℕ
  scope : String
  refreshToken : Option String
  idToken : Option String

/-- The body of a token response. -/
def IssuedTokens.toBody (t : IssuedTokens) : Params :=
  [("access_token", .str t.accessToken), ("token_type", .str "DPoP"),
    ("expires_in", .num t.expiresIn), ("scope", .str t.scope)] ++
    (t.idToken.map fun v => ("id_token", Json.str v)).toList ++
    (t.refreshToken.map fun v => ("refresh_token", Json.str v)).toList

/-- The expiry of an access token issued at an instant. -/
def accessTokenExpiry (now : ℕ) : Date :=
  newDate ((now + config.accessTokenTtlSec * 1000 : ℕ) : ℚ)

/-- The claims of an access token. -/
def accessTokenClaims (input : TokenIssuanceInput) (jti : String) (now : ℕ) : Params :=
  [("iss", .str config.issuer), ("aud", .str config.accessTokenAudience),
    ("sub", .str input.subject), ("client_id", .str input.clientId),
    ("iat", .num (now / 1000 : ℕ)), ("exp", (accessTokenExpiry config now).seconds),
    ("jti", .str jti), ("scope", .str input.scope),
    ("cnf", .obj [("jkt", .str input.cnfJkt)])]

/-- The record of an access token. -/
def accessTokenRecord (input : TokenIssuanceInput) (jti : String) (now : ℕ) : AccessTokenRecord :=
  { jti := jti
    grantId := input.grantId
    clientId := input.clientId
    subject := input.subject
    scope := input.scope
    cnfJkt := some input.cnfJkt
    expiresAt := accessTokenExpiry config now
    revokedAt := none }

/-- The type of an access token. -/
def atJwt : String := "at+jwt"

/-- `issueAccessToken`: the token. -/
def issueAccessToken (input : TokenIssuanceInput) : Handler String := do
  let now ← now
  let jti ← randomUUID
  let signed ← Prog.perform (Call.signJwt (accessTokenClaims config input jti now) (some atJwt))
  let token ← awaited signed
  db (.accessTokensInsert (accessTokenRecord config input jti now))
  pure token

/-- A claim whose value is given. -/
def optionalClaim (name : String) (v : Option Json) : Params := (v.map fun v => (name, v)).toList

/-- A truthy value. -/
def truthy (v : Option Json) : Option Json :=
  v.filter fun v => match v with
    | .null => false
    | .bool b => b
    | .num q => q ≠ 0
    | .str s => s ≠ ""
    | _ => true

/-- The claims of an ID token. -/
def idTokenClaims (input : TokenIssuanceInput) (now : ℕ) : Params :=
  [("iss", .str config.issuer), ("sub", .str input.subject), ("aud", .str input.clientId),
    ("iat", .num (now / 1000 : ℕ)), ("exp", .num (now / 1000 + config.idTokenTtlSec : ℕ))] ++
    optionalClaim "nonce" (truthy (input.nonce.map .str)) ++
    optionalClaim "auth_time" (input.authTime.map Date.seconds) ++
    optionalClaim "acr" (truthy input.acr) ++ optionalClaim "amr" (truthy input.amr)

/-- `issueIdToken`. -/
def issueIdToken (input : TokenIssuanceInput) : Handler String := do
  let now ← now
  let signed ← Prog.perform (Call.signJwt (idTokenClaims config input now) none)
  awaited signed

/-- The record of a refresh token, stored by hash. -/
def refreshTokenRecord (token : String) (input : TokenIssuanceInput) (now : ℕ) :
    RefreshTokenRecord :=
  { tokenHash := P.sha256Base64Url token
    grantId := input.grantId
    clientId := input.clientId
    scope := input.scope
    expiresAt := newDate ((now + config.refreshTokenTtlSec * 1000 : ℕ) : ℚ)
    revokedAt := none }

/-- `issueRefreshToken`. -/
def issueRefreshToken (input : TokenIssuanceInput) : Handler String := do
  let now ← now
  let token ← randomBytes 32
  db (.refreshTokensInsert (refreshTokenRecord P config token input now))
  pure token

/-- Run a program when `c` holds. -/
def whenSome {α : Type} (c : Bool) (p : Handler α) : Handler (Option α) :=
  if c then do
    let a ← p
    pure (some a)
  else pure none

/-- The response for the tokens of an input. -/
def tokenResponse (input : TokenIssuanceInput) (accessToken : String)
    (idToken refreshToken : Option String) : IssuedTokens :=
  { accessToken := accessToken
    expiresIn := config.accessTokenTtlSec
    scope := input.scope
    refreshToken := refreshToken
    idToken := idToken }

/-- `issueTokenSet`. -/
def issueTokenSet (input : TokenIssuanceInput) (openid withRefreshToken : Bool) :
    Handler IssuedTokens := do
  let accessToken ← issueAccessToken config input
  let idToken ← whenSome openid (issueIdToken config input)
  let refreshToken ← whenSome withRefreshToken (issueRefreshToken P config input)
  pure (tokenResponse config input accessToken idToken refreshToken)

/-! ## The calls of issuing -/

variable {P config}

/-- The access token of an input is stored right after the calls `q`: its id has just been drawn
and the token signed. -/
def AccessTokenStored (config : AppConfig) (input : TokenIssuanceInput) (rec : AccessTokenRecord)
    (q : List Event) : Prop :=
  ∃ q₀ jti now token, q = q₀ ++ [⟨.randomUUID, jti⟩] ++
      [⟨.signJwt (accessTokenClaims config input jti now) (some atJwt), .ok token⟩] ∧
    rec = accessTokenRecord config input jti now

/-- The refresh token of an input is stored right after the calls `q`: it has just been drawn. -/
def RefreshTokenStored (P : Platform) (config : AppConfig) (input : TokenIssuanceInput)
    (rec : RefreshTokenRecord) (q : List Event) : Prop :=
  ∃ q₀ token now, q = q₀ ++ [⟨.randomBytes 32, token⟩] ∧
    rec = refreshTokenRecord P config token input now

/-- The signatures made while tokens are issued: of the access token of a drawn id, or of the ID
token. -/
inductive TokenSigned (config : AppConfig) (input : TokenIssuanceInput) (q : List Event) :
    Call → Prop
  | access (q₀ : List Event) (jti : String) (now : ℕ) (h : q = q₀ ++ [⟨.randomUUID, jti⟩]) :
      TokenSigned config input q (.signJwt (accessTokenClaims config input jti now) (some atJwt))
  | id (now : ℕ) : TokenSigned config input q (.signJwt (idTokenClaims config input now) none)

lemma wp_issueAccessToken {pre : List Event → Call → Prop}
    {post : List Event → Except Exn String → Prop} {past : List Event} {input : TokenIssuanceInput}
    (hq : Quiet pre) (hsign : ∀ q o, past <+: q → TokenSigned config input q o → pre q o)
    (hins : ∀ q rec, past <+: q → AccessTokenStored config input rec q →
      pre q (.db (.accessTokensInsert rec)))
    (hok : ∀ q rec token, past <+: q → ⟨.db (.accessTokensInsert rec), .ok ()⟩ ∈ q →
      rec.grantId = input.grantId → post q (.ok token))
    (herr : ∀ q e, past <+: q → post q (.error e)) :
    Prog.wp pre post past (issueAccessToken config input) := by
  unfold issueAccessToken
  rw [Prog.wp_bind, wp_now]
  refine ⟨hq _ _ rfl, fun t => ?_⟩
  have h1 : past <+: past ++ [⟨.now, t⟩] := List.prefix_append _ _
  simp only [Prog.Next]
  rw [Prog.wp_bind, wp_randomUUID]
  refine ⟨hq _ _ rfl, fun jti => ?_⟩
  have h2 : past <+: past ++ [⟨.now, t⟩] ++ [⟨.randomUUID, jti⟩] :=
    h1.trans (List.prefix_append _ _)
  simp only [Prog.Next]
  rw [Prog.wp_bind, Prog.wp_perform]
  refine ⟨hsign _ _ h2 (.access _ jti t rfl), fun signed => ?_⟩
  have h3 := fun e => h2.trans (List.prefix_append _ [e])
  simp only [Prog.Next]
  rw [Prog.wp_bind, wp_awaited]
  refine ⟨fun token ht => ?_, fun e _ => herr _ _ (h3 _)⟩
  subst ht
  simp only [Prog.Next]
  rw [Prog.wp_bind]
  have h4 := fun e e' => (h3 e).trans (List.prefix_append _ [e'])
  exact wp_db.mpr ⟨hins _ _ (h3 _) ⟨_, jti, t, token, rfl, rfl⟩,
    fun _ => hok _ _ _ (h4 _ _) (mem_past_last _ _) rfl, fun e => herr _ _ (h4 _ _)⟩

lemma wp_issueIdToken {pre : List Event → Call → Prop}
    {post : List Event → Except Exn String → Prop} {past : List Event} {input : TokenIssuanceInput}
    (hq : Quiet pre) (hsign : ∀ q o, past <+: q → TokenSigned config input q o → pre q o)
    (hpost : ∀ q x, past <+: q → post q x) :
    Prog.wp pre post past (issueIdToken config input) := by
  unfold issueIdToken
  rw [Prog.wp_bind, wp_now]
  refine ⟨hq _ _ rfl, fun t => ?_⟩
  have h1 : past <+: past ++ [⟨.now, t⟩] := List.prefix_append _ _
  simp only [Prog.Next]
  rw [Prog.wp_bind, Prog.wp_perform]
  refine ⟨hsign _ _ h1 (.id t), fun signed => ?_⟩
  have h2 := fun e => h1.trans (List.prefix_append _ [e])
  exact wp_awaited.mpr ⟨fun token _ => hpost _ _ (h2 _), fun e _ => hpost _ _ (h2 _)⟩

lemma wp_issueRefreshToken {pre : List Event → Call → Prop}
    {post : List Event → Except Exn String → Prop} {past : List Event} {input : TokenIssuanceInput}
    (hq : Quiet pre)
    (hins : ∀ q rec, past <+: q → RefreshTokenStored P config input rec q →
      pre q (.db (.refreshTokensInsert rec)))
    (hpost : ∀ q x, past <+: q → post q x) :
    Prog.wp pre post past (issueRefreshToken P config input) := by
  unfold issueRefreshToken
  rw [Prog.wp_bind, wp_now]
  refine ⟨hq _ _ rfl, fun t => ?_⟩
  have h1 : past <+: past ++ [⟨.now, t⟩] := List.prefix_append _ _
  simp only [Prog.Next]
  rw [Prog.wp_bind, wp_randomBytes]
  refine ⟨hq _ _ rfl, fun token => ?_⟩
  have h2 : past <+: past ++ [⟨.now, t⟩] ++ [⟨.randomBytes 32, token⟩] :=
    h1.trans (List.prefix_append _ _)
  have h3 := fun e => h2.trans (List.prefix_append _ [e])
  simp only [Prog.Next]
  rw [Prog.wp_bind]
  exact wp_db.mpr ⟨hins _ _ h2 ⟨_, token, t, rfl, rfl⟩, fun _ => hpost _ _ (h3 _),
    fun e => hpost _ _ (h3 _)⟩

lemma wp_whenSome {α : Type} {pre : List Event → Call → Prop}
    {post : List Event → Except Exn (Option α) → Prop} {past : List Event} {c : Bool}
    {p : Handler α} :
    Prog.wp pre post past (whenSome c p) ↔
      (c = true → Prog.wp pre (fun q x => post q (x.map some)) past p) ∧
        (c = false → post past (.ok none)) := by
  unfold whenSome
  cases c with
  | false => simp
  | true =>
    rw [if_pos rfl, Prog.wp_bind]
    refine ⟨fun h => ⟨fun _ => Prog.wp_mono (fun q x hx => ?_) h, nofun⟩,
      fun h => Prog.wp_mono (fun q x hx => ?_) (h.1 rfl)⟩
    all_goals
      cases x with
      | ok a => exact hx
      | error e => exact hx

/-- **The calls of issuing a token set**: the access token is signed and stored under an id that
has just been drawn, then the ID token is signed, then a refresh token that has just been drawn is
stored. -/
lemma wp_issueTokenSet {pre : List Event → Call → Prop}
    {post : List Event → Except Exn IssuedTokens → Prop} {past : List Event}
    {input : TokenIssuanceInput} {openid withRefreshToken : Bool} (hq : Quiet pre)
    (hsign : ∀ q o, past <+: q → TokenSigned config input q o → pre q o)
    (haccess : ∀ q rec, past <+: q → AccessTokenStored config input rec q →
      pre q (.db (.accessTokensInsert rec)))
    (hrefresh : ∀ q rec, past <+: q → withRefreshToken = true →
      RefreshTokenStored P config input rec q → pre q (.db (.refreshTokensInsert rec)))
    (hok : ∀ q rec tokens, past <+: q → ⟨.db (.accessTokensInsert rec), .ok ()⟩ ∈ q →
      rec.grantId = input.grantId → post q (.ok tokens))
    (herr : ∀ q e, past <+: q → post q (.error e)) :
    Prog.wp pre post past (issueTokenSet P config input openid withRefreshToken) := by
  unfold issueTokenSet
  rw [Prog.wp_bind]
  refine wp_issueAccessToken hq hsign haccess (fun q1 rec _ h1 hmem hg => ?_) herr
  simp only [Prog.Next]
  rw [Prog.wp_bind, wp_whenSome]
  have hlast : ∀ q (accessToken : String) (idToken : Option String), q1 <+: q →
      Prog.wp pre post q (whenSome withRefreshToken (issueRefreshToken P config input) >>=
        fun refreshToken =>
          pure (tokenResponse config input accessToken idToken refreshToken)) := by
    intro q accessToken idToken hpq
    rw [Prog.wp_bind, wp_whenSome]
    refine ⟨fun hw => wp_issueRefreshToken hq
      (fun q' rec h => hrefresh q' rec ((h1.trans hpq).trans h) hw) fun q' x h => ?_,
      fun _ => hok _ rec _ (h1.trans hpq) (hpq.mem hmem) hg⟩
    have h' := (h1.trans hpq).trans h
    cases x with
    | ok token => exact hok _ rec _ h' (h.mem (hpq.mem hmem)) hg
    | error e => exact herr _ _ h'
  refine ⟨fun _ => wp_issueIdToken hq (fun q o h => hsign q o (h1.trans h)) fun q x h => ?_,
    fun _ => hlast _ _ _ List.prefix_rfl⟩
  cases x with
  | ok idToken => exact hlast _ _ _ h
  | error e => exact herr _ _ (h1.trans h)

end Fapi2As
