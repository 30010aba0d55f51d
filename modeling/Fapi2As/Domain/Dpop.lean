import Fapi2As.Config
import Fapi2As.Crypto.Jws

set_option relaxedAutoImplicit false
set_option autoImplicit false

/-!
# DPoP proof verification

The checks of a DPoP proof at the token, PAR and userinfo endpoints, the stateless nonces, and
the replay entry that a proof leaves behind.

## Main definitions

* `Fapi2As.DpopContext`, `Fapi2As.verifyDpopProof` — the verification; it returns the thumbprint
  of the proof key.
* `Fapi2As.normalizeHtu`, `Fapi2As.issueNonce`, `Fapi2As.validNonce`.
* `Fapi2As.ProofChecked`, `Fapi2As.ProofAccepted` — what an accepted proof has passed.

## Main results

* `Fapi2As.ProofChecked.of_eq_ok` — what the checks before the replay guard establish.
* `Fapi2As.wp_verifyDpopProof` — the calls of the verification and its outcome.
-/

namespace Fapi2As

open Js Async

variable (P : Platform) (config : AppConfig)

/-- The DPoP header field of a request: a single one, or several. -/
inductive DpopHeader
  | one (proof : String)
  | many (proofs : List String)
  deriving DecidableEq

/-- What a proof is verified for. -/
structure DpopContext where
  htm : String
  htu : String
  ath : Option String := none
  replayContext : Option String := none

/-- Normalise a URL for comparison: no query, fragment or default port. -/
def normalizeHtu (url : String) : String :=
  match P.newURL url with
  | some u =>
    let defaultPort := (u.protocol = "https:" ∧ u.port = "443") ∨
      (u.protocol = "http:" ∧ u.port = "80")
    let host := if defaultPort then u.hostname else u.host
    u.protocol ++ "//" ++ host ++ u.pathname
  | none => url

/-! ## Nonces -/

/-- The length of the time window of a nonce. -/
def nonceWindowSec : ℕ := 60

/-- The nonce of a key and a URL in a time window. -/
def nonceFor (jkt htu : String) (window : ℤ) : String :=
  P.hmacBase64Url config.dpopNonceSecret (jkt ++ ":" ++ htu ++ ":" ++ toString window)

/-- The time window of an instant, `Math.floor(now / 1000 / 60)`. -/
def nonceWindow (now : ℕ) : ℤ := (now / 1000 / nonceWindowSec : ℕ)

/-- The nonce that is handed out at an instant. -/
def issueNonce (jkt htu : String) (now : ℕ) : String :=
  nonceFor P config jkt htu (nonceWindow now)

/-- A nonce of the current or the preceding window. -/
def validNonce (nonce jkt htu : String) (now : ℕ) : Bool :=
  nonce = nonceFor P config jkt htu (nonceWindow now) ||
    nonce = nonceFor P config jkt htu (nonceWindow now - 1)

/-! ## The checks of a proof -/

/-- The header field is one proof. -/
def singleProof : Option DpopHeader → Except OAuthError String
  | some (.many _) => .error (invalidDpopProof "multiple DPoP headers [RFC9449 §4.3]")
  | some (.one proof) =>
    if proof = "" then .error (invalidDpopProof "DPoP proof required [RFC9449 §5]") else .ok proof
  | none => .error (invalidDpopProof "DPoP proof required [RFC9449 §5]")

/-- The `jwk` member of a header, when it is an object. -/
def headerJwk (header : Params) : Option Json :=
  match header.get "jwk" with
  | some (.obj fields) => some (.obj fields)
  | some (.arr l) => some (.arr l)
  | _ => none

/-- A JWK has the private member `d`. -/
def hasPrivate : Json → Bool
  | .obj fields => (Params.get fields "d").isSome
  | _ => false

/-- A value that is there. -/
def present {α : Type} (v : Option α) (e : OAuthError) : Except OAuthError α :=
  match v with
  | some a => .ok a
  | none => .error e

lemma present_eq_ok {α : Type} {v : Option α} {e : OAuthError} {a : α} :
    present v e = .ok a ↔ v = some a := by
  cases v <;> simp [present]

/-- A claim that is a number. -/
def num : Option Json → Option ℚ
  | some (.num q) => some q
  | _ => none

/-- A claim that is a string equal to a given one. -/
def isText (v : Option Json) (s : String) : Bool :=
  match v with
  | some (.str t) => t = s
  | _ => false

/-- A claim that is a string naming the same URL as `url`. -/
def htuMatches (v : Option Json) (url : String) : Bool :=
  match v with
  | some (.str htu) => normalizeHtu P htu = normalizeHtu P url
  | _ => false

/-- A proof whose checks before the replay guard have passed: the proof, its key and the claims
that are still needed. -/
structure CheckedProof where
  proof : String
  jwk : Json
  jti : String
  iat : ℚ
  nonce : Option Json

/-- The checks of a proof up to its thumbprint, in order. -/
def checkProof (proofHeader : Option DpopHeader) (ctx : DpopContext) (now : ℕ) :
    Except OAuthError CheckedProof := do
  let proof ← singleProof proofHeader
  let header ← present (P.decodeProtectedHeader proof)
    (invalidDpopProof "malformed DPoP proof [RFC9449 §4.3]")
  reject (isText (header.get "typ") "dpop+jwt" = false)
    (invalidDpopProof "DPoP proof typ must be dpop+jwt [RFC9449 §4.2, §11.5]")
  let allowedAlgs := acceptedJwsAlgs config.dpopSigningAlgs
  reject (headerAlg header allowedAlgs = none) (invalidDpopProof
    ("DPoP proof alg not allowed: " ++ P.stringOf (header.get "alg") ++ " [FAPI2 5.4.1]"))
  let jwk ← present (headerJwk header)
    (invalidDpopProof "DPoP proof jwk header required [RFC9449 §4.2]")
  reject (hasPrivate jwk = true)
    (invalidDpopProof "DPoP proof jwk must not contain a private key [RFC9449 §4.3]")
  reject ((P.jwtVerify proof .embeddedJwk (algsOnly allowedAlgs)).isOk = false)
    (invalidDpopProof "DPoP proof signature invalid [RFC9449 §4.3]")
  let claims := P.jwtClaims proof
  let jti ← present (str (claims.get "jti"))
    (invalidDpopProof "DPoP proof jti required [RFC9449 §4.2]")
  reject (isText (claims.get "htm") ctx.htm = false)
    (invalidDpopProof "DPoP proof htm mismatch [RFC9449 §4.3]")
  reject (htuMatches P (claims.get "htu") ctx.htu = false)
    (invalidDpopProof "DPoP proof htu mismatch [RFC9449 §4.3]")
  let iat ← present (num (claims.get "iat"))
    (invalidDpopProof "DPoP proof iat required [RFC9449 §4.2]")
  let nowSec := now / 1000
  reject (iat > nowSec + config.clockSkewFutureAcceptSec)
    (invalidDpopProof "DPoP proof iat is in the future [RFC9449 §11.1]")
  reject (nowSec - iat > config.dpopProofMaxAgeSec)
    (invalidDpopProof "DPoP proof has expired [RFC9449 §11.1]")
  reject (∃ ath ∈ ctx.ath, isText (claims.get "ath") ath = false)
    (invalidDpopProof "DPoP proof ath does not match the access token [RFC9449 §4.3, §7]")
  .ok { proof, jwk, jti, iat, nonce := claims.get "nonce" }

/-- The replay id of a proof: key and jti. -/
def dpopReplayId (jkt jti : String) : String := jkt ++ "." ++ base64urlText jti

/-- The replay context: the override, or the normalised URL. -/
def DpopContext.replayKey (ctx : DpopContext) : String :=
  ctx.replayContext.getD ("dpop:" ++ normalizeHtu P ctx.htu)

/-- The instant until which the replay entry of a proof is kept. -/
def dpopReplayExpiry (iat : ℚ) : Date :=
  newDate ((iat + config.dpopProofMaxAgeSec + config.clockSkewFutureAcceptSec) * 1000)

/-- A nonce claim that is a valid nonce. -/
def nonceAccepted (nonce : Option Json) (jkt htu : String) (now : ℕ) : Bool :=
  match nonce with
  | some (.str n) => validNonce P config n jkt htu now
  | _ => false

/-- `verifyDpopProof`: the thumbprint of the proof key. -/
def verifyDpopProof (proofHeader : Option DpopHeader) (ctx : DpopContext) : Handler String := do
  let now ← now
  let p ← Prog.settle Exn.oauth (checkProof P config proofHeader ctx now)
  let jkt ← match P.calculateJwkThumbprint p.jwk with
    | some jkt => pure jkt
    | none => throw .other
  let htuKey := normalizeHtu P ctx.htu
  throwIf (config.dpopNonceRequired = true ∧ nonceAccepted P config p.nonce jkt htuKey now = false)
    (useDpopNonce (issueNonce P config jkt htuKey now))
  let fresh ← db (.jtiRegister (ctx.replayKey P) (dpopReplayId jkt p.jti)
    (dpopReplayExpiry config p.iat) now)
  throwIf (fresh = false) (invalidDpopProof "DPoP proof replay detected [RFC9449 §11.1]")
  pure jkt

/-! ## What an accepted proof has passed -/

/-- A proof that passed the checks before the replay guard at an instant. -/
structure ProofChecked (header : Option DpopHeader) (ctx : DpopContext) (now : ℕ)
    (p : CheckedProof) : Prop where
  /-- The header field is the proof alone. -/
  header_eq : header = some (.one p.proof)
  /-- The key is the one in the header of the proof. -/
  jwk : (P.decodeProtectedHeader p.proof).bind headerJwk = some p.jwk
  /-- The proof verifies under its own key. -/
  verified : (P.jwtVerify p.proof .embeddedJwk
    (algsOnly (acceptedJwsAlgs config.dpopSigningAlgs))).isOk = true
  /-- The jti is a claim. -/
  jti : str ((P.jwtClaims p.proof).get "jti") = some p.jti
  /-- The method is the one of the request. -/
  htm : isText ((P.jwtClaims p.proof).get "htm") ctx.htm = true
  /-- The URL is the one of the endpoint. -/
  htu : htuMatches P ((P.jwtClaims p.proof).get "htu") ctx.htu = true
  /-- The time of issuance is a claim. -/
  iat : num ((P.jwtClaims p.proof).get "iat") = some p.iat
  /-- The proof is not from the future. -/
  notFuture : p.iat ≤ (now / 1000 : ℕ) + config.clockSkewFutureAcceptSec
  /-- The proof has not expired. -/
  notExpired : (now / 1000 : ℕ) - p.iat ≤ config.dpopProofMaxAgeSec
  /-- The proof is bound to the access token, when there is one. -/
  ath : ∀ a ∈ ctx.ath, isText ((P.jwtClaims p.proof).get "ath") a = true

variable {P config}

lemma singleProof_eq_ok {header : Option DpopHeader} {proof : String}
    (h : singleProof header = .ok proof) : header = some (.one proof) := by
  unfold singleProof at h
  split at h
  · cases h
  · split_ifs at h
    rw [Except.ok.inj h]
  · cases h

/-- **The checks before the replay guard are sound.** -/
lemma ProofChecked.of_eq_ok {header : Option DpopHeader} {ctx : DpopContext} {now : ℕ}
    {p : CheckedProof} (h : checkProof P config header ctx now = .ok p) :
    ProofChecked P config header ctx now p := by
  simp only [checkProof, bind_eq_ok, reject_eq_ok, present_eq_ok] at h
  obtain ⟨proof, hproof, hdr, hhdr, _, -, _, -, jwk, hjwk, _, -, _, hver, jti, hjti, _, hhtm, _,
    hhtu, iat, hiat, _, hfut, _, hexp, _, hath, h⟩ := h
  simp only [Except.ok.injEq] at h
  subst h
  exact
    { header_eq := singleProof_eq_ok hproof
      jwk := by simp [hhdr, hjwk]
      verified := by simpa using hver
      jti := hjti
      htm := by simpa using hhtm
      htu := by simpa using hhtu
      iat := hiat
      notFuture := not_lt.mp hfut
      notExpired := not_lt.mp hexp
      ath := fun a ha => by simpa using fun hc => hath ⟨a, ha, hc⟩ }

/-- A proof that was accepted after the calls `q`: it passed the checks at a clock reading, and
its replay entry was fresh. -/
def ProofAccepted (P : Platform) (config : AppConfig) (header : Option DpopHeader)
    (ctx : DpopContext) (jkt : String) (q : List Event) : Prop :=
  ∃ now p, ⟨.now, now⟩ ∈ q ∧ ProofChecked P config header ctx now p ∧
    P.calculateJwkThumbprint p.jwk = some jkt ∧
    ⟨.db (.jtiRegister (ctx.replayKey P) (dpopReplayId jkt p.jti) (dpopReplayExpiry config p.iat)
      now), .ok true⟩ ∈ q

/-- A proof that is accepted stays accepted. -/
lemma ProofAccepted.mono {header : Option DpopHeader} {ctx : DpopContext} {jkt : String}
    {q q' : List Event} (h : ProofAccepted P config header ctx jkt q) (hq : q <+: q') :
    ProofAccepted P config header ctx jkt q' := by
  obtain ⟨now, p, h1, h2, h3, h4⟩ := h
  exact ⟨now, p, hq.mem h1, h2, h3, hq.mem h4⟩

/-- The registration of a replay entry for a checked proof. -/
def ProofRegisters (P : Platform) (config : AppConfig) (header : Option DpopHeader)
    (ctx : DpopContext) (o : Call) : Prop :=
  ∃ now p jkt, ProofChecked P config header ctx now p ∧
    P.calculateJwkThumbprint p.jwk = some jkt ∧
    o = .db (.jtiRegister (ctx.replayKey P) (dpopReplayId jkt p.jti) (dpopReplayExpiry config p.iat)
      now)

/-- **The calls of a proof verification and its outcome**: it reads the clock and registers the
replay entry of a checked proof, and it returns the thumbprint of an accepted proof. -/
lemma wp_verifyDpopProof {pre : List Event → Call → Prop}
    {post : List Event → Except Exn String → Prop} {past : List Event}
    {header : Option DpopHeader} {ctx : DpopContext} (hq : Quiet pre)
    (hreg : ∀ q o, past <+: q → ProofRegisters P config header ctx o → pre q o)
    (hok : ∀ q jkt, past <+: q → ProofAccepted P config header ctx jkt q → post q (.ok jkt))
    (herr : ∀ q e, past <+: q → post q (.error e)) :
    Prog.wp pre post past (verifyDpopProof P config header ctx) := by
  unfold verifyDpopProof
  rw [Prog.wp_bind, wp_now]
  refine ⟨hq _ _ rfl, fun t => ?_⟩
  have h1 : past <+: past ++ [⟨.now, t⟩] := List.prefix_append _ _
  simp only [Prog.Next]
  rw [Prog.wp_bind, Prog.wp_settle]
  refine ⟨fun p hp => ?_, fun e _ => herr _ _ h1⟩
  have hc := ProofChecked.of_eq_ok hp
  simp only [Prog.Next]
  cases hj : P.calculateJwkThumbprint p.jwk with
  | none => exact herr _ _ h1
  | some jkt =>
    change Prog.wp pre post _ (throwIf _ _ >>= _)
    rw [Prog.wp_bind, wp_throwIf]
    refine ⟨fun _ => herr _ _ h1, fun _ => ?_⟩
    simp only [Prog.Next]
    rw [Prog.wp_bind, wp_db]
    have h2 : ∀ r, past <+: past ++ [⟨.now, t⟩] ++ [r] := fun r => h1.trans (List.prefix_append _ _)
    refine ⟨hreg _ _ h1 ⟨t, p, jkt, hc, hj, rfl⟩, fun fresh => ?_, fun e => herr _ _ (h2 _)⟩
    simp only [Prog.Next]
    rw [Prog.wp_bind, wp_throwIf]
    refine ⟨fun _ => herr _ _ (h2 _), fun hf => hok _ _ (h2 _) ⟨t, p, ?_, hc, hj, ?_⟩⟩
    · simp
    · obtain rfl : fresh = true := by simpa using hf
      exact mem_past_last _ _

end Fapi2As
