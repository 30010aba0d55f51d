import Fapi2As.Domain.Dpop

set_option relaxedAutoImplicit false
set_option autoImplicit false

/-!
# Login sessions and CSRF tokens

The login session is a signed cookie value; a CSRF token is a MAC over the id it is anchored to.

## Main definitions

* `Fapi2As.LoginSession`, `Fapi2As.sealSession`, `Fapi2As.openSession`.
* `Fapi2As.issueCsrfToken`, `Fapi2As.verifyCsrfToken`.
* `Fapi2As.sessionCookie`, `Fapi2As.readCookie`.
-/

namespace Fapi2As

open Js

variable (P : Platform)

/-- A login session; `acr` and `amr` are whatever was sealed. -/
structure LoginSession where
  sid : String
  sub : String
  authTime : ℚ
  exp : ℚ
  acr : Option Json
  amr : Option Json

/-- The session as the JSON object that is sealed; `undefined` members are left out. -/
def LoginSession.toJson (session : LoginSession) : Json :=
  .obj ([("sid", .str session.sid), ("sub", .str session.sub), ("authTime", .num session.authTime),
    ("exp", .num session.exp)] ++ (session.acr.map fun v => ("acr", v)).toList ++
    (session.amr.map fun v => ("amr", v)).toList)

/-- The session in a JSON value, when its members have the right types. -/
def LoginSession.ofJson : Json → Option LoginSession
  | .obj fields => do
    let sid ← (Params.get fields "sid").bind asString
    let sub ← (Params.get fields "sub").bind asString
    let authTime ← num (Params.get fields "authTime")
    let exp ← num (Params.get fields "exp")
    return { sid, sub, authTime, exp
             acr := Params.get fields "acr"
             amr := Params.get fields "amr" }
  | _ => none

/-- `sealSession`: `payload.sig`. -/
def sealSession (session : LoginSession) (secret : String) : String :=
  let payload := base64urlText (P.jsonStringify session.toJson)
  payload ++ "." ++ P.hmacBase64Url secret payload

/-- `openSession`: the session of a value that is signed and has not expired. -/
def openSession (value : Option String) (secret : String) (nowSec : ℕ) : Option LoginSession := do
  let (payload, sig) ← (← value) |> cut '.'
  guard (payload ≠ "")
  guard (sig = P.hmacBase64Url secret payload)
  let obj ← P.jsonParse (P.base64urlDecode payload)
  let session ← LoginSession.ofJson obj
  guard (nowSec < session.exp)
  return session

/-- A session that opens at a second opens at every earlier one. -/
lemma openSession_mono {P : Platform} {value : Option String} {secret : String} {s s' : ℕ}
    {session : LoginSession}
    (hs : s ≤ s') (h : openSession P value secret s' = some session) :
    openSession P value secret s = some session := by
  simp only [openSession, Option.bind_eq_bind, Option.bind_eq_some_iff, Option.pure_def,
    Option.guard_eq_some', Option.some.injEq, Prod.exists, exists_const] at h ⊢
  obtain ⟨v, hv, payload, sig, hcut, hne, hsig, obj, hobj, x, hx, hexp, rfl⟩ := h
  have hexp' : ((s : ℕ) : ℚ) < x.exp := lt_of_le_of_lt (by exact_mod_cast hs) hexp
  exact ⟨v, hv, payload, sig, hcut, hne, hsig, obj, hobj, x, hx, hexp', rfl⟩

/-- The session in the JSON object that is sealed is the session. -/
lemma LoginSession.ofJson_toJson (session : LoginSession) :
    LoginSession.ofJson session.toJson = some session := by
  obtain ⟨sid, sub, authTime, exp, acr, amr⟩ := session
  cases acr <;> cases amr <;>
    simp [toJson, ofJson, Params.get, assoc, asString, num]

/-- The JSON and base64url functions of the platform give back a session that was sealed. -/
structure Sealable (P : Platform) (session : LoginSession) : Prop where
  /-- The text of a session is not empty. -/
  text : P.jsonStringify session.toJson ≠ ""
  /-- The payload is decoded and parsed to the session. -/
  payload : P.jsonParse (P.base64urlDecode (base64urlText (P.jsonStringify session.toJson))) =
    some session.toJson

/-- **A sealed session opens until it expires.** -/
lemma openSession_sealSession {P : Platform} {session : LoginSession} (h : Sealable P session)
    (secret : String) {nowSec : ℕ} (hexp : nowSec < session.exp) :
    openSession P (some (sealSession P session secret)) secret nowSec = some session := by
  have hdot : '.' ∉ (base64urlText (P.jsonStringify session.toJson)).toList := by
    intro hmem
    have : '.' ∈ base64urlAlphabet := mem_base64url (by simpa [base64urlText] using hmem)
    exact absurd this (by decide)
  have hcut : cut '.' (sealSession P session secret) =
      some (base64urlText (P.jsonStringify session.toJson),
        P.hmacBase64Url secret (base64urlText (P.jsonStringify session.toJson))) := cut_append hdot
  have hne : base64urlText (P.jsonStringify session.toJson) ≠ "" :=
    base64urlText_ne_empty h.text
  simp only [openSession, Option.bind_eq_bind, Option.bind_eq_some_iff, Option.pure_def,
    Option.guard_eq_some', Option.some.injEq, Prod.exists, exists_const]
  exact ⟨_, rfl, _, _, hcut, hne, rfl, _, h.payload, _, session.ofJson_toJson, hexp, rfl⟩

/-- `issueCsrfToken`. -/
def issueCsrfToken (sid secret : String) : String := P.hmacBase64Url secret ("csrf:" ++ sid)

/-- `verifyCsrfToken`. -/
def verifyCsrfToken (token : Option String) (sid secret : String) : Bool :=
  match token with
  | some t => t ≠ "" && t = issueCsrfToken P sid secret
  | none => false

variable {P} in
/-- A token that verifies is the one that was minted for the session. -/
lemma verifyCsrfToken_eq_true {token : Option String} {sid secret : String}
    (h : verifyCsrfToken P token sid secret = true) :
    token = some (issueCsrfToken P sid secret) := by
  unfold verifyCsrfToken at h
  split at h
  · simp only [Bool.and_eq_true, decide_eq_true_eq] at h
    rw [h.2]
  · cases h

/-- The name of the session cookie. -/
def sessionCookieName : String := "__Host-as_session"

/-- `sessionCookie`: the `Set-Cookie` value for a session; a lifetime of zero clears it. -/
def sessionCookie (value : String) (maxAgeSec : ℕ) : String :=
  sessionCookieName ++ "=" ++ (if maxAgeSec = 0 then "" else value) ++
    "; Path=/; HttpOnly; Secure; SameSite=Lax; Max-Age=" ++ toString maxAgeSec

/-- `readCookie`: the value of the first cookie of a name. -/
def readCookie (cookieHeader : Option String) (name : String) : Option String :=
  match cookieHeader with
  | none => none
  | some header => (split ';' header).findSome? fun part =>
    match cut '=' part with
    | some (n, v) => if trim n = name then some (trim v) else none
    | none => none

end Fapi2As
