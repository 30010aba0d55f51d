import Fapi2As.Js.Text
import Fapi2As.Js.Value

set_option relaxedAutoImplicit false
set_option autoImplicit false

/-!
# The error model

Errors of the token-endpoint style (RFC 6749 §5.2) and of the authorization endpoint, the other
exceptions that code of the server can throw, and the JSON body of an error.

## Main definitions

* `Fapi2As.OAuthError`, with its constructors `Fapi2As.invalidRequest`, `Fapi2As.invalidClient`, …
* `Fapi2As.Exn` — everything that can be thrown.
* `Fapi2As.sanitizeErrorDescription`, `Fapi2As.OAuthError.toBody`.
* `Fapi2As.reject` — the check that throws.
-/

namespace Fapi2As

open Js

/-- Token-endpoint error codes. -/
inductive TokenErrorCode
  | invalidRequest
  | invalidClient
  | invalidGrant
  | unauthorizedClient
  | unsupportedGrantType
  | invalidScope
  | unsupportedResponseType
  | invalidDpopProof
  | useDpopNonce
  | unsupportedTokenType
  | serverError
  deriving DecidableEq

/-- The code as it is sent. -/
def TokenErrorCode.text : TokenErrorCode → String
  | invalidRequest => "invalid_request"
  | invalidClient => "invalid_client"
  | invalidGrant => "invalid_grant"
  | unauthorizedClient => "unauthorized_client"
  | unsupportedGrantType => "unsupported_grant_type"
  | invalidScope => "invalid_scope"
  | unsupportedResponseType => "unsupported_response_type"
  | invalidDpopProof => "invalid_dpop_proof"
  | useDpopNonce => "use_dpop_nonce"
  | unsupportedTokenType => "unsupported_token_type"
  | serverError => "server_error"

/-- Authorization endpoint error codes that the server sends. -/
inductive AuthorizeErrorCode
  | invalidRequest
  | unauthorizedClient
  | accessDenied
  | unsupportedResponseType
  | invalidScope
  | interactionRequired
  | loginRequired
  deriving DecidableEq

/-- The code as it is sent. -/
def AuthorizeErrorCode.text : AuthorizeErrorCode → String
  | invalidRequest => "invalid_request"
  | unauthorizedClient => "unauthorized_client"
  | accessDenied => "access_denied"
  | unsupportedResponseType => "unsupported_response_type"
  | invalidScope => "invalid_scope"
  | interactionRequired => "interaction_required"
  | loginRequired => "login_required"

/-- The characters RFC 6749 §5.2 allows in an error description, with HTAB, LF and CR. -/
def isNqschar (c : Char) : Bool :=
  c.toNat = 0x09 || c.toNat = 0x0a || c.toNat = 0x0d ||
    (0x20 ≤ c.toNat && c.toNat ≤ 0x21) || (0x23 ≤ c.toNat && c.toNat ≤ 0x5b) ||
    (0x5d ≤ c.toNat && c.toNat ≤ 0x7e)

/-- Shrink every run of two or more blanks to one blank. -/
def collapseBlanks : List Char → List Char
  | [] => []
  | [c] => [c]
  | ' ' :: ' ' :: l => collapseBlanks (' ' :: l)
  | c :: l => c :: collapseBlanks l

/-- Replace every disallowed character by a blank, shrink runs of blanks, and trim. -/
def sanitizeErrorDescription (text : String) : String :=
  trim (String.ofList (collapseBlanks (text.toList.map fun c => if isNqschar c then c else ' ')))

/-- An OAuth error: code, description, HTTP status and extra headers. -/
structure OAuthError where
  error : TokenErrorCode
  description : Option String := none
  status : ℕ := 400
  headers : List (String × String) := []
  deriving DecidableEq

/-- The JSON body of an error; an empty description is left out. -/
def OAuthError.toBody (e : OAuthError) : Params :=
  match e.description with
  | some d =>
    if d = "" then [("error", .str e.error.text)]
    else [("error", .str e.error.text), ("error_description", .str (sanitizeErrorDescription d))]
  | none => [("error", .str e.error.text)]

/-- `invalidRequest(d)`. -/
def invalidRequest (d : String) : OAuthError := { error := .invalidRequest, description := d }

/-- `invalidClient(d)`: status 401. -/
def invalidClient (d : String) : OAuthError :=
  { error := .invalidClient, description := d, status := 401 }

/-- `invalidGrant(d)`. -/
def invalidGrant (d : String) : OAuthError := { error := .invalidGrant, description := d }

/-- `unsupportedGrantType(d)`. -/
def unsupportedGrantType (d : String) : OAuthError :=
  { error := .unsupportedGrantType, description := d }

/-- `invalidScope(d)`. -/
def invalidScope (d : String) : OAuthError := { error := .invalidScope, description := d }

/-- `invalidDpopProof(d)`. -/
def invalidDpopProof (d : String) : OAuthError := { error := .invalidDpopProof, description := d }

/-- `useDpopNonce(nonce)`: the `DPoP-Nonce` header carries the nonce. -/
def useDpopNonce (nonce : String) : OAuthError :=
  { error := .useDpopNonce
    description := "authorization server requires nonce in DPoP proof"
    headers := [("dpop-nonce", nonce)] }

/-- Everything the code of the server can throw: an OAuth error, the three error classes that
are caught by type, and any other error. -/
inductive Exn
  | oauth (e : OAuthError)
  | invalidClientMetadata
  | jwksUnavailable
  | jwsVerification
  | other
  deriving DecidableEq

/-! ## Checks that throw -/

/-- `if (c) throw e`. -/
def reject (c : Prop) [Decidable c] (e : OAuthError) : Except OAuthError Unit :=
  if c then .error e else .ok ()

@[simp] lemma reject_eq_ok {c : Prop} [Decidable c] {e : OAuthError} {u : Unit} :
    reject c e = .ok u ↔ ¬c := by
  unfold reject
  split_ifs with h <;> simp [h]

/-- A sequence of two steps succeeds when both do. -/
lemma bind_eq_ok {ε α β : Type} {x : Except ε α} {f : α → Except ε β} {b : β} :
    (x >>= f) = .ok b ↔ ∃ a, x = .ok a ∧ f a = .ok b := by
  cases x <;> simp [bind, Except.bind]

end Fapi2As
