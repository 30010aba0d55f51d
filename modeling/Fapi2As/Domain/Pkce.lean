import Fapi2As.Domain.AuthzRequest

set_option relaxedAutoImplicit false
set_option autoImplicit false

/-!
# PKCE verification

## Main definitions

* `Fapi2As.verifyS256` — a verifier matches a challenge under S256.
-/

namespace Fapi2As

variable (P : Platform)

/-- The verifier is well formed and its hash is the challenge. `CODE_VERIFIER` is the pattern of
`CODE_CHALLENGE`. -/
def verifyS256 (verifier challenge : String) : Bool :=
  isCodeChallenge verifier && P.sha256Base64Url verifier = challenge

end Fapi2As
