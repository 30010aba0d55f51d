import Fapi2As.Js.Text
import Fapi2As.Js.Value

set_option relaxedAutoImplicit false
set_option autoImplicit false

/-!
# Platform

The functions of Node, of the WHATWG URL parser and of the JOSE library that the server calls
and that are not part of its source. They are the parameters of the development: every
definition that depends on them takes a `Fapi2As.Platform`.

A JWT carries its own header and claims: what the library returns for a token that verifies is
read off the token by `Platform.decodeProtectedHeader` and `Platform.jwtClaims`, and
`Platform.jwtVerify` says whether it verifies.

## Main definitions

* `Fapi2As.Url` — a parsed URL.
* `Fapi2As.KeyInput`, `Fapi2As.VerifyOptions`, `Fapi2As.JoseError` — the interface of `jwtVerify`.
* `Fapi2As.Platform` — the external functions.
-/

namespace Fapi2As

open Js

/-- The components of a parsed URL that the server reads, and its query as name/value pairs. -/
structure Url where
  protocol : String
  hostname : String
  host : String
  port : String
  origin : String
  pathname : String
  hash : String
  searchParams : List (String × String)
  deriving DecidableEq

/-- An error thrown by the JOSE library or by the fetch of a key set: its `code` property. -/
structure JoseError where
  code : Option String
  deriving DecidableEq

/-- The key argument of `jwtVerify`: a local key set, a remote key set with the result of
fetching it, or the key embedded in the token's header. -/
inductive KeyInput
  | localJwks (keys : List Json)
  | remoteJwks (fetched : Except JoseError (List Json))
  | embeddedJwk

/-- The options of `jwtVerify` that the server sets; the clock tolerance is always large enough
to disable the library's own expiry check. -/
structure VerifyOptions where
  algorithms : Option (List String) := none
  typ : Option String := none
  issuer : Option String := none

/-- What Node, the URL parser and the JOSE library compute. -/
structure Platform where
  /-- `createHash("sha256").update(value, "utf8").digest("base64url")`. -/
  sha256Base64Url : String → String
  /-- `createHmac("sha256", secret).update(data).digest("base64url")`. -/
  hmacBase64Url : (secret data : String) → String
  /-- `new URL(s)`, `none` when it throws. -/
  newURL : String → Option Url
  /-- `url.toString()`. -/
  urlToString : Url → String
  /-- `JSON.parse(s)`, `none` when it throws. -/
  jsonParse : String → Option Json
  /-- `String(v)`, with `none` for `undefined`. -/
  stringOf : Option Json → String
  /-- `JSON.stringify(v)`. -/
  jsonStringify : Json → String
  /-- `Buffer.from(s, "base64url").toString("utf8")`. -/
  base64urlDecode : String → String
  /-- `decodeProtectedHeader(token)`, `none` when it throws. -/
  decodeProtectedHeader : String → Option Params
  /-- Whether `jwtVerify(token, keys, options)` resolves, or the error it rejects with. -/
  jwtVerify : String → KeyInput → VerifyOptions → Except JoseError Unit
  /-- The claims of a token, as `jwtVerify` returns them when it resolves. -/
  jwtClaims : String → Params
  /-- `calculateJwkThumbprint(jwk, "sha256")`, `none` when it throws. -/
  calculateJwkThumbprint : Json → Option String

end Fapi2As
