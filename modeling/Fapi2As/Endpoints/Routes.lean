import Fapi2As.Endpoints.Backchannel
import Fapi2As.Endpoints.Frontchannel

set_option relaxedAutoImplicit false
set_option autoImplicit false

/-!
# Routing

## Main definitions

* `Fapi2As.dispatch` — the handler of a request by route and method.
* `Fapi2As.handler` — the same inside the error handler.
-/

namespace Fapi2As

open Js Async

variable (P : Platform) (config : AppConfig)

/-- The methods a `GET` route answers; `HEAD` is served by the handler of `GET`. -/
def isGet (method : String) : Bool := method = "GET" || method = "HEAD"

/-- No route. -/
def notFound : Reply := { status := 404 }

/-- `GET /jwks`. -/
def handleJwks : Handler Reply := do
  let ready ← Prog.perform Call.ensure
  awaited ready
  let keys ← Prog.perform Call.publicJwks
  pure { body := .json [("keys", .arr keys)] }

/-- The parameters of an authorization request: the form of a `POST`, the query otherwise. -/
def authorizeParams (req : HttpRequest) : Params :=
  if req.method = "POST" then req.body else req.query

/-- The handler of a request. -/
def dispatch (req : HttpRequest) : Handler Reply :=
  match req.route with
  | .par =>
    if req.method = "POST" then handlePar P config req
    else if ["GET", "HEAD", "PUT", "DELETE", "PATCH", "OPTIONS"].contains req.method then
      pure parMethodNotAllowed
    else pure notFound
  | .authorize =>
    if req.method = "POST" ∨ isGet req.method then
      handleAuthorize P config req (authorizeParams req)
    else pure notFound
  | .interaction => if isGet req.method then handleInteraction P config req else pure notFound
  | .interactionLogin =>
    if req.method = "POST" then handleLogin P config req else pure notFound
  | .interactionConsent =>
    if req.method = "POST" then handleConsent P config req else pure notFound
  | .token => if req.method = "POST" then handleToken P config req else pure notFound
  | .revoke => if req.method = "POST" then handleRevoke P config req else pure notFound
  | .introspect => if req.method = "POST" then handleIntrospect P config req else pure notFound
  | .userinfo =>
    if isGet req.method ∨ req.method = "POST" then handleUserinfo P config req else pure notFound
  | .jwks => if isGet req.method then handleJwks else pure notFound

/-- The program that serves a request. -/
def handler (req : HttpRequest) : Handler Reply := respond (dispatch P config req)

end Fapi2As
