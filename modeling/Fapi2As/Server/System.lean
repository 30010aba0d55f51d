import Fapi2As.Async.Run
import Fapi2As.Crypto.Jwks
import Fapi2As.Endpoints.RateLimit
import Fapi2As.Endpoints.Routes

set_option relaxedAutoImplicit false
set_option autoImplicit false

/-!
# The server as a system

The state that the requests of one server share (the tables, the loaded signing keys, the rate
limiter, the clock and the random values drawn so far), the effect of every call on it, and the
moves that no request makes: the clock is set, a client is registered.

Random values are fresh: none is drawn twice, and none has the hash of an earlier one. Whatever
comes from outside (a policy decision, a fetched key set, the rows a database reaps, a failure, the
signature of a token) is part of the action that makes a step.

## Main definitions

* `Fapi2As.World`, `Fapi2As.Oracle`, `Fapi2As.EnvMove`.
* `Fapi2As.exec` — the effect of a call; `Fapi2As.server` — the system.
-/

namespace Fapi2As

open Js Async

/-- The state shared by all requests. -/
structure World where
  store : Store := {}
  /-- The signing keys, once they are loaded. -/
  keys : Option (List SigningKeyRecord) := none
  limiter : RateLimiter := {}
  /-- The current instant, in milliseconds. -/
  clock : ℕ := 0
  /-- The random values drawn so far. -/
  drawn : List String := []

/-- What a call leaves to the outside. -/
structure Oracle where
  db : DbChoice := {}
  random : String := ""
  /-- The keys that a load of the keystore finds, `none` when it fails. -/
  loaded : Option (List SigningKeyRecord) := none
  token : Except Fault String := .error .rejected
  decision : Except Fault Bool := .error .rejected
  fetched : Except JoseError (List Json) := .ok []

/-- The moves that no request makes. -/
inductive EnvMove
  | setClock (t : ℕ)
  | upsertClient (rec : ClientRecord)

/-- A random value in base64url or hexadecimal characters. -/
def isRandomText (s : String) (length : ℕ) : Bool :=
  s.toList.all isBase64urlChar && s.toList.length = length

/-- The length of `size` bytes in base64url. -/
def base64urlLength (size : ℕ) : ℕ := (4 * size + 2) / 3

variable (P : Platform) (config : AppConfig) (backend : Backend)

/-- Draw a random value: it is fresh, and so is its hash. -/
def draw (w : World) (s : String) (length : ℕ) : Option (String × World) :=
  if isRandomText s length ∧ ∀ d ∈ w.drawn, P.sha256Base64Url d ≠ P.sha256Base64Url s then
    some (s, { w with drawn := s :: w.drawn })
  else none

/-- The protected header of a token signed under a key. -/
def signedHeader (kid : String) (typ : Option String) : Params :=
  [("alg", .str "ES256"), ("kid", .str kid)] ++ (typ.map fun t => ("typ", Json.str t)).toList

/-- A token carries the claims and the header of a signature under the active key. -/
def isSignature (keys : List SigningKeyRecord) (token : String) (payload : Params)
    (typ : Option String) : Bool :=
  P.jwtClaims token = payload ∧
    keys.any fun k => k.status = .active ∧
      P.decodeProtectedHeader token = some (signedHeader k.kid typ)

/-- The effect of a call: its answer and the state after it, `none` when the outside's choice is
none that can be made. -/
def exec : (o : Call) → Oracle → World → Option (Ret o × World)
  | .now, _, w => some (w.clock, w)
  | .randomUUID, x, w => draw P w x.random 36
  | .randomBytes size, x, w => draw P w x.random (base64urlLength size)
  | .allow key, _, w =>
    let (ok, limiter) := w.limiter.allow config.rateLimitPerMin key w.clock
    some (ok, { w with limiter := limiter })
  | .ensure, x, w =>
    match w.keys with
    | some _ => some (.ok (), w)
    | none =>
      match x.loaded with
      | some keys => some (.ok (), { w with keys := some keys })
      | none => some (.error .rejected, w)
  | .publicJwks, _, w => some (publicJwks (w.keys.getD []) w.clock, w)
  | .signJwt payload typ, x, w =>
    match x.token with
    | .ok token =>
      if isSignature P (w.keys.getD []) token payload typ then some (.ok token, w) else none
    | .error e => some (.error e, w)
  | .evaluate _, x, w => some (x.decision, w)
  | .fetchJwks _, x, w => some (x.fetched, w)
  | .db q, x, w =>
    let (r, s) := backend.exec w.store x.db q
    some (r, { w with store := s })

/-- The effect of a move that no request makes. -/
def envStep : EnvMove → World → Option World
  | .setClock t, w => if t ≤ maxTime then some { w with clock := t } else none
  | .upsertClient rec, w =>
    some { w with store := { w.store with clients := w.store.clients.set rec.clientId rec } }

/-- A run starts with clients registered by their identifiers, and nothing else. -/
structure World.Initial (w : World) : Prop where
  store : w.store = { clients := w.store.clients }
  clients : ∀ id rec, w.store.clients.get? id = some rec → rec.clientId = id
  keys : w.keys = none
  drawn : w.drawn = []
  clock : w.clock ≤ maxTime

/-- The server as a system of concurrent requests. -/
@[reducible] def server : Sys Ret Exn Reply where
  Req := HttpRequest
  World := World
  Oracle := Oracle
  Env := EnvMove
  Start := World.Initial
  handler := handler P config
  exec := exec P config backend
  env := envStep

end Fapi2As
