import Fapi2As.Platform

set_option relaxedAutoImplicit false
set_option autoImplicit false

/-!
# Signing keys and the published key set

The rows of the signing-key table and the key set published from a list of loaded rows: the
active key, and every retired key until its retention has passed.

## Main definitions

* `Fapi2As.SigningKeyRecord` — a row.
* `Fapi2As.publishedKeys`, `Fapi2As.publicJwks` — the rows published at a time, and the key set.
-/

namespace Fapi2As

open Js

/-- The status of a signing key. -/
inductive KeyStatus
  | active
  | retired
  deriving DecidableEq

/-- A signing key, with its public JWK; what is stored of the private one is not read here. -/
structure SigningKeyRecord where
  kid : String
  status : KeyStatus
  publicJwk : Params
  createdAt : ℕ
  retiredAt : Option ℕ

/-- Retired keys stay in the key set this long after retirement. -/
def retiredKeyRetentionMs : ℕ := 24 * 3600 * 1000

/-- The public members of an EC key. -/
def toPublicJwk (jwk : Params) : Json :=
  .obj (["kty", "crv", "x", "y", "kid", "alg", "use"].filterMap fun name =>
    (jwk.get name).map fun v => (name, v))

/-- A key is published: active, never retired, or retired less than the retention ago. -/
def SigningKeyRecord.isPublished (r : SigningKeyRecord) (now : ℕ) : Bool :=
  r.status = .active ||
    match r.retiredAt with
    | none => true
    | some t => (now : ℤ) - t < retiredKeyRetentionMs

/-- The loaded keys that are published at a time, the active ones first. -/
def publishedKeys (keys : List SigningKeyRecord) (now : ℕ) : List SigningKeyRecord :=
  let records := keys.filter (·.isPublished now)
  records.filter (·.status = .active) ++ records.filter (·.status ≠ .active)

/-- `KeyStore.publicJwks`. -/
def publicJwks (keys : List SigningKeyRecord) (now : ℕ) : List Json :=
  (publishedKeys keys now).map fun r => toPublicJwk r.publicJwk

end Fapi2As
