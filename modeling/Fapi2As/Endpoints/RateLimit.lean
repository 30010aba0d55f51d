import Mathlib.Data.Int.Notation
import Fapi2As.Js.Map

set_option relaxedAutoImplicit false
set_option autoImplicit false

/-!
# Rate limiting

The in-memory fixed-window rate limiter.

## Main definitions

* `Fapi2As.RateLimiter`, `Fapi2As.RateLimiter.allow`.
-/

namespace Fapi2As

open Js

/-- The window of a key: when it started, and the calls counted in it. -/
structure Window where
  start : ℕ
  count : ℕ
  deriving DecidableEq

/-- The state of a limiter. -/
structure RateLimiter where
  windows : Map String Window := .empty
  lastSweep : ℕ := 0

/-- A window has not rolled over. -/
def Window.live (w : Window) (now windowMs : ℕ) : Bool := (now : ℤ) - w.start < windowMs

/-- The sweep of rolled-over windows, when the keys are at the cap and a window has passed since
the last one. -/
def RateLimiter.sweep (r : RateLimiter) (now windowMs maxKeys : ℕ) : RateLimiter :=
  if maxKeys ≤ r.windows.size ∧ (windowMs : ℤ) ≤ (now : ℤ) - r.lastSweep then
    { windows := r.windows.filter fun _ w => w.live now windowMs, lastSweep := now }
  else r

/-- `FixedWindowRateLimiter.allow`; a limit of zero disables it. The length of a window in
milliseconds and the cap on tracked keys have the constructor's defaults. -/
def RateLimiter.allow (limit : ℕ) (r : RateLimiter) (key : String) (now : ℕ)
    (windowMs : ℕ := 60000) (maxKeys : ℕ := 50000) : Bool × RateLimiter :=
  if limit = 0 then (true, r)
  else
    let found := r.windows.get? key
    match found.filter (·.live now windowMs) with
    | some w =>
      let w := { w with count := w.count + 1 }
      (w.count ≤ limit, { r with windows := r.windows.set key w })
    | none =>
      let r := r.sweep now windowMs maxKeys
      if found.isNone ∧ maxKeys ≤ r.windows.size then (false, r)
      else (true, { r with windows := r.windows.set key ⟨now, 1⟩ })

end Fapi2As
