import Fapi2As.Async.Run
import Fapi2As.Db.Pg
import Fapi2As.Endpoints.Http

set_option relaxedAutoImplicit false
set_option autoImplicit false

/-!
# The readiness probe

`GET /healthz` asks whether the storage can be used. The answer of a ping is kept for two seconds,
and requests that come while a ping is under way wait for it instead of sending another one.

A ping is not part of the request that has started it: it ends at any time, and what its callback
does is a move of the world.

## Main definitions

* `Fapi2As.Ping`, `Fapi2As.ProbeWorld` — the pings, and the variables the requests share.
* `Fapi2As.healthz` — the handler.
* `Fapi2As.probes` — the requests to it as a system.
-/

namespace Fapi2As

open Js Async

/-- A ping of the storage: when it was sent, and once it has ended, when and with which answer. -/
structure Ping where
  startedAt : ℕ
  ended : Option (ℕ × Bool) := none
  deriving DecidableEq

/-- `storage.ping()`: the in-process store is always ready, a database is when its query resolves.
-/
def Backend.ping : Backend → Bool → Bool
  | .memory, _ => true
  | .pg, queried => queried

/-- How long the answer of a ping is kept, in milliseconds. -/
def pingMaxAgeMs : ℕ := 2000

/-- The variables that the requests share, the pings so far, and the clock. The pings are numbered.
-/
structure ProbeWorld where
  /-- `lastPing`: `at` and `up`. -/
  lastPing : Option (ℕ × Bool) := none
  /-- `pendingPing`, by the number of its ping. -/
  pendingPing : Option ℕ := none
  pings : List Ping := []
  clock : ℕ := 0

namespace ProbeWorld

variable (w : ProbeWorld)

/-- `!lastPing || Date.now() - lastPing.at > 2000`. -/
def isStale : Bool :=
  match w.lastPing with
  | none => true
  | some (at_, _) => at_ + pingMaxAgeMs < w.clock

/-- A ping is sent. -/
def send : ProbeWorld :=
  { w with
    pendingPing := some w.pings.length
    pings := w.pings ++ [{ startedAt := w.clock }] }

/-- `pendingPing ??= storage.ping().then(...)`: the ping to wait for. -/
def join : ℕ × ProbeWorld :=
  match w.pendingPing with
  | some n => (n, w)
  | none => (w.pings.length, w.send)

/-- A ping that was sent at `s` ends, and its callback runs. -/
def settle (n s : ℕ) (up : Bool) : ProbeWorld :=
  { w with
    lastPing := some (w.clock, up)
    pendingPing := none
    pings := w.pings.set n ⟨s, some (w.clock, up)⟩ }

/-- `lastPing.up`, with `none` for the exception when there is no `lastPing`. -/
def up : Option Bool := w.lastPing.map (·.2)

end ProbeWorld

/-- The parts of the handler between its awaits. -/
inductive ProbeCall
  /-- From the start to the end, or to the await of a ping. -/
  | enter
  /-- From the await of a ping to the end. -/
  | resume (n : ℕ)

/-- What they lead to: `lastPing.up`, or the ping to wait for. -/
@[reducible] def ProbeRet : ProbeCall → Type
  | .enter => Option Bool ⊕ ℕ
  | .resume _ => Option Bool

/-- The exceptions of the handler. -/
inductive ProbeFault
  | typeError

/-- A program of the probe. -/
abbrev ProbeProg (α : Type) := Prog ProbeRet ProbeFault α

/-- The reply, as far as the handler writes it. -/
def probeReply (storage : String) (up : Bool) : Reply :=
  { status := if up then 200 else 503
    body := .json
      [("status", .str (if up then "ok" else "degraded")),
        ("db", .str (if up then "up" else "down")), ("storage", .str storage)] }

/-- The end of the handler. -/
def report (storage : String) : Option Bool → ProbeProg Reply
  | some up => pure (probeReply storage up)
  | none => throw .typeError

/-- **`GET /healthz`**. -/
def healthz (storage : String) : ProbeProg Reply := do
  let found ← Prog.perform ProbeCall.enter
  match found with
  | .inl up => report storage up
  | .inr n => do
    let up ← Prog.perform (ProbeCall.resume n)
    report storage up

/-- The effect of a part of the handler. A request goes on when its ping has ended. -/
def probeExec : (o : ProbeCall) → Unit → ProbeWorld → Option (ProbeRet o × ProbeWorld)
  | .enter, _, w => if w.isStale then some (.inr w.join.1, w.join.2) else some (.inl w.up, w)
  | .resume n, _, w => if w.pings[n]?.any (·.ended.isSome) then some (w.up, w) else none

/-- The moves that no request makes: the clock is set, and a ping ends. -/
inductive ProbeMove
  | setClock (t : ℕ)
  | settle (n : ℕ) (queried : Bool)

/-- Their effect. -/
def probeEnv (backend : Backend) : ProbeMove → ProbeWorld → Option ProbeWorld
  | .setClock t, w => some { w with clock := t }
  | .settle n queried, w =>
    match w.pings[n]? with
    | some ⟨s, none⟩ => some (w.settle n s (backend.ping queried))
    | _ => none

/-- Any number of readiness probes of one server; `storage` is the name they report. -/
@[reducible] def probes (backend : Backend) (storage : String) : Sys ProbeRet ProbeFault Reply where
  Req := Unit
  World := ProbeWorld
  Oracle := Unit
  Env := ProbeMove
  Start w := w.lastPing = none ∧ w.pendingPing = none ∧ w.pings = []
  handler _ := healthz storage
  exec := probeExec
  env := probeEnv backend

end Fapi2As
