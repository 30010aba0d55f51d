import Fapi2As.Db.Memory
import Fapi2As.Js.Encoding

set_option relaxedAutoImplicit false
set_option autoImplicit false

/-!
# The replay guard of the in-memory adapter

The adapter keeps its replay entries in a map whose keys are context and id joined by U+0000. On
texts without that character the join determines its parts, and the guard is the one of
`Fapi2As.Memory.jtiRegister`, whose entries are keyed by the pair, as the database keys them.

## Main definitions

* `Fapi2As.MemoryJtiReplay`, `Fapi2As.MemoryJtiReplay.register` — the guard with joined keys.
* `Fapi2As.JoinedKeys` — the tables hold the entries of a guard.

## Main results

* `Fapi2As.memoryKey_inj` — a joined key determines its parts.
* `Fapi2As.JoinedKeys.register` — the two guards answer alike, and stay alike.
-/

namespace Fapi2As

open Js

/-- The state of the guard. -/
structure MemoryJtiReplay where
  rows : Map String Date := Map.empty
  lastSweepMs : ℕ := 0

/-- The key of an entry, `${context}\u0000${jti}`. -/
def memoryKey (context jti : String) : String := context ++ "\x00" ++ jti

/-- The sweep of expired entries, when the map is large and the last sweep is a second old. -/
def MemoryJtiReplay.sweep (g : MemoryJtiReplay) (now : ℕ) : MemoryJtiReplay :=
  if 4096 ≤ g.rows.size ∧ 1000 + g.lastSweepMs ≤ now then
    { rows := g.rows.filter fun _ exp => !exp.isPast now, lastSweepMs := now }
  else g

/-- `register`. -/
def MemoryJtiReplay.register (g : MemoryJtiReplay) (context jti : String) (expiresAt : Date)
    (now : ℕ) : Bool × MemoryJtiReplay :=
  let g := g.sweep now
  if 8192 ≤ g.rows.size then (false, g)
  else
    let key := memoryKey context jti
    match g.rows.get? key with
    | some existing =>
      if existing.isAfter now then (false, g)
      else (true, { g with rows := g.rows.set key expiresAt })
    | none => (true, { g with rows := g.rows.set key expiresAt })

/-- A text without the character U+0000. -/
def NulFree (s : String) : Prop := '\x00' ∉ s.toList

/-- A pair of context and id whose texts are free of U+0000. -/
def NulFreeKey (k : String × String) : Prop := NulFree k.1 ∧ NulFree k.2

/-- **A joined key determines its parts.** -/
lemma memoryKey_inj (k k' : String × String) (hk : NulFreeKey k) (hk' : NulFreeKey k')
    (h : memoryKey k.1 k.2 = memoryKey k'.1 k'.2) : k = k' := by
  obtain ⟨h1, h2⟩ := join_inj_left hk.1 hk'.1 (h : k.1 ++ String.ofList ['\x00'] ++ k.2 = _)
  exact Prod.ext h1 h2

/-- **The tables hold the entries of a guard**, keyed by the pair instead of the joined key. -/
structure JoinedKeys (s : Store) (g : MemoryJtiReplay) : Prop where
  rows : Map.Renamed NulFreeKey (fun k => memoryKey k.1 k.2) s.jti g.rows
  lastSweep : g.lastSweepMs = s.jtiLastSweep

section JoinedKeys

variable {s : Store} {g : MemoryJtiReplay}

lemma JoinedKeys.sweep (h : JoinedKeys s g) (now : ℕ) :
    JoinedKeys (Memory.jtiSweep s now) (g.sweep now) := by
  unfold Memory.jtiSweep MemoryJtiReplay.sweep Memory.jtiSweepThreshold
  rw [h.rows.size, h.lastSweep]
  split_ifs
  · exact ⟨h.rows.filter fun exp => !exp.isPast now, rfl⟩
  · exact h

/-- **The two guards answer alike, and stay alike.** -/
lemma JoinedKeys.register (h : JoinedKeys s g) {context jti : String} (hc : NulFree context)
    (hj : NulFree jti) (expiresAt : Date) (now : ℕ) :
    (g.register context jti expiresAt now).1 = (Memory.jtiRegister s context jti expiresAt now).1 ∧
      JoinedKeys (Memory.jtiRegister s context jti expiresAt now).2
        (g.register context jti expiresAt now).2 := by
  have hswept := h.sweep now
  have hkey : NulFreeKey (context, jti) := ⟨hc, hj⟩
  have hget : (g.sweep now).rows.get? (memoryKey context jti) =
      (Memory.jtiSweep s now).jti.get? (context, jti) := hswept.rows.get? memoryKey_inj hkey
  have hset := hswept.rows.set memoryKey_inj hkey expiresAt
  unfold MemoryJtiReplay.register Memory.jtiRegister Memory.jtiCap
  dsimp only
  rw [hswept.rows.size, hget]
  split_ifs
  · exact ⟨rfl, hswept⟩
  · cases (Memory.jtiSweep s now).jti.get? (context, jti) with
    | none => exact ⟨rfl, hset, hswept.lastSweep⟩
    | some existing =>
      dsimp only
      split_ifs
      · exact ⟨rfl, hswept⟩
      · exact ⟨rfl, hset, hswept.lastSweep⟩

end JoinedKeys

end Fapi2As
