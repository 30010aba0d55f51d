import Fapi2As.Async.Run

set_option relaxedAutoImplicit false
set_option autoImplicit false

/-!
# Rely and guarantee

A program keeps a guarantee when every call that it makes meets the guarantee, as long as every
answer that it is given meets the rely condition. When the answers meet it because of an invariant
of the world, and the calls that meet the guarantee keep the invariant, all programs of a system
keep their guarantees together.

## Main definitions

* `Async.Prog.Keeps` — a program keeps a guarantee and returns what meets a postcondition.

## Main results

* `Async.Prog.Keeps.bind`, `Async.Prog.Keeps.tryCatch` — the rules of sequencing and of handlers.
* `Async.Run.rely_guarantee` — all requests of a run keep their guarantees, and the world its
  invariant.
-/

namespace Async

variable {Op : Type} {Ret : Op → Type} {ε α β : Type}

namespace Prog

/-- **A program keeps a guarantee**: while the answers meet `rely`, its calls meet `guar`, and a
value that it returns meets `post`. -/
def Keeps (guar : Op → Prop) (rely : (o : Op) → Ret o → Prop) (post : α → Prop) :
    Prog Ret ε α → Prop
  | ret a => post a
  | throw _ => True
  | call o k => guar o ∧ ∀ r, rely o r → Keeps guar rely post (k r)

variable {guar : Op → Prop} {rely : (o : Op) → Ret o → Prop} {post post' : α → Prop}

/-- A weaker postcondition is met. -/
lemma Keeps.mono (h : ∀ a, post a → post' a) :
    ∀ {p : Prog Ret ε α}, Keeps guar rely post p → Keeps guar rely post' p
  | ret _, hp => h _ hp
  | throw _, _ => trivial
  | call _ _, hp => ⟨hp.1, fun r hr => Keeps.mono h (hp.2 r hr)⟩

/-- **Sequencing.** -/
lemma Keeps.bind {post : β → Prop} {mid : α → Prop} {f : α → Prog Ret ε β} :
    ∀ {p : Prog Ret ε α}, Keeps guar rely mid p → (∀ a, mid a → Keeps guar rely post (f a)) →
      Keeps guar rely post (p >>= f)
  | ret a, hp, hf => hf a hp
  | throw _, _, _ => trivial
  | call _ _, hp, hf => ⟨hp.1, fun r hr => Keeps.bind (hp.2 r hr) hf⟩

/-- **Handlers.** -/
lemma Keeps.tryCatch {f : ε → Prog Ret ε α} (hf : ∀ e, Keeps guar rely post (f e)) :
    ∀ {p : Prog Ret ε α}, Keeps guar rely post p →
      Keeps guar rely post (MonadExcept.tryCatch p f)
  | ret _, hp => hp
  | throw e, _ => hf e
  | call _ _, hp => ⟨hp.1, fun r hr => Keeps.tryCatch hf (hp.2 r hr)⟩

/-- **Along a path** whose answers meet the rely condition, what is left of a program keeps the
guarantee. -/
lemma Keeps.along {p p' : Prog Ret ε α} {es : List (Event Ret)} (h : Path p es p') :
    Keeps guar rely post p → (∀ e ∈ es, rely e.op e.res) → Keeps guar rely post p' := by
  induction h with
  | done p => exact fun hp _ => hp
  | step o k r es p' _ ih =>
    exact fun hp hes => ih (hp.2 r (hes _ List.mem_cons_self)) fun e he =>
      hes e (List.mem_cons_of_mem _ he)

lemma keeps_perform {o : Op} {post : Ret o → Prop} (h : guar o) (hr : ∀ r, rely o r → post r) :
    Keeps guar rely post (perform o : Prog Ret ε (Ret o)) := ⟨h, hr⟩

lemma keeps_throwIf {c : Prop} [Decidable c] {e : ε} {post : Unit → Prop} (h : ¬c → post ()) :
    Keeps guar rely post (throwIf c e : Prog Ret ε Unit) := by
  unfold throwIf
  split_ifs with hc
  · trivial
  · exact h hc

lemma keeps_settle {φ : Type} {wrap : φ → ε} {x : Except φ α} (h : ∀ a, x = .ok a → post a) :
    Keeps guar rely post (settle wrap x : Prog Ret ε α) := by
  cases x with
  | ok a => exact h a rfl
  | error e => trivial

end Prog

namespace Run

variable {S : Sys Ret ε α} {R : Run S} {I : S.World → Prop} {guar : S.Req → Op → Prop}
  {rely : (o : Op) → Ret o → Prop} {post : S.Req → α → Prop}

/-- A call that is made meets the guarantee of its request. -/
lemma Does.keeps {i pid : ℕ} {p : Proc S} {e : Event Ret} (h : R.Does i pid p e)
    (hkeeps : ∀ pid p, R.proc i pid = some p → p.todo.Keeps (guar p.req) rely (post p.req)) :
    guar p.req e.op := by
  obtain ⟨k, hk, -⟩ := h.todo
  have hp := hkeeps pid p h.proc
  rw [hk] at hp
  exact hp.1

/-- **All requests of a run keep their guarantees, and the world keeps its invariant**, when every
request that is given answers as they are relied on keeps its guarantee, and every call that meets
it is answered so and keeps the invariant.

**Proof sketch.** Induction on the number of steps: the call of a step meets the guarantee, so its
answer can be relied on, and the rest of the program keeps the guarantee. -/
theorem rely_guarantee (hprog : ∀ r, (S.handler r).Keeps (guar r) rely (post r)) (h0 : I R.start)
    (henv : ∀ e w w', S.env e w = some w' → I w → I w')
    (hcall : ∀ i pid p e, R.Does i pid p e → I (R.world i) → guar p.req e.op →
      rely e.op e.res ∧ I (R.world (i + 1))) {i : ℕ} (hi : i ≤ R.len) :
    I (R.world i) ∧
      ∀ pid p, R.proc i pid = some p → p.todo.Keeps (guar p.req) rely (post p.req) := by
  induction i with
  | zero =>
    refine ⟨by rwa [R.world_zero], fun pid p hp => ?_⟩
    simp at hp
  | succ i ih =>
    obtain ⟨hI, hkeeps⟩ := ih (by omega)
    refine ⟨?_, fun pid p hp => ?_⟩
    · rcases R.world_step (i := i) (by omega) with h | ⟨pid, p, e, h⟩ | ⟨e, -, h⟩
      · rwa [h]
      · exact (hcall i pid p e h hI (h.keeps hkeeps)).2
      · exact henv e _ _ h hI
    · rcases R.proc_succ (by omega) hp with h | ⟨r, rfl⟩ | ⟨q, e, k, hd, hk, rfl⟩
      · exact hkeeps pid p h
      · exact hprog r
      · have hq := hkeeps pid q hd.proc
        rw [hk] at hq
        exact hq.2 e.res (hcall i pid q e hd hI (hd.keeps hkeeps)).1

end Run

end Async
