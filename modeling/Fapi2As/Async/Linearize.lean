import Mathlib.Data.Nat.Basic
import Mathlib.Order.Basic
import Fapi2As.Async.Run

set_option relaxedAutoImplicit false
set_option autoImplicit false

/-!
# Operations that are implemented by several calls

An operation that a system takes as one atomic call may really be a small program of finer calls,
between which other programs run. Such an implementation is *linearizable* when every run of the
finer system looks like a run of the atomic one in which each operation takes effect at some point
between its first and its last call.

The point is not always known when it is passed: a call that has had no effect so far may turn out
later to have taken effect already. The simulation therefore goes backwards, from the end of a run
to its start, where it is known.

## Main definitions

* `Async.Prog.expand` — a program with its operations replaced by their implementations.
* `Async.Lin` — a list of fine calls that completes a list of operations.
* `Async.Linearization` — where the operations of a system take effect.
* `Async.Linearizes` — a run of the atomic system that explains a run of the finer one.
* `Async.Run.Performs` — an operation that is carried out between two steps of a finer run.

## Main results

* `Async.Lin.unique` — the completed operations are determined by the fine calls.
* `Async.Linearization.back` — one step back.
* `Async.Linearization.exists_run` — every run of the finer system is explained by a run of the
  atomic one.
* `Async.Run.Performs.takes_effect` — every operation takes effect once, between its first and its
  last call.
-/

namespace Async

variable {Op Op' : Type} {Ret : Op → Type} {Ret' : Op' → Type} {ε α β : Type}

namespace Prog

/-- Every operation of a program carried out by the program that implements it. -/
def expand (impl : (o : Op) → Prog Ret' ε (Ret o)) : Prog Ret ε α → Prog Ret' ε α
  | ret a => ret a
  | throw e => throw e
  | call o k => (impl o).bind fun r => (k r).expand impl

end Prog

section

variable (impl : (o : Op) → Prog Ret' ε (Ret o))

/-! ## Completed operations -/

/-- `Lin p es' es p'`: the fine calls `es'` complete the operations `es` of `p`, after which it goes
on as `p'`. -/
inductive Lin : Prog Ret ε α → List (Event Ret') → List (Event Ret) → Prog Ret ε α → Prop
  | done (p : Prog Ret ε α) : Lin p [] [] p
  | step (o : Op) (k : Ret o → Prog Ret ε α) (r : Ret o) (fs es' : List (Event Ret'))
      (es : List (Event Ret)) (p' : Prog Ret ε α) (hr : Prog.Path (impl o) fs (.ret r))
      (h : Lin (k r) es' es p') : Lin (.call o k) (fs ++ es') (⟨o, r⟩ :: es) p'

/-- `Within p es' p'`: the fine calls `es'` have been made for the pending operation of `p`, without
completing it, and the expanded program goes on as `p'`. -/
inductive Within : Prog Ret ε α → List (Event Ret') → Prog Ret' ε α → Prop
  | ret (a : α) : Within (.ret a) [] (.ret a)
  | throw (e : ε) : Within (.throw e) [] (.throw e)
  | call (o : Op) (k : Ret o → Prog Ret ε α) (es' : List (Event Ret')) (m : Prog Ret' ε (Ret o))
      (hm : Prog.Path (impl o) es' m) (open_ : ∀ r, m ≠ .ret r) :
      Within (.call o k) es' (m.bind fun r => (k r).expand impl)

variable {impl}

/-- Completing one more operation. -/
lemma Lin.snoc {p : Prog Ret ε α} {es' fs : List (Event Ret')} {es : List (Event Ret)} {o : Op}
    {k : Ret o → Prog Ret ε α} {r : Ret o} (h : Lin impl p es' es (.call o k))
    (hr : Prog.Path (impl o) fs (.ret r)) : Lin impl p (es' ++ fs) (es ++ [⟨o, r⟩]) (k r) := by
  generalize hp : Prog.call o k = p' at h
  induction h with
  | done p =>
    subst hp
    simpa using Lin.step o k r fs [] [] _ hr (.done _)
  | step o' k' r' fs' es' es p' hr' _ ih =>
    rw [List.append_assoc]
    exact .step o' k' r' fs' _ _ _ hr' (ih hp)

/-- The completed operations are a path of the program. -/
lemma Lin.path {p p' : Prog Ret ε α} {es' : List (Event Ret')} {es : List (Event Ret)}
    (h : Lin impl p es' es p') : Prog.Path p es p' := by
  induction h with
  | done p => exact .done p
  | step o k r _ _ es p' _ _ ih => exact .step o k r es p' ih

/-- The first operation of a list is completed by the first fine calls. -/
lemma Lin.cons_inv {p p' : Prog Ret ε α} {es' : List (Event Ret')} {es : List (Event Ret)} {o : Op}
    {r : Ret o} (h : Lin impl p es' (⟨o, r⟩ :: es) p') :
    ∃ fs gs q, es' = fs ++ gs ∧ Prog.Path (impl o) fs (.ret r) ∧ Lin impl q gs es p' := by
  cases h with
  | step _ k _ fs gs _ _ hr h => exact ⟨fs, gs, k r, rfl, hr, h⟩

/-- The fine calls are a path of the expanded program. -/
lemma Lin.path_expand {p p' : Prog Ret ε α} {es' : List (Event Ret')} {es : List (Event Ret)}
    (h : Lin impl p es' es p') : Prog.Path (p.expand impl) es' (p'.expand impl) := by
  induction h with
  | done p => exact .done _
  | step o k r fs es' es p' hr _ ih => exact (hr.bind fun r => (k r).expand impl).append ih

/-- An operation is not completed by a path that leaves it open. -/
lemma Within.not_complete {o : Op} {k : Ret o → Prog Ret ε α} {fs xs es' : List (Event Ret')}
    {r : Ret o} {p' : Prog Ret' ε α} (h : Within impl (.call o k) es' p')
    (hr : Prog.Path (impl o) fs (.ret r)) : es' ≠ fs ++ xs := by
  cases h with
  | call _ _ _ m hm open_ =>
    rintro rfl
    exact open_ r (hr.not_beyond hm).2

/-- **The completed operations are determined by the fine calls.**

**Proof sketch.** Induction on the first list of operations: two completed implementations of the
same operation at the start of one list of calls are the same, and an open one is not the start of
a completed one. -/
lemma Lin.unique {p p₁ p₂ : Prog Ret ε α} {q₁ q₂ : Prog Ret' ε α}
    {as₁ as₂ bs₁ bs₂ : List (Event Ret')} {es₁ es₂ : List (Event Ret)} (h₁ : Lin impl p as₁ es₁ p₁)
    (w₁ : Within impl p₁ bs₁ q₁) (h₂ : Lin impl p as₂ es₂ p₂) (w₂ : Within impl p₂ bs₂ q₂)
    (h : as₁ ++ bs₁ = as₂ ++ bs₂) : as₁ = as₂ ∧ es₁ = es₂ ∧ p₁ = p₂ := by
  induction h₁ generalizing as₂ es₂ with
  | done p =>
    cases h₂ with
    | done => exact ⟨rfl, rfl, rfl⟩
    | step o k r fs as es p' hr _ =>
      rw [List.append_assoc] at h
      exact absurd h (w₁.not_complete hr)
  | step o k r fs as es p₁ hr _ ih =>
    cases h₂ with
    | done =>
      rw [List.append_assoc] at h
      exact absurd h.symm (w₂.not_complete hr)
    | step _ _ r' fs' as' es' _ hr' h' =>
      rw [List.append_assoc, List.append_assoc] at h
      obtain rfl := hr.complete_unique hr' h
      obtain rfl : r = r' := by simpa using hr.functional hr'
      obtain ⟨rfl, rfl, rfl⟩ := ih w₁ h' (List.append_cancel_left h)
      exact ⟨rfl, rfl, rfl⟩

/-- A path of a sequence to its result goes through a result of its first part. -/
lemma Prog.Path.of_bind {p : Prog Ret ε α} {f : α → Prog Ret ε β} {es : List (Event Ret)} {b : β}
    (h : Prog.Path (p.bind f) es (.ret b)) :
    ∃ a fs gs, es = fs ++ gs ∧ Prog.Path p fs (.ret a) ∧ Prog.Path (f a) gs (.ret b) := by
  induction p generalizing es with
  | ret a => exact ⟨a, [], es, rfl, .done _, h⟩
  | throw e => cases h
  | call o k ih =>
    cases h with
    | step _ _ r es' _ h =>
      obtain ⟨a, fs, gs, rfl, hp, hf⟩ := ih r h
      exact ⟨a, ⟨o, r⟩ :: fs, gs, rfl, .step o k r fs _ hp, hf⟩

/-- A path of an expanded program to its result completes operations of the program. -/
lemma Lin.of_path {p : Prog Ret ε α} {es' : List (Event Ret')} {a : α}
    (h : Prog.Path (p.expand impl) es' (.ret a)) : ∃ es, Lin impl p es' es (.ret a) := by
  induction p generalizing es' with
  | ret a' =>
    cases h
    exact ⟨[], .done _⟩
  | throw e => cases h
  | call o k ih =>
    obtain ⟨r, fs, gs, rfl, hr, h⟩ := h.of_bind
    obtain ⟨es, hes⟩ := ih r h
    exact ⟨⟨o, r⟩ :: es, .step o k r fs gs es _ hr hes⟩

end

/-! ## Linearizable systems -/

/-- The system whose operations are carried out by finer calls with the effect `exec`. -/
@[reducible] def Sys.expanded (S : Sys Ret ε α) (impl : (o : Op) → Prog Ret' ε (Ret o))
    (exec : (o : Op') → S.Oracle → S.World → Option (Ret' o × S.World)) : Sys Ret' ε α where
  Req := S.Req
  World := S.World
  Oracle := S.Oracle
  Env := S.Env
  Start := S.Start
  handler r := (S.handler r).expand impl
  exec := exec
  env := S.env

/-- Where the operations of a system take effect: at the last call of their implementation, or
earlier. `Early w o m r` says that the operation `o`, of whose implementation `m` is left, may have
taken effect already and been answered `r`; only an operation that leaves the world as it is can
take effect early. -/
structure Linearization (S : Sys Ret ε α) (impl : (o : Op) → Prog Ret' ε (Ret o))
    (exec : (o : Op') → S.Oracle → S.World → Option (Ret' o × S.World)) where
  /-- The operation may have taken effect already. -/
  Early : S.World → (o : Op) → Prog Ret' ε (Ret o) → Ret o → Prop
  /-- Every implementation makes a call. -/
  start : ∀ o r, impl o ≠ .ret r
  /-- No operation takes effect before its first call. -/
  not_early : ∀ w o r, ¬Early w o (impl o) r
  /-- What may have taken effect after a move of the world may have done so before it. -/
  env : ∀ e w w', S.env e w = some w' → ∀ o m r, Early w' o m r → Early w o m r
  /-- What may have taken effect after the call of another process may have done so before it. -/
  call : ∀ o' x w r' w', exec o' x w = some (r', w') → ∀ o m r, Early w' o m r → Early w o m r
  /-- The last call of an implementation has the effect of the operation, or none when the
  operation has taken effect already. -/
  finish : ∀ o es o' k r' r x w w', Prog.Path (impl o) es (.call o' k) →
    exec o' x w = some (r', w') → k r' = .ret r →
    (∃ y, S.exec o y w = some (r, w')) ∨ w' = w ∧ Early w o (.call o' k) r
  /-- Any other call has no effect, and the operation may take effect at it. -/
  inside : ∀ o es o' k r' x w w', Prog.Path (impl o) es (.call o' k) →
    exec o' x w = some (r', w') → (∀ r, k r' ≠ .ret r) →
    w' = w ∧ ∀ r, Early w o (k r') r →
      Early w o (.call o' k) r ∨ ∃ y, S.exec o y w = some (r, w)

namespace Linearization

variable {S : Sys Ret ε α} {impl : (o : Op) → Prog Ret' ε (Ret o)}
  {exec : (o : Op') → S.Oracle → S.World → Option (Ret' o × S.World)}
  (L : Linearization S impl exec)

/-- What a process of the finer system looks like in the atomic one: it has made the operations
that are completed, and the pending one too if that has taken effect already. -/
inductive ProcRel (w : S.World) : Proc (S.expanded impl exec) → Proc S → Prop
  | before (req : S.Req) (as bs : List (Event Ret')) (es : List (Event Ret)) (p : Prog Ret ε α)
      (p' : Prog Ret' ε α) (h : Lin impl (S.handler req) as es p) (hp : Within impl p bs p') :
      ProcRel w ⟨req, as ++ bs, p'⟩ ⟨req, es, p⟩
  | early (req : S.Req) (as bs : List (Event Ret')) (es : List (Event Ret)) (o : Op)
      (k : Ret o → Prog Ret ε α) (m : Prog Ret' ε (Ret o)) (r : Ret o)
      (h : Lin impl (S.handler req) as es (.call o k)) (hm : Prog.Path (impl o) bs m)
      (open_ : ∀ r, m ≠ .ret r) (he : L.Early w o m r) :
      ProcRel w ⟨req, as ++ bs, m.bind fun r => (k r).expand impl⟩ ⟨req, es ++ [⟨o, r⟩], k r⟩

/-- What a configuration of the finer system looks like in the atomic one. -/
structure ConfRel (c' : Conf (S.expanded impl exec)) (c : Conf S) : Prop where
  /-- The shared state is the same. -/
  world : c'.world = c.world
  /-- The same requests have arrived. -/
  length : c'.procs.length = c.procs.length
  /-- They are related one by one. -/
  procs : ∀ (pid : ℕ) p' p, c'.procs[pid]? = some p' → c.procs[pid]? = some p →
    L.ProcRel c.world p' p

variable (S impl exec) in
/-- A process of the finer system has completed some operations, and is within the next. -/
def Reached (p' : Proc (S.expanded impl exec)) : Prop :=
  ∃ as bs es p, p'.past = as ++ bs ∧ Lin impl (S.handler p'.req) as es p ∧
    Within impl p bs p'.todo

include L in
/-- A program is within its first operation at its start. -/
lemma within_start (p : Prog Ret ε α) : Within impl p [] (p.expand impl) := by
  cases p with
  | ret a => exact .ret a
  | throw e => exact .throw e
  | call o k => exact .call o k [] (impl o) (.done _) (L.start o)

/-- **A step of a process**: it makes the next call of the pending operation, which completes the
operation or leaves it open. -/
lemma Reached.step {req : S.Req} {past : List (Event Ret')} {o' : Op'}
    {k' : Ret' o' → Prog Ret' ε α} (h : Reached S impl exec ⟨req, past, .call o' k'⟩)
    (r' : Ret' o') :
    ∃ as bs es o k l, past = as ++ bs ∧ Lin impl (S.handler req) as es (.call o k) ∧
      Prog.Path (impl o) bs (.call o' l) ∧
      (Prog.call o' k' = (Prog.call o' l).bind fun r => (k r).expand impl) ∧
      ((∃ r, l r' = .ret r ∧ k' r' = (k r).expand impl ∧
          Lin impl (S.handler req) (as ++ (bs ++ [⟨o', r'⟩])) (es ++ [⟨o, r⟩]) (k r)) ∨
        (∀ r, l r' ≠ .ret r) ∧ k' r' = (l r').bind fun r => (k r).expand impl) := by
  obtain ⟨as, bs, es, p, hpast, hlin, hw⟩ := h
  obtain ⟨o, k, m, rfl, hm, open_, htodo⟩ : ∃ o k m, p = .call o k ∧ Prog.Path (impl o) bs m ∧
      (∀ r, m ≠ .ret r) ∧ Prog.call o' k' = m.bind fun r => (k r).expand impl := by
    generalize hp' : Prog.call o' k' = p' at hw
    cases hw with
    | ret a => cases hp'
    | throw e => cases hp'
    | call o k es' m hm open_ => exact ⟨o, k, m, rfl, hm, open_, rfl⟩
  cases m with
  | ret r => exact absurd rfl (open_ r)
  | throw e => cases htodo
  | call o'' l =>
    have hcall : Prog.call o' k' =
        Prog.call o'' fun r => (l r).bind fun r => (k r).expand impl := htodo
    cases hcall
    refine ⟨as, bs, es, o, k, l, hpast, hlin, hm, rfl, ?_⟩
    by_cases hr : ∃ r, l r' = .ret r
    · obtain ⟨r, hr⟩ := hr
      have hfs : Prog.Path (impl o) (bs ++ [⟨o', r'⟩]) (.ret r) := hr ▸ hm.snoc r'
      exact .inl ⟨r, hr, by dsimp only; rw [hr]; rfl, hlin.snoc hfs⟩
    · exact .inr ⟨fun r h => hr ⟨r, h⟩, rfl⟩

include L in
/-- Every process of the finer system has completed some operations, and is within the next. -/
lemma reached (R' : Run (S.expanded impl exec)) {i pid : ℕ} {p' : Proc (S.expanded impl exec)}
    (hi : i ≤ R'.len) (hp : R'.proc i pid = some p') : Reached S impl exec p' := by
  induction i generalizing p' with
  | zero => simp at hp
  | succ i ih =>
    rcases R'.proc_succ (by omega) hp with h | ⟨r, rfl⟩ | ⟨q, e, k, hd, hk, rfl⟩
    · exact ih (by omega) h
    · exact ⟨[], [], [], S.handler r, rfl, .done _, L.within_start _⟩
    · have hq := ih (by omega) hd.proc
      obtain ⟨req, past, todo⟩ := q
      obtain rfl : todo = .call e.op k := hk
      obtain ⟨as, bs, es, o, k₀, l, rfl, hlin, hm, -, hcase⟩ := hq.step e.res
      rcases hcase with ⟨r, -, hk', hl⟩ | ⟨hopen, hk'⟩
      · exact ⟨as ++ (bs ++ [e]), [], es ++ [⟨o, r⟩], k₀ r, by simp, hl, hk' ▸ L.within_start _⟩
      · exact ⟨as, bs ++ [e], es, .call o k₀, by simp, hlin,
          hk' ▸ .call o k₀ _ _ (hm.snoc e.res) hopen⟩

/-! ## The simulation -/

variable {L}

/-- A relation that was there before a change of the world. -/
lemma ProcRel.before_change {w w' : S.World} {p' : Proc (S.expanded impl exec)} {p : Proc S}
    (hE : ∀ o m r, L.Early w' o m r → L.Early w o m r) (h : L.ProcRel w' p' p) :
    L.ProcRel w p' p := by
  cases h with
  | before req as bs es p p' h hp => exact .before req as bs es p p' h hp
  | early req as bs es o k m r h hm open_ he =>
    exact .early req as bs es o k m r h hm open_ (hE _ _ _ he)

/-- What a process that has completed some operations looks like in the atomic system. -/
lemma ProcRel.inv {w : S.World} {req : S.Req} {as bs : List (Event Ret')} {es : List (Event Ret)}
    {t : Prog Ret ε α} {todo' : Prog Ret' ε α} {p : Proc S}
    (h : L.ProcRel w ⟨req, as ++ bs, todo'⟩ p) (hlin : Lin impl (S.handler req) as es t)
    (hw : Within impl t bs todo') :
    p = ⟨req, es, t⟩ ∨ ∃ o k m r, t = .call o k ∧ Prog.Path (impl o) bs m ∧ L.Early w o m r ∧
      p = ⟨req, es ++ [⟨o, r⟩], k r⟩ := by
  generalize hp' : (⟨req, as ++ bs, todo'⟩ : Proc (S.expanded impl exec)) = p' at h
  cases h with
  | before req' as' bs' es' t' _ hlin' hw' =>
    injection hp' with hreq hpast htodo
    subst hreq
    obtain ⟨-, rfl, rfl⟩ := hlin.unique hw hlin' hw' hpast
    exact .inl rfl
  | early req' as' bs' es' o k m r hlin' hm open_ he =>
    injection hp' with hreq hpast htodo
    subst hreq
    obtain ⟨rfl, rfl, rfl⟩ := hlin.unique hw hlin' (.call o k bs' m hm open_) hpast
    obtain rfl := List.append_cancel_left hpast
    exact .inr ⟨o, k, m, r, rfl, hm, he, rfl⟩

/-- A process that has made no call of the pending operation has not made the operation. -/
lemma ProcRel.inv_nil {w : S.World} {req : S.Req} {as : List (Event Ret')} {es : List (Event Ret)}
    {t : Prog Ret ε α} {todo' : Prog Ret' ε α} {p : Proc S} (h : L.ProcRel w ⟨req, as, todo'⟩ p)
    (hlin : Lin impl (S.handler req) as es t) (hw : Within impl t [] todo') :
    p = ⟨req, es, t⟩ := by
  rw [← List.append_nil as] at h
  rcases h.inv hlin hw with hp | ⟨o, k, m, r, -, hm, he, -⟩
  · exact hp
  · obtain rfl := hm.functional (.done _)
    exact absurd he (L.not_early _ _ _)

/-- The arrival of a request, seen backwards. -/
lemma back_arrive {c' d' : Conf (S.expanded impl exec)} {d : Conf S} {r : S.Req}
    (hstep : (S.expanded impl exec).next c' (.arrive r) = some d') (h : L.ConfRel d' d) :
    ∃ c, L.ConfRel c' c ∧ S.next c (.arrive r) = some d := by
  obtain rfl := Option.some.inj hstep
  obtain ⟨w, ps⟩ := d
  obtain rfl : c'.world = w := h.world
  have hlen := h.length
  simp only [List.length_append, List.length_singleton] at hlen
  rcases List.eq_nil_or_concat ps with rfl | ⟨ps, p, rfl⟩
  · simp at hlen
  · rw [List.concat_eq_append] at h ⊢
    replace hlen : c'.procs.length = ps.length := by simpa using hlen
    obtain rfl : p = ⟨r, [], S.handler r⟩ :=
      (h.procs ps.length ⟨r, [], (S.handler r).expand impl⟩ p (by simp [hlen]) (by simp)).inv_nil
        (.done _) (L.within_start _)
    refine ⟨⟨c'.world, ps⟩, ⟨rfl, hlen, fun pid p' p hp' hp => ?_⟩, rfl⟩
    have hlt := (List.getElem?_eq_some_iff.mp hp').1
    refine h.procs pid p' p ?_ ?_
    · rw [List.getElem?_append_left hlt]
      exact hp'
    · rw [List.getElem?_append_left (hlen ▸ hlt)]
      exact hp

/-- A move of the world, seen backwards. -/
lemma back_env {c' d' : Conf (S.expanded impl exec)} {d : Conf S} {e : S.Env}
    (hstep : (S.expanded impl exec).next c' (.env e) = some d') (h : L.ConfRel d' d) :
    ∃ c, L.ConfRel c' c ∧ S.next c (.env e) = some d := by
  obtain ⟨w', hw, rfl⟩ := Option.map_eq_some_iff.mp hstep
  obtain ⟨w, ps⟩ := d
  obtain rfl : w' = w := h.world
  refine ⟨⟨c'.world, ps⟩, ⟨rfl, h.length, fun pid p' p hp' hp => ?_⟩, ?_⟩
  · exact (h.procs pid p' p hp' hp).before_change (L.env e _ _ hw)
  · simp only [Sys.next]
    rw [hw]
    rfl

/-- A configuration with one process put back to a pending operation steps to the one where the
operation has been made. -/
lemma next_of_undone {w w' : S.World} {ps : List (Proc S)} {pid : ℕ} {req : S.Req}
    {es : List (Event Ret)} {o : Op} {k : Ret o → Prog Ret ε α} {r : Ret o} {y : S.Oracle}
    (hx : S.exec o y w = some (r, w')) (hp : ps[pid]? = some ⟨req, es ++ [⟨o, r⟩], k r⟩) :
    S.next ⟨w, ps.set pid ⟨req, es, .call o k⟩⟩ (.run pid y) = some ⟨w', ps⟩ := by
  have hlt := (List.getElem?_eq_some_iff.mp hp).1
  have hset : ps.set pid ⟨req, es ++ [⟨o, r⟩], k r⟩ = ps := by
    rw [← (List.getElem?_eq_some_iff.mp hp).2, List.set_getElem_self]
  simp only [Sys.next, List.getElem?_set_self hlt, hx, Option.map_some, List.set_set, hset]

/-- A call, seen backwards: the operation takes effect at it, or has not taken effect yet, or had
taken effect before. -/
lemma back_run {c' d' : Conf (S.expanded impl exec)} {d : Conf S} {pid : ℕ} {x : S.Oracle}
    (hc : ∀ (q : ℕ) p', c'.procs[q]? = some p' → Reached S impl exec p')
    (hstep : (S.expanded impl exec).next c' (.run pid x) = some d') (h : L.ConfRel d' d) :
    ∃ c, L.ConfRel c' c ∧ (c = d ∨ ∃ a, S.next c a = some d) := by
  obtain ⟨⟨req, past, todo⟩, o', k', res, w', hp', rfl, hx, rfl⟩ := Sys.next_run hstep
  obtain ⟨w, ps⟩ := d
  obtain rfl : w' = w := h.world
  obtain ⟨as, bs, es, o, k, l, rfl, hlin, hm, hk', hcase⟩ := (hc pid _ hp').step res
  have hlt' : pid < c'.procs.length := (List.getElem?_eq_some_iff.mp hp').1
  have hlen : c'.procs.length = ps.length := by simpa using h.length
  obtain ⟨p, hp⟩ : ∃ p, ps[pid]? = some p := ⟨_, List.getElem?_eq_getElem (hlen ▸ hlt')⟩
  have hpid := h.procs pid _ _ (List.getElem?_set_self hlt') hp
  have hopen : ∀ r, Prog.call o' l ≠ .ret r := fun r => by simp
  -- The configuration before, once the process is known.
  have hrel : ∀ p₀, L.ProcRel c'.world ⟨req, as ++ bs, .call o' k'⟩ p₀ →
      L.ConfRel c' ⟨c'.world, ps.set pid p₀⟩ := by
    intro p₀ h₀
    refine ⟨rfl, by simpa using hlen, fun q q' p₁ hq' hq => ?_⟩
    by_cases hqp : q = pid
    · subst hqp
      rw [List.getElem?_set_self (hlen ▸ hlt')] at hq
      rw [← Option.some.inj hq, ← Option.some.inj (hp'.symm.trans hq')]
      exact h₀
    · rw [List.getElem?_set_ne (Ne.symm hqp)] at hq
      refine (h.procs q q' p₁ ?_ hq).before_change (L.call o' x _ res _ hx)
      rw [List.getElem?_set_ne (Ne.symm hqp)]
      exact hq'
  have hbefore : L.ProcRel c'.world ⟨req, as ++ bs, .call o' k'⟩ ⟨req, es, .call o k⟩ :=
    ProcRel.before (L := L) req as bs es _ _ hlin (hk' ▸ Within.call o k bs _ hm hopen)
  have hearly : ∀ r, L.Early c'.world o (.call o' l) r →
      L.ProcRel c'.world ⟨req, as ++ bs, .call o' k'⟩ ⟨req, es ++ [⟨o, r⟩], k r⟩ := fun r he =>
    hk' ▸ ProcRel.early (L := L) req as bs es o k _ r hlin hm hopen he
  have hsame : ∀ {p₀}, p = p₀ → w' = c'.world →
      (⟨c'.world, ps.set pid p₀⟩ : Conf S) = ⟨w', ps⟩ := by
    rintro p₀ rfl rfl
    rw [← (List.getElem?_eq_some_iff.mp hp).2, List.set_getElem_self]
  rcases hcase with ⟨r, hl, hkr, hlin'⟩ | ⟨hl, hkr⟩
  · -- The operation is completed by the call.
    rw [hkr, List.append_assoc] at hpid
    obtain rfl : p = ⟨req, es ++ [⟨o, r⟩], k r⟩ := hpid.inv_nil hlin' (L.within_start _)
    rcases L.finish o bs o' l res r x c'.world w' hm hx hl with ⟨y, hy⟩ | ⟨hw, he⟩
    · exact ⟨_, hrel _ hbefore, .inr ⟨_, next_of_undone hy hp⟩⟩
    · exact ⟨_, hrel _ (hearly r he), .inl (hsame rfl hw)⟩
  · -- The operation is left open by the call.
    obtain ⟨hw, hin⟩ := L.inside o bs o' l res x c'.world w' hm hx hl
    rw [hkr, List.append_assoc] at hpid
    rcases hpid.inv hlin (.call o k _ _ (hm.snoc res) hl) with
      rfl | ⟨o₁, k₁, m, r, ho, hm', he, rfl⟩
    · exact ⟨_, hrel _ hbefore, .inl (hsame rfl hw)⟩
    · cases ho
      obtain rfl := hm'.functional (hm.snoc res)
      rcases hin r (hw ▸ he) with he | ⟨y, hy⟩
      · exact ⟨_, hrel _ (hearly r he), .inl (hsame rfl hw)⟩
      · exact ⟨_, hrel _ hbefore, .inr ⟨_, next_of_undone (by rw [hw]; exact hy) hp⟩⟩

/-- **One step back**: a step of the finer system is one step of the atomic system, or none. -/
lemma back {c' d' : Conf (S.expanded impl exec)} {d : Conf S} {a : Act (S.expanded impl exec)}
    (hc : ∀ (q : ℕ) p', c'.procs[q]? = some p' → Reached S impl exec p')
    (hstep : (S.expanded impl exec).next c' a = some d') (h : L.ConfRel d' d) :
    ∃ c, L.ConfRel c' c ∧ (c = d ∨ ∃ a, S.next c a = some d) := by
  cases a with
  | arrive r =>
    obtain ⟨c, hc, hs⟩ := back_arrive hstep h
    exact ⟨c, hc, .inr ⟨_, hs⟩⟩
  | run pid x => exact back_run hc hstep h
  | env e =>
    obtain ⟨c, hc, hs⟩ := back_env hstep h
    exact ⟨c, hc, .inr ⟨_, hs⟩⟩

/-- A configuration of the finer system in which no open operation has taken effect. -/
lemma exists_confRel {c' : Conf (S.expanded impl exec)}
    (hc : ∀ (q : ℕ) p', c'.procs[q]? = some p' → Reached S impl exec p') :
    ∃ c, L.ConfRel c' c := by
  have hp : ∀ p' ∈ c'.procs, ∃ p, L.ProcRel c'.world p' p := by
    intro p' hp'
    obtain ⟨q, hq⟩ := List.getElem?_of_mem hp'
    obtain ⟨req, past, todo⟩ := p'
    obtain ⟨as, bs, es, p, hpast, hlin, hw⟩ := hc q _ hq
    obtain rfl : past = as ++ bs := hpast
    exact ⟨_, ProcRel.before (L := L) req as bs es p todo hlin hw⟩
  choose f hf using hp
  refine ⟨⟨c'.world, c'.procs.pmap f fun _ h => h⟩, rfl, by simp, fun q p' p hq hp => ?_⟩
  simp only [List.getElem?_pmap, Option.pmap_eq_some_iff] at hp
  obtain ⟨p'', _, hq', rfl⟩ := hp
  obtain rfl := Option.some.inj (hq.symm.trans hq')
  exact hf p' _

end Linearization

/-! ## Runs -/

/-- A run of the atomic system that explains a run of the finer one: after `f i` of its steps it
looks like the finer run after `i` steps. -/
structure Linearizes {S : Sys Ret ε α} {impl : (o : Op) → Prog Ret' ε (Ret o)}
    {exec : (o : Op') → S.Oracle → S.World → Option (Ret' o × S.World)}
    (L : Linearization S impl exec) (R' : Run (S.expanded impl exec)) (R : Run S) (f : ℕ → ℕ) :
    Prop where
  /-- The steps are in the same order. -/
  mono : ∀ i j, i ≤ j → j ≤ R'.len → f i ≤ f j
  /-- There are enough of them. -/
  le_len : ∀ i ≤ R'.len, f i ≤ R.len
  /-- The configurations are related. -/
  rel : ∀ i ≤ R'.len, L.ConfRel (R'.conf i) (R.conf (f i))

namespace Linearization

variable {S : Sys Ret ε α} {impl : (o : Op) → Prog Ret' ε (Ret o)}
  {exec : (o : Op') → S.Oracle → S.World → Option (Ret' o × S.World)}
  (L : Linearization S impl exec)

/-- A function that does not decrease at any step does not decrease. -/
private lemma le_of_steps {f : ℕ → ℕ} {n : ℕ} (h : ∀ j < n, f j ≤ f (j + 1)) {i j : ℕ}
    (hij : i ≤ j) (hj : j ≤ n) : f i ≤ f j := by
  induction j, hij using Nat.le_induction with
  | base => exact le_rfl
  | succ j hij ih => exact (ih (by omega)).trans (h j (by omega))

/-- What the first `i` steps of a run of the finer system look like in the atomic one, when they
are to end in a given configuration. -/
lemma exists_acts (R' : Run (S.expanded impl exec)) {i : ℕ} (hi : i ≤ R'.len) {c : Conf S}
    (h : L.ConfRel (R'.conf i) c) :
    ∃ (acts : List (Act S)) (f : ℕ → ℕ), S.runTo ⟨R'.start, []⟩ acts = some c ∧
      f i = acts.length ∧ (∀ j < i, f j ≤ f (j + 1)) ∧
      ∀ j ≤ i, ∃ c₀, S.runTo ⟨R'.start, []⟩ (acts.take (f j)) = some c₀ ∧
        L.ConfRel (R'.conf j) c₀ := by
  induction i generalizing c with
  | zero =>
    obtain ⟨w, ps⟩ := c
    have hworld : (R'.conf 0).world = w := h.world
    have hlen := h.length
    simp only [Run.conf, List.take_zero, Sys.runTo, Option.getD_some, List.length_nil]
      at hworld hlen
    obtain rfl := List.length_eq_zero_iff.mp hlen.symm
    subst hworld
    refine ⟨[], fun _ => 0, rfl, rfl, by simp, fun j hj => ⟨_, rfl, ?_⟩⟩
    obtain rfl : j = 0 := by omega
    exact h
  | succ i ih =>
    obtain ⟨c₀, hc₀, hstep⟩ := back (fun q p' hq => L.reached R' (by omega) hq) (R'.step hi) h
    obtain ⟨acts, f, hto, hf, hmono, hrel⟩ := ih (by omega) hc₀
    -- The atomic run stays where it is, or makes one step more.
    obtain ⟨acts', hto', hle, htake⟩ : ∃ acts' : List (Act S),
        S.runTo ⟨R'.start, []⟩ acts' = some c ∧ acts.length ≤ acts'.length ∧
          acts'.take acts.length = acts := by
      rcases hstep with rfl | ⟨a, ha⟩
      · exact ⟨acts, hto, le_rfl, by simp⟩
      · refine ⟨acts ++ [a], ?_, by simp, by simp⟩
        rw [Sys.runTo_append, hto]
        simp [Sys.runTo, ha]
    refine ⟨acts', fun j => if j ≤ i then f j else acts'.length, hto', if_neg (by omega),
      fun j hj => ?_, fun j hj => ?_⟩
    · dsimp only
      rw [if_pos (by omega)]
      split_ifs with hji
      · exact hmono j (by omega)
      · obtain rfl : j = i := by omega
        omega
    · dsimp only
      split_ifs with hji
      · obtain ⟨c₁, hc₁, hr₁⟩ := hrel j hji
        refine ⟨c₁, ?_, hr₁⟩
        have hfj : f j ≤ acts.length := (le_of_steps hmono hji le_rfl).trans hf.le
        rw [← htake, List.take_take, Nat.min_eq_left hfj] at hc₁
        exact hc₁
      · obtain rfl : j = i + 1 := by omega
        exact ⟨c, by rw [List.take_length]; exact hto', h⟩

/-- **Every run of the finer system is explained by a run of the atomic one.** -/
theorem exists_run (R' : Run (S.expanded impl exec)) : ∃ R f, Linearizes L R' R f := by
  obtain ⟨c, hc⟩ := exists_confRel (L := L) fun q p' hq => L.reached R' le_rfl hq
  obtain ⟨acts, f, hto, hf, hmono, hrel⟩ := L.exists_acts R' le_rfl hc
  have hle : ∀ i j, i ≤ j → j ≤ R'.len → f i ≤ f j := fun i j => le_of_steps hmono
  refine ⟨⟨R'.start, acts, R'.isStart, by rw [hto]; rfl⟩, f, hle, fun i hi => ?_, fun i hi => ?_⟩
  · exact (hle i R'.len hi le_rfl).trans hf.le
  · obtain ⟨c₀, hc₀, hr⟩ := hrel i hi
    simp only [Run.conf] at hr ⊢
    rw [hc₀]
    exact hr

end Linearization

namespace Linearizes

variable {S : Sys Ret ε α} {impl : (o : Op) → Prog Ret' ε (Ret o)}
  {exec : (o : Op') → S.Oracle → S.World → Option (Ret' o × S.World)}
  {L : Linearization S impl exec} {R' : Run (S.expanded impl exec)} {R : Run S} {f : ℕ → ℕ}

/-- The shared state is the same. -/
lemma world_eq (h : Linearizes L R' R f) {i : ℕ} (hi : i ≤ R'.len) :
    R.world (f i) = R'.world i := (h.rel i hi).world.symm

/-- A process that is between two operations has made the operations that it has completed. -/
lemma proc_eq (h : Linearizes L R' R f) {i pid : ℕ} (hi : i ≤ R'.len) {req : S.Req}
    {as : List (Event Ret')} {todo' : Prog Ret' ε α} {es : List (Event Ret)} {p : Prog Ret ε α}
    (hp : R'.proc i pid = some ⟨req, as, todo'⟩) (hlin : Lin impl (S.handler req) as es p)
    (hw : Within impl p [] todo') : R.proc (f i) pid = some ⟨req, es, p⟩ := by
  have hr := h.rel i hi
  have hlt : pid < (R.conf (f i)).procs.length := by
    rw [← hr.length]
    exact (List.getElem?_eq_some_iff.mp hp).1
  have hget := List.getElem?_eq_getElem hlt
  rw [← (hr.procs pid _ _ hp hget).inv_nil hlin hw]
  exact hget

/-- **A completed operation takes effect between its first and its last call.** -/
lemma takes_effect (h : Linearizes L R' R f) {i j pid : ℕ} (hij : i ≤ j) (hj : j ≤ R'.len)
    {req : S.Req} {as bs : List (Event Ret')} {es : List (Event Ret)} {o : Op}
    {k : Ret o → Prog Ret ε α} {r : Ret o}
    (hi : R'.proc i pid = some ⟨req, as, (Prog.call o k).expand impl⟩)
    (hj' : R'.proc j pid = some ⟨req, as ++ bs, (k r).expand impl⟩)
    (hlin : Lin impl (S.handler req) as es (.call o k)) (hr : Prog.Path (impl o) bs (.ret r)) :
    ∃ m, f i ≤ m ∧ m < f j ∧ R.Does m pid ⟨req, es, .call o k⟩ ⟨o, r⟩ := by
  have h₁ := h.proc_eq (hij.trans hj) hi hlin (L.within_start _)
  have h₂ := h.proc_eq hj hj' (hlin.snoc hr) (L.within_start _)
  have hpast : es ++ [⟨o, r⟩] = es ++ (⟨o, r⟩ : Event Ret) :: [] := rfl
  obtain ⟨m, hm, q, hd, hreq, hes⟩ := R.did_at (h.le_len j hj) h₂ hpast
  obtain rfl : q = ⟨req, es, .call o k⟩ := by
    obtain ⟨req', past, todo⟩ := q
    obtain rfl : req' = req := hreq
    obtain rfl : past = es := hes
    obtain rfl := (R.path hd.lt.le hd.proc).functional hlin.path
    rfl
  refine ⟨m, ?_, hm, hd⟩
  by_contra hlt
  obtain ⟨k', -, hk'⟩ := hd.todo
  obtain ⟨q, hq, -, hpre⟩ := R.proc_mono (by omega) (h.le_len i (hij.trans hj)) hk'
  obtain rfl := Option.some.inj (hq.symm.trans h₁)
  have hlen := hpre.length_le
  simp only [List.length_append, List.length_singleton] at hlen
  omega

end Linearizes

/-! ## Operations along a run -/

namespace Run

variable {S : Sys Ret ε α} {impl : (o : Op) → Prog Ret' ε (Ret o)}
  {exec : (o : Op') → S.Oracle → S.World → Option (Ret' o × S.World)}

/-- The process `pid` performs the operation `o`, making its first call at step `i` and its last at
step `j`, and is answered `r`: the fine calls `bs` are a path of the implementation to `r`. -/
structure PerformsBy (R' : Run (S.expanded impl exec)) (i j pid : ℕ) (o : Op) (r : Ret o)
    (req : S.Req) (as bs : List (Event Ret')) (es : List (Event Ret)) (k : Ret o → Prog Ret ε α) :
    Prop where
  /-- The steps are in order. -/
  le : i ≤ j
  /-- The first call. -/
  starts : ∃ e, R'.Does i pid ⟨req, as, (Prog.call o k).expand impl⟩ e
  /-- The last call. -/
  ends : ∃ p e, R'.Does j pid p e ∧ p.past ++ [e] = as ++ bs
  /-- The operations before it are completed. -/
  lin : Lin impl (S.handler req) as es (.call o k)
  /-- The calls of the operation. -/
  path : Prog.Path (impl o) bs (.ret r)

/-- The process `pid` performs the operation `o`, making its first call at step `i` and its last at
step `j`, and is answered `r`. -/
def Performs (R' : Run (S.expanded impl exec)) (i j pid : ℕ) (o : Op) (r : Ret o) : Prop :=
  ∃ req as bs es k, R'.PerformsBy i j pid o r req as bs es k

variable {R' : Run (S.expanded impl exec)} {i j pid : ℕ} {o : Op} {r : Ret o} {req : S.Req}
  {as bs : List (Event Ret')} {es : List (Event Ret)} {k : Ret o → Prog Ret ε α}

/-- The process after the last call of an operation. -/
lemma PerformsBy.after (h : R'.PerformsBy i j pid o r req as bs es k) :
    R'.proc (j + 1) pid = some ⟨req, as ++ bs, (k r).expand impl⟩ := by
  obtain ⟨e₀, hi⟩ := h.starts
  obtain ⟨p, e, hj, hpast⟩ := h.ends
  obtain ⟨l, -, hl⟩ := hj.todo
  have hreq : p.req = req := by
    obtain ⟨q, hq, hr, -⟩ := R'.proc_mono h.le hj.lt.le hi.proc
    obtain rfl := Option.some.inj (hq.symm.trans hj.proc)
    exact hr
  rw [hl, hreq, hpast]
  have hp := R'.path hj.lt hl
  rw [hreq, hpast] at hp
  have hp' := (R'.path hi.lt.le hi.proc).append (h.path.bind fun r => (k r).expand impl)
  have htodo : l e.res = (k r).expand impl := hp.functional hp'
  rw [htodo]

/-- A call of the finer system is made for the pending operation of its process. -/
lemma Does.within (L : Linearization S impl exec) {p : Proc (S.expanded impl exec)}
    {e : Event Ret'} (h : R'.Does i pid p e) :
    ∃ as bs es o k l, p.past = as ++ bs ∧ Lin impl (S.handler p.req) as es (.call o k) ∧
      Prog.Path (impl o) bs (.call e.op l) := by
  obtain ⟨req, past, todo⟩ := p
  obtain ⟨k', hk, -⟩ := h.todo
  obtain rfl : todo = .call e.op k' := hk
  obtain ⟨as, bs, es, o, k, l, hpast, hlin, hm, -⟩ := (L.reached R' h.lt.le h.proc).step e.res
  exact ⟨as, bs, es, o, k, l, hpast, hlin, hm⟩

/-- A call that is all there is of an operation performs it. -/
lemma Does.performs {p : Proc (S.expanded impl exec)} {e : Event Ret'} (h : R'.Does i pid p e)
    (hlin : Lin impl (S.handler p.req) p.past es (.call o k))
    (hr : Prog.Path (impl o) [e] (.ret r)) : R'.Performs i i pid o r := by
  obtain ⟨req, past, todo⟩ := p
  have hpath := R'.path h.lt.le h.proc
  have htodo : todo = (Prog.call o k).expand impl := hpath.functional (hlin.path_expand)
  subst htodo
  exact ⟨req, past, [e], es, k, Nat.le_refl i, ⟨e, h⟩, ⟨_, e, h, rfl⟩, hlin, hr⟩

/-- An operation that takes one call starts and ends at the same step. -/
lemma PerformsBy.single (h : R'.PerformsBy i j pid o r req as bs es k) (hbs : bs.length = 1) :
    i = j := by
  obtain ⟨e₀, hi⟩ := h.starts
  obtain ⟨p, e, hj, hpast⟩ := h.ends
  refine hi.unique hj ?_
  have hlen := congrArg List.length hpast
  simp only [List.length_append, List.length_singleton] at hlen
  dsimp only
  omega

/-- **An operation takes effect once, between its first and its last call.** -/
theorem Performs.takes_effect {L : Linearization S impl exec} {R : Run S} {f : ℕ → ℕ}
    (h : R'.Performs i j pid o r) (hlin : Linearizes L R' R f) :
    ∃ m p, f i ≤ m ∧ m < f (j + 1) ∧ R.Does m pid p ⟨o, r⟩ := by
  obtain ⟨req, as, bs, es, k, h⟩ := h
  obtain ⟨e₀, hi⟩ := h.starts
  obtain ⟨p, e, hj, -⟩ := h.ends
  obtain ⟨m, hm, hm', hd⟩ :=
    hlin.takes_effect (h.le.trans (Nat.le_succ j)) hj.lt hi.proc h.after h.lin h.path
  exact ⟨m, _, hm, hm', hd⟩

end Run

end Async
