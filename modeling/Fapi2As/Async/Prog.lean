import Mathlib.Tactic.Common

set_option relaxedAutoImplicit false
set_option autoImplicit false

/-!
# Asynchronous programs

A program that runs on one thread and, at every `await`, hands an operation to its environment
and continues with the answer. Between two calls it computes without being interrupted, so the
calls are the only points at which another program can run.

Programs are trees over an interface `Ret : Op → Type` that gives each operation the type of its
answer. They return a value of type `α` or fail with an exception of type `ε`. What such a
program can have done when it reaches a given call is described by `Async.Prog.wp`, a weakest
precondition over the list of the calls made so far and their answers; the answers themselves
are left open, so the same facts serve every environment.

## Main definitions

* `Async.Prog` — programs; `Async.Event` — a call with its answer.
* `Async.Prog.wp` — every call made meets `pre`, and the outcome meets `post`.
* `Async.Prog.Path` — what is left of a program after some calls.
* `Async.Prog.throwIf`, `Async.Prog.settle` — the early exit and the rejected promise.

## Main results

* `Async.Prog.wp_bind`, `Async.Prog.wp_tryCatch` — the rules of sequencing and of handlers.
* `Async.Prog.wp_invariant` — the rule of invariants.
* `Async.Prog.wp_extends` — what is known of the past is kept.
* `Async.Prog.OnlyCalls.bind` — programs that make calls of one kind are closed under sequencing.
* `Async.Prog.Path.functional` — the calls and their answers determine the rest of a program.
-/

namespace Async

/-- A program over the interface `Ret`: it returns, throws, or calls an operation and continues
with the answer. -/
inductive Prog {Op : Type} (Ret : Op → Type) (ε α : Type) : Type
  | ret (a : α)
  | throw (e : ε)
  | call (o : Op) (k : Ret o → Prog Ret ε α)

/-- An operation together with the answer it was given. -/
structure Event {Op : Type} (Ret : Op → Type) where
  /-- The operation. -/
  op : Op
  /-- Its answer. -/
  res : Ret op

instance {Op : Type} {Ret : Op → Type} [DecidableEq Op] [∀ o, DecidableEq (Ret o)] :
    DecidableEq (Event Ret)
  | ⟨o, r⟩, ⟨o', r'⟩ =>
    if h : o = o' then
      decidable_of_iff (h ▸ r = r') (by subst h; simp)
    else isFalse fun he => h (congrArg Event.op he)

namespace Prog

variable {Op : Type} {Ret : Op → Type} {ε α β : Type}

/-- Run `f` on the value of `p`; an exception of `p` skips `f`. -/
def bind : Prog Ret ε α → (α → Prog Ret ε β) → Prog Ret ε β
  | ret a, f => f a
  | throw e, _ => throw e
  | call o k, f => call o fun r => (k r).bind f

/-- Run the handler `f` on the exception of `p`. -/
def tryCatch : Prog Ret ε α → (ε → Prog Ret ε α) → Prog Ret ε α
  | ret a, _ => ret a
  | throw e, f => f e
  | call o k, f => call o fun r => (k r).tryCatch f

instance : Monad (Prog Ret ε) where
  pure := ret
  bind := bind

instance : MonadExceptOf ε (Prog Ret ε) where
  throw := throw
  tryCatch := tryCatch

/-- The program that only calls `o` and returns its answer. -/
def perform (o : Op) : Prog Ret ε (Ret o) := call o ret

/-- Throw `e` when `c` holds. -/
def throwIf (c : Prop) [Decidable c] (e : ε) : Prog Ret ε Unit :=
  if c then throw e else ret ()

/-- The outcome of a settled promise: its value, or its rejection reason wrapped as an
exception. -/
def settle {φ : Type} (wrap : φ → ε) : Except φ α → Prog Ret ε α
  | .ok a => ret a
  | .error e => throw (wrap e)

lemma ret_bind (a : α) (f : α → Prog Ret ε β) : (ret a : Prog Ret ε α) >>= f = f a := rfl

lemma pure_bind' (a : α) (f : α → Prog Ret ε β) : (pure a : Prog Ret ε α) >>= f = f a := rfl

lemma throw_bind (e : ε) (f : α → Prog Ret ε β) : (throw e : Prog Ret ε α) >>= f = throw e := rfl

/-- Sequencing is associative. -/
lemma bind_assoc {γ : Type} (p : Prog Ret ε α) (f : α → Prog Ret ε β) (g : β → Prog Ret ε γ) :
    p >>= f >>= g = p >>= fun a => f a >>= g := by
  induction p with
  | ret a => rfl
  | throw e => rfl
  | call o k ih => exact congrArg (call o) (funext ih)

/-! ## Weakest preconditions over the calls made -/

/-- `wp pre post past p`: after the calls `past`, every call that `p` makes meets `pre` of the
calls before it, whatever the answers, and the outcome of `p` meets `post` of all of them. -/
def wp (pre : List (Event Ret) → Op → Prop) (post : List (Event Ret) → Except ε α → Prop) :
    List (Event Ret) → Prog Ret ε α → Prop
  | past, ret a => post past (.ok a)
  | past, throw e => post past (.error e)
  | past, call o k => pre past o ∧ ∀ r, wp pre post (past ++ [⟨o, r⟩]) (k r)

/-- What the rest of a program must establish about an intermediate outcome: a value is passed
on to `f`, an exception is the outcome of the whole. -/
def Next (pre : List (Event Ret) → Op → Prop) (post : List (Event Ret) → Except ε β → Prop)
    (f : α → Prog Ret ε β) (past : List (Event Ret)) : Except ε α → Prop
  | .ok a => wp pre post past (f a)
  | .error e => post past (.error e)

variable {pre : List (Event Ret) → Op → Prop} {post post' : List (Event Ret) → Except ε α → Prop}
  {past : List (Event Ret)}

@[simp] lemma wp_pure (a : α) :
    wp pre post past (pure a : Prog Ret ε α) ↔ post past (.ok a) := Iff.rfl

@[simp] lemma wp_ret (a : α) : wp pre post past (ret a) ↔ post past (.ok a) := Iff.rfl

@[simp] lemma wp_throw (e : ε) : wp pre post past (throw e) ↔ post past (.error e) := Iff.rfl

@[simp] lemma wp_throw' (e : ε) :
    wp pre post past (MonadExcept.throw e : Prog Ret ε α) ↔ post past (.error e) := Iff.rfl

/-- A stronger outcome gives a stronger program fact. -/
lemma wp_mono (h : ∀ q x, post q x → post' q x) :
    ∀ {past : List (Event Ret)} {p : Prog Ret ε α}, wp pre post past p → wp pre post' past p
  | _, ret _, hp => h _ _ hp
  | _, throw _, hp => h _ _ hp
  | _, call _ _, ⟨ho, hk⟩ => ⟨ho, fun r => wp_mono h (hk r)⟩

/-- A weaker demand on the calls gives a weaker program fact. -/
lemma wp_mono_pre {pre' : List (Event Ret) → Op → Prop} (h : ∀ q o, pre q o → pre' q o) :
    ∀ {past : List (Event Ret)} {p : Prog Ret ε α}, wp pre post past p → wp pre' post past p
  | _, ret _, hp => hp
  | _, throw _, hp => hp
  | _, call _ _, ⟨ho, hk⟩ => ⟨h _ _ ho, fun r => wp_mono_pre h (hk r)⟩

/-- Nothing is demanded of a program. -/
lemma wp_of_forall (hpre : ∀ q o, pre q o) (hpost : ∀ q x, post q x) :
    ∀ {past : List (Event Ret)} {p : Prog Ret ε α}, wp pre post past p
  | _, ret _ => hpost _ _
  | _, throw _ => hpost _ _
  | _, call _ _ => ⟨hpre _ _, fun _ => wp_of_forall hpre hpost⟩

/-- **Invariants of the past**: what every call of a program keeps true of the past is true before
each of its calls and in its outcome. -/
lemma wp_invariant {I : List (Event Ret) → Prop}
    (hI : ∀ q o r, I q → pre q o → I (q ++ [⟨o, r⟩])) :
    ∀ {past : List (Event Ret)} {p : Prog Ret ε α}, I past → wp pre post past p →
      wp (fun q o => I q ∧ pre q o) (fun q x => I q ∧ post q x) past p
  | _, ret _, hi, hp => ⟨hi, hp⟩
  | _, throw _, hi, hp => ⟨hi, hp⟩
  | _, call _ _, hi, ⟨ho, hk⟩ => ⟨⟨hi, ho⟩, fun r => wp_invariant hI (hI _ _ r hi ho) (hk r)⟩

/-- A program's outcome is known after at least the calls that were made before it started. -/
lemma wp_extends :
    ∀ {past : List (Event Ret)} {p : Prog Ret ε α}, wp pre post past p →
      wp pre (fun q x => past <+: q ∧ post q x) past p
  | _, ret _, hp => ⟨List.prefix_rfl, hp⟩
  | _, throw _, hp => ⟨List.prefix_rfl, hp⟩
  | past, call _ _, ⟨ho, hk⟩ => ⟨ho, fun r =>
      wp_mono (fun _ _ h => ⟨(List.prefix_append past _).trans h.1, h.2⟩) (wp_extends (hk r))⟩

/-- What holds of every past that goes on from the present one is the outcome of any program. -/
lemma wp_of_prefix (hpre : ∀ q o, pre q o) (hpost : ∀ q x, past <+: q → post q x)
    {p : Prog Ret ε α} : wp pre post past p := by
  have hall : wp pre (fun q (_ : Except ε α) => past <+: q ∧ True) past p :=
    wp_extends (wp_of_forall hpre fun _ _ => trivial)
  exact wp_mono (fun q x hq => hpost q x hq.1) hall

/-- **Sequencing**: `p >>= f` is right when `p` leads to outcomes from which `f` is right. -/
lemma wp_bind {post : List (Event Ret) → Except ε β → Prop} {f : α → Prog Ret ε β} :
    ∀ {past : List (Event Ret)} {p : Prog Ret ε α},
      wp pre post past (p >>= f) ↔ wp pre (Next pre post f) past p
  | _, ret _ => Iff.rfl
  | _, throw _ => Iff.rfl
  | past, call o k => by
    change (pre past o ∧ ∀ r, wp pre post (past ++ [⟨o, r⟩]) (k r >>= f)) ↔
      (pre past o ∧ ∀ r, wp pre (Next pre post f) (past ++ [⟨o, r⟩]) (k r))
    exact and_congr Iff.rfl (forall_congr' fun r => wp_bind)

/-- **Handlers**: `try p catch f` is right when every exception of `p` is handled rightly. -/
lemma wp_tryCatch {f : ε → Prog Ret ε α} :
    ∀ {past : List (Event Ret)} {p : Prog Ret ε α},
      wp pre post past (MonadExcept.tryCatch p f) ↔
        wp pre (fun q x => match x with
          | .ok a => post q (.ok a)
          | .error e => wp pre post q (f e)) past p
  | _, ret _ => Iff.rfl
  | _, throw _ => Iff.rfl
  | past, call o k => by
    change (pre past o ∧ ∀ r, wp pre post (past ++ [⟨o, r⟩]) (MonadExcept.tryCatch (k r) f)) ↔ _
    exact and_congr Iff.rfl (forall_congr' fun r => wp_tryCatch)

@[simp] lemma wp_perform (o : Op) {post : List (Event Ret) → Except ε (Ret o) → Prop} :
    wp pre post past (perform o) ↔ pre past o ∧ ∀ r, post (past ++ [⟨o, r⟩]) (.ok r) := Iff.rfl

@[simp] lemma wp_throwIf (c : Prop) [Decidable c] (e : ε)
    {post : List (Event Ret) → Except ε Unit → Prop} :
    wp pre post past (throwIf c e) ↔ (c → post past (.error e)) ∧ (¬c → post past (.ok ())) := by
  unfold throwIf
  split_ifs with h <;> simp [h]

@[simp] lemma wp_settle {φ : Type} (wrap : φ → ε) (x : Except φ α) :
    wp pre post past (settle wrap x) ↔
      (∀ a, x = .ok a → post past (.ok a)) ∧ ∀ e, x = .error e → post past (.error (wrap e)) := by
  cases x <;> simp [settle]

/-- Two program facts hold together. -/
lemma wp_and {pre' : List (Event Ret) → Op → Prop} :
    ∀ {past : List (Event Ret)} {p : Prog Ret ε α}, wp pre post past p → wp pre' post' past p →
      wp (fun q o => pre q o ∧ pre' q o) (fun q x => post q x ∧ post' q x) past p
  | _, ret _, h, h' => ⟨h, h'⟩
  | _, throw _, h, h' => ⟨h, h'⟩
  | _, call _ _, h, h' => ⟨⟨h.1, h'.1⟩, fun r => wp_and (h.2 r) (h'.2 r)⟩

/-! ## Programs that make calls of one kind -/

/-- Every call of a program is one of `C`, whatever the answers. -/
def OnlyCalls (C : Op → Prop) : Prog Ret ε α → Prop
  | ret _ => True
  | throw _ => True
  | call o k => C o ∧ ∀ r, OnlyCalls C (k r)

section OnlyCalls

variable {C : Op → Prop}

lemma OnlyCalls.bind {f : α → Prog Ret ε β} (hf : ∀ a, OnlyCalls C (f a)) :
    ∀ {p : Prog Ret ε α}, OnlyCalls C p → OnlyCalls C (p >>= f)
  | ret a, _ => hf a
  | throw _, _ => trivial
  | call _ _, h => ⟨h.1, fun r => OnlyCalls.bind hf (h.2 r)⟩

lemma OnlyCalls.tryCatch {f : ε → Prog Ret ε α} (hf : ∀ e, OnlyCalls C (f e)) :
    ∀ {p : Prog Ret ε α}, OnlyCalls C p → OnlyCalls C (MonadExcept.tryCatch p f)
  | ret _, _ => trivial
  | throw e, _ => hf e
  | call _ _, h => ⟨h.1, fun r => OnlyCalls.tryCatch hf (h.2 r)⟩

lemma OnlyCalls.mono {D : Op → Prop} (hD : ∀ o, C o → D o) :
    ∀ {p : Prog Ret ε α}, OnlyCalls C p → OnlyCalls D p
  | ret _, _ => trivial
  | throw _, _ => trivial
  | call _ _, h => ⟨hD _ h.1, fun r => OnlyCalls.mono hD (h.2 r)⟩

lemma onlyCalls_perform {o : Op} (h : C o) : OnlyCalls C (perform o : Prog Ret ε (Ret o)) :=
  ⟨h, fun _ => trivial⟩

lemma onlyCalls_settle {φ : Type} (wrap : φ → ε) (x : Except φ α) :
    OnlyCalls C (settle wrap x : Prog Ret ε α) := by
  cases x <;> trivial

lemma onlyCalls_throwIf (c : Prop) [Decidable c] (e : ε) :
    OnlyCalls C (throwIf c e : Prog Ret ε Unit) := by
  unfold throwIf
  split_ifs <;> trivial

/-- The calls of such a program are of that kind. -/
lemma OnlyCalls.wp : ∀ {past : List (Event Ret)} {p : Prog Ret ε α}, OnlyCalls C p →
    wp (fun _ o => C o) (fun _ _ => True) past p
  | _, ret _, _ => trivial
  | _, throw _, _ => trivial
  | _, call _ _, h => ⟨h.1, fun r => OnlyCalls.wp (h.2 r)⟩

/-- A program whose calls meet a precondition that only one kind of calls meets makes calls of that
kind. -/
lemma onlyCalls_of_wp {pre : List (Event Ret) → Op → Prop}
    {post : List (Event Ret) → Except ε α → Prop} (hpre : ∀ past o, pre past o → C o) :
    ∀ {past : List (Event Ret)} {p : Prog Ret ε α}, Prog.wp pre post past p → OnlyCalls C p
  | _, ret _, _ => trivial
  | _, throw _, _ => trivial
  | _, call _ _, h => ⟨hpre _ _ h.1, fun r => onlyCalls_of_wp hpre (h.2 r)⟩

end OnlyCalls

/-! ## Paths -/

/-- `Path p es p'`: making the calls of `es` and given their answers, `p` goes on as `p'`. -/
inductive Path : Prog Ret ε α → List (Event Ret) → Prog Ret ε α → Prop
  | done (p : Prog Ret ε α) : Path p [] p
  | step (o : Op) (k : Ret o → Prog Ret ε α) (r : Ret o) (es : List (Event Ret))
      (p' : Prog Ret ε α) (h : Path (k r) es p') : Path (call o k) (⟨o, r⟩ :: es) p'

/-- A program fact is a fact about what is left of the program. -/
lemma Path.wp {p p' : Prog Ret ε α} {es : List (Event Ret)} (h : Path p es p') :
    ∀ {past : List (Event Ret)}, Prog.wp pre post past p → Prog.wp pre post (past ++ es) p' := by
  induction h with
  | done p => exact fun hp => by simpa using hp
  | step o k r es p' _ ih => exact fun hp => by simpa using ih (hp.2 r)

/-- A path of a program is one of every program that begins with it. -/
lemma Path.bind {p p' : Prog Ret ε α} {es : List (Event Ret)} (h : Path p es p')
    (f : α → Prog Ret ε β) : Path (p.bind f) es (p'.bind f) := by
  induction h with
  | done p => exact .done _
  | step o k r es p' _ ih => exact .step _ _ _ _ _ ih

/-- Two paths in a row are one path. -/
lemma Path.append {p p' p'' : Prog Ret ε α} {es fs : List (Event Ret)} (h : Path p es p')
    (h' : Path p' fs p'') : Path p (es ++ fs) p'' := by
  induction h with
  | done p => exact h'
  | step o k r es p' _ ih => exact .step _ _ _ _ _ (ih h')

/-- A path to the value of a program goes on with what follows it. -/
lemma Path.bind_ret {p : Prog Ret ε α} {a : α} {f : α → Prog Ret ε β} {p' : Prog Ret ε β}
    {es fs : List (Event Ret)} (h : Path p es (ret a)) (h' : Path (f a) fs p') :
    Path (p >>= f) (es ++ fs) p' :=
  (h.bind f).append h'

/-- A call and its answer. -/
lemma path_perform (o : Op) (r : Ret o) :
    Path (perform o : Prog Ret ε (Ret o)) [⟨o, r⟩] (ret r) := .step o ret r [] _ (.done _)

/-- A check that passes makes no call. -/
lemma path_throwIf {c : Prop} [Decidable c] (e : ε) (h : ¬c) :
    Path (throwIf c e : Prog Ret ε Unit) [] (ret ()) := by
  rw [throwIf, if_neg h]
  exact .done _

/-- A path goes on with the pending call and its answer. -/
lemma Path.snoc {p : Prog Ret ε α} {es : List (Event Ret)} {o : Op} {k : Ret o → Prog Ret ε α}
    (h : Path p es (call o k)) (r : Ret o) : Path p (es ++ [⟨o, r⟩]) (k r) :=
  h.append (.step o k r [] _ (.done _))

/-- The calls and their answers determine the rest of a program. -/
lemma Path.functional {p p₁ p₂ : Prog Ret ε α} {es : List (Event Ret)} (h₁ : Path p es p₁)
    (h₂ : Path p es p₂) : p₁ = p₂ := by
  induction h₁ with
  | done p =>
    cases h₂ with
    | done => rfl
  | step o k r es p' _ ih =>
    cases h₂ with
    | step _ _ _ _ _ h => exact ih h

/-- A program that has returned makes no further call. -/
lemma Path.ret_last {p : Prog Ret ε α} {a : α} {es : List (Event Ret)} (h : Path p es (ret a)) :
    ∀ {f : Event Ret} {fs : List (Event Ret)} {p' : Prog Ret ε α}, ¬Path p (es ++ f :: fs) p' := by
  generalize hr : ret a = r at h
  induction h with
  | done p =>
    subst hr
    intro f fs p' h'
    cases h'
  | step o k r es p' _ ih =>
    intro f fs p' h'
    cases h' with
    | step _ _ _ _ _ h' => exact ih hr h'

/-- A path to a result cannot be continued. -/
lemma Path.not_beyond {p p₂ : Prog Ret ε α} {a : α} {es fs : List (Event Ret)}
    (h₁ : Path p es (ret a)) (h₂ : Path p (es ++ fs) p₂) : fs = [] ∧ p₂ = ret a := by
  cases fs with
  | nil =>
    rw [List.append_nil] at h₂
    exact ⟨rfl, h₂.functional h₁⟩
  | cons f fs => exact absurd h₂ h₁.ret_last

/-- Two paths to results that begin one list are the same. -/
lemma Path.complete_unique {p : Prog Ret ε α} {a b : α} {es fs xs ys : List (Event Ret)}
    (h₁ : Path p es (ret a)) (h₂ : Path p fs (ret b)) (h : es ++ xs = fs ++ ys) : es = fs := by
  rcases List.append_eq_append_iff.mp h with ⟨zs, rfl, -⟩ | ⟨zs, rfl, -⟩
  · obtain ⟨rfl, -⟩ := h₁.not_beyond h₂
    simp
  · obtain ⟨rfl, -⟩ := h₂.not_beyond h₁
    simp

end Prog

end Async
