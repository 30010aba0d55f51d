import Fapi2As.Async.Run

set_option relaxedAutoImplicit false
set_option autoImplicit false

/-!
# Programs that run alone

What a program does from a given world when no other program makes a call meanwhile: the calls it
makes, its outcome, and the world it leaves. The rules follow the constructs of programs, so that an
execution is taken apart as the program is written.

## Main definitions

* `Async.Sys.Alone` — an execution of a program from a world, with its calls, outcome and last
  world.
* `Async.Sys.evalAlone` — the execution for given choices of the outside.

## Main results

* `Async.Sys.Alone.bind`, `Async.Sys.Alone.tryCatch` — an execution of a sequence and of a handler
  is made of executions of the parts.
* `Async.Sys.Alone.seq`, `Async.Sys.Alone.tryCatch_ok`, `Async.Sys.Alone.tryCatch_error` — and
  executions of the parts make one of a sequence or a handler.
* `Async.Sys.Alone.wp` — what holds of the outcome of a program holds of its executions.
* `Async.Sys.Alone.bind_of_path` — an execution of a sequence whose first calls lead the first part
  to its value.
* `Async.Sys.Alone.frame` — what every call of a program keeps, an execution keeps.
* `Async.Sys.Alone.map` — an execution in a corresponding world.
* `Async.Sys.Alone.reads` — calls that leave the world as it is.
* `Async.Sys.alone_of_evalAlone` — an execution can be evaluated.
-/

namespace Async

variable {Op : Type} {Ret : Op → Type} {ε α β γ : Type}

namespace Sys

variable (S : Sys Ret ε γ)

/-- **A program runs alone**: from the world `w` it makes the calls `es` with their answers, ends
with the outcome `y` and leaves the world `w'`. -/
inductive Alone : Prog Ret ε α → S.World → List (Event Ret) → Except ε α → S.World → Prop
  | ret (a : α) (w : S.World) : Alone (.ret a) w [] (.ok a) w
  | throw (e : ε) (w : S.World) : Alone (.throw e) w [] (.error e) w
  | call (o : Op) (k : Ret o → Prog Ret ε α) (x : S.Oracle) (r : Ret o) (w w₁ w' : S.World)
      (es : List (Event Ret)) (y : Except ε α) (exec : S.exec o x w = some (r, w₁))
      (rest : Alone (k r) w₁ es y w') : Alone (.call o k) w (⟨o, r⟩ :: es) y w'

namespace Alone

variable {S} {w w' : S.World} {es : List (Event Ret)}

/-! ## Constructs of programs -/

/-- **An execution of a sequence** is one of its first part, and one of its second part when the
first one returns. -/
lemma bind {p : Prog Ret ε α} {f : α → Prog Ret ε β} {y : Except ε β}
    (h : S.Alone (p >>= f) w es y w') :
    (∃ a es₁ es₂ w₁, S.Alone p w es₁ (.ok a) w₁ ∧ S.Alone (f a) w₁ es₂ y w' ∧ es = es₁ ++ es₂) ∨
      ∃ e, S.Alone p w es (.error e) w' ∧ y = .error e := by
  induction p generalizing w es with
  | ret a => exact .inl ⟨a, [], es, w, .ret a w, h, rfl⟩
  | throw e =>
    cases h with
    | throw => exact .inr ⟨e, .throw e _, rfl⟩
  | call o k ih =>
    cases h with
    | call _ _ x r _ w₁ _ es' _ hx hrest =>
      rcases ih r hrest with ⟨a, es₁, es₂, w₂, h1, h2, rfl⟩ | ⟨e, h1, rfl⟩
      · exact .inl ⟨a, ⟨o, r⟩ :: es₁, es₂, w₂, .call o k x r w w₁ w₂ es₁ _ hx h1, h2, rfl⟩
      · exact .inr ⟨e, .call o k x r w w₁ w' es' _ hx h1, rfl⟩

/-- An execution of a first part that returns, and one of the second part after it. -/
lemma seq {p : Prog Ret ε α} {f : α → Prog Ret ε β} {a : α} {es' : List (Event Ret)}
    {w₁ : S.World} {y : Except ε β} (h : S.Alone p w es (.ok a) w₁)
    (hf : S.Alone (f a) w₁ es' y w') : S.Alone (p >>= f) w (es ++ es') y w' := by
  induction p generalizing w es with
  | ret b =>
    cases h with
    | ret => exact hf
  | throw e => cases h
  | call o k ih =>
    cases h with
    | call _ _ x r _ w₂ _ es₁ _ hx hrest => exact .call o _ x r _ w₂ w' _ y hx (ih r hrest)

/-- An execution of a first part that throws ends the sequence. -/
lemma seq_error {p : Prog Ret ε α} {f : α → Prog Ret ε β} {e : ε}
    (h : S.Alone p w es (.error e) w') : S.Alone (p >>= f) w es (.error e) w' := by
  induction p generalizing w es with
  | ret b => cases h
  | throw e' =>
    cases h with
    | throw => exact .throw e _
  | call o k ih =>
    cases h with
    | call _ _ x r _ w₂ _ es₁ _ hx hrest => exact .call o _ x r _ w₂ w' _ _ hx (ih r hrest)

/-- **An execution of a handler** is one of its program, and one of the handler when that throws. -/
lemma tryCatch {p : Prog Ret ε α} {f : ε → Prog Ret ε α} {y : Except ε α}
    (h : S.Alone (MonadExcept.tryCatch p f) w es y w') :
    (∃ a, S.Alone p w es (.ok a) w' ∧ y = .ok a) ∨
      ∃ e es₁ es₂ w₁, S.Alone p w es₁ (.error e) w₁ ∧ S.Alone (f e) w₁ es₂ y w' ∧
        es = es₁ ++ es₂ := by
  induction p generalizing w es with
  | ret a =>
    cases h with
    | ret => exact .inl ⟨a, .ret a _, rfl⟩
  | throw e => exact .inr ⟨e, [], es, w, .throw e w, h, rfl⟩
  | call o k ih =>
    cases h with
    | call _ _ x r _ w₁ _ es' _ hx hrest =>
      rcases ih r hrest with ⟨a, h1, rfl⟩ | ⟨e, es₁, es₂, w₂, h1, h2, rfl⟩
      · exact .inl ⟨a, .call o k x r w w₁ w' es' _ hx h1, rfl⟩
      · exact .inr ⟨e, ⟨o, r⟩ :: es₁, es₂, w₂, .call o k x r w w₁ w₂ es₁ _ hx h1, h2, rfl⟩

/-- A program that returns needs no handler. -/
lemma tryCatch_ok {p : Prog Ret ε α} {f : ε → Prog Ret ε α} {a : α}
    (h : S.Alone p w es (.ok a) w') :
    S.Alone (MonadExcept.tryCatch p f) w es (.ok a) w' := by
  induction p generalizing w es with
  | ret b => exact h
  | throw e => cases h
  | call o k ih =>
    cases h with
    | call _ _ x r _ w₂ _ es₁ _ hx hrest => exact .call o _ x r _ w₂ w' _ _ hx (ih r hrest)

/-- An execution of a program that throws, and one of its handler. -/
lemma tryCatch_error {p : Prog Ret ε α} {f : ε → Prog Ret ε α} {e : ε} {y : Except ε α}
    {es' : List (Event Ret)} {w₁ : S.World} (h : S.Alone p w es (.error e) w₁)
    (hf : S.Alone (f e) w₁ es' y w') : S.Alone (MonadExcept.tryCatch p f) w (es ++ es') y w' := by
  induction p generalizing w es with
  | ret b => cases h
  | throw e' =>
    cases h with
    | throw => exact hf
  | call o k ih =>
    cases h with
    | call _ _ x r _ w₂ _ es₁ _ hx hrest => exact .call o _ x r _ w₂ w' _ y hx (ih r hrest)

/-- A value is returned at once. -/
lemma of_ret {a : α} {y : Except ε α} (h : S.Alone (.ret a) w es y w') :
    es = [] ∧ y = .ok a ∧ w' = w := by
  cases h with
  | ret => exact ⟨rfl, rfl, rfl⟩

/-- An exception is thrown at once. -/
lemma of_throw {e : ε} {y : Except ε α} (h : S.Alone (.throw e) w es y w') :
    es = [] ∧ y = .error e ∧ w' = w := by
  cases h with
  | throw => exact ⟨rfl, rfl, rfl⟩

/-- One call. -/
lemma perform {o : Op} {y : Except ε (Ret o)} (h : S.Alone (Prog.perform o) w es y w') :
    ∃ x r, S.exec o x w = some (r, w') ∧ es = [⟨o, r⟩] ∧ y = .ok r := by
  cases h with
  | call _ _ x r _ w₁ _ es' _ hx hrest =>
    cases hrest with
    | ret => exact ⟨x, r, hx, rfl, rfl⟩

/-- A call that is made. -/
lemma of_exec {o : Op} {x : S.Oracle} {r : Ret o} (h : S.exec o x w = some (r, w')) :
    S.Alone (Prog.perform o) w [⟨o, r⟩] (.ok r) w' :=
  .call o _ x r w w' w' [] _ h (.ret r w')

/-- A settled promise makes no call. -/
lemma settle {φ : Type} {wrap : φ → ε} {x : Except φ α} {y : Except ε α}
    (h : S.Alone (Prog.settle wrap x) w es y w') :
    es = [] ∧ w' = w ∧
      ((∃ a, x = .ok a ∧ y = .ok a) ∨ ∃ e, x = .error e ∧ y = .error (wrap e)) := by
  cases x with
  | ok a =>
    cases h with
    | ret => exact ⟨rfl, rfl, .inl ⟨a, rfl, rfl⟩⟩
  | error e =>
    cases h with
    | throw => exact ⟨rfl, rfl, .inr ⟨e, rfl, rfl⟩⟩

/-- A check makes no call. -/
lemma throwIf {c : Prop} [Decidable c] {e : ε} {y : Except ε Unit}
    (h : S.Alone (Prog.throwIf c e) w es y w') :
    es = [] ∧ w' = w ∧ (c ∧ y = .error e ∨ ¬c ∧ y = .ok ()) := by
  unfold Prog.throwIf at h
  split_ifs at h with hc
  · cases h with
    | throw => exact ⟨rfl, rfl, .inl ⟨hc, rfl⟩⟩
  · cases h with
    | ret => exact ⟨rfl, rfl, .inr ⟨hc, rfl⟩⟩

/-! ## Program facts -/

/-- The calls of an execution lead to its outcome. -/
lemma path {p : Prog Ret ε α} {y : Except ε α} (h : S.Alone p w es y w') :
    (∀ a, y = .ok a → Prog.Path p es (.ret a)) ∧ ∀ e, y = .error e → Prog.Path p es (.throw e) := by
  induction h with
  | ret a w =>
    refine ⟨fun b hb => ?_, nofun⟩
    obtain rfl := Except.ok.inj hb
    exact .done _
  | throw e w =>
    refine ⟨nofun, fun e' he => ?_⟩
    obtain rfl := Except.error.inj he
    exact .done _
  | call o k x r w w₁ w' es y hx hrest ih =>
    exact ⟨fun a ha => .step o k r es _ (ih.1 a ha), fun e he => .step o k r es _ (ih.2 e he)⟩

/-- **An execution of a sequence whose first calls lead the first part to a value** is one of the
first part with these calls, and one of the second part after it. -/
lemma bind_of_path {p : Prog Ret ε α} {f : α → Prog Ret ε β} {y : Except ε β} {a : α}
    {q : List (Event Ret)} (h : S.Alone (p >>= f) w es y w') (hp : Prog.Path p q (.ret a))
    (hq : q <+: es) :
    ∃ es₂ w₁, S.Alone p w q (.ok a) w₁ ∧ S.Alone (f a) w₁ es₂ y w' ∧ es = q ++ es₂ := by
  obtain ⟨rest, hrest⟩ := hq
  rcases h.bind with ⟨b, es₁, es₂, w₁, h1, h2, rfl⟩ | ⟨e, h1, rfl⟩
  · have hpath := h1.path.1 b rfl
    obtain rfl : q = es₁ := hp.complete_unique hpath hrest
    obtain rfl : a = b := Prog.ret.inj (hp.functional hpath)
    exact ⟨es₂, w₁, h1, h2, rfl⟩
  · have hpath := h1.path.2 e rfl
    rw [← hrest] at hpath
    cases (hp.not_beyond hpath).2

/-- **What holds of the outcome of a program holds of its executions.** -/
lemma wp {pre : List (Event Ret) → Op → Prop} {post : List (Event Ret) → Except ε α → Prop}
    {p : Prog Ret ε α} {y : Except ε α} (h : S.Alone p w es y w') :
    ∀ {past : List (Event Ret)}, Prog.wp pre post past p → post (past ++ es) y := by
  induction h with
  | ret a w => exact fun hp => by simpa using hp
  | throw e w => exact fun hp => by simpa using hp
  | call o k x r w w₁ w' es y hx hrest ih => exact fun hp => by simpa using ih (hp.2 r)

/-- **What every call keeps, an execution keeps.** -/
lemma frame {C : Op → Prop} {K : S.World → S.World → Prop} (hrefl : ∀ w, K w w)
    (htrans : ∀ {w₁ w₂ w₃}, K w₁ w₂ → K w₂ w₃ → K w₁ w₃)
    (hcall : ∀ o x w r w₁, C o → S.exec o x w = some (r, w₁) → K w w₁) {p : Prog Ret ε α}
    {y : Except ε α} (h : S.Alone p w es y w') (hp : p.OnlyCalls C) : K w w' := by
  induction h with
  | ret a w => exact hrefl w
  | throw e w => exact hrefl w
  | call o k x r w w₁ w' es y hx hrest ih =>
    exact htrans (hcall o x w r w₁ hp.1 hx) (ih (hp.2 r))

/-- **An execution in another world**: where the calls of a program are answered as in the world
that corresponds, it has the same execution. -/
lemma map {C : Op → Prop} {g : S.World → S.World}
    (hcall : ∀ o x w r w₁, C o → S.exec o x w = some (r, w₁) → S.exec o x (g w) = some (r, g w₁))
    {p : Prog Ret ε α} {y : Except ε α} (h : S.Alone p w es y w') (hp : p.OnlyCalls C) :
    S.Alone p (g w) es y (g w') := by
  induction h with
  | ret a w => exact .ret a _
  | throw e w => exact .throw e _
  | call o k x r w w₁ w' es y hx hrest ih =>
    exact .call o k x r _ (g w₁) _ es y (hcall o x w r w₁ hp.1 hx) (ih (hp.2 r))

/-- **Calls that leave the world as it is**: an execution leaves it, and all its answers are given
in it. -/
lemma reads {C : Op → Prop} (hC : ∀ o x w r w₁, C o → S.exec o x w = some (r, w₁) → w₁ = w)
    {p : Prog Ret ε α} {y : Except ε α} (h : S.Alone p w es y w') (hp : p.OnlyCalls C) :
    w' = w ∧ ∀ e ∈ es, ∃ x, S.exec e.op x w = some (e.res, w) := by
  induction h with
  | ret a w => exact ⟨rfl, by simp⟩
  | throw e w => exact ⟨rfl, by simp⟩
  | call o k x r w w₁ w' es y hx hrest ih =>
    obtain rfl := hC o x w r w₁ hp.1 hx
    obtain ⟨rfl, hall⟩ := ih (hp.2 r)
    refine ⟨rfl, fun e he => ?_⟩
    rcases List.mem_cons.mp he with rfl | he
    · exact ⟨x, hx⟩
    · exact hall e he

end Alone

/-! ## Evaluation -/

/-- The execution of a program for given choices of the outside, one for each call. -/
def evalAlone : Prog Ret ε α → List S.Oracle → S.World →
    Option (List (Event Ret) × Except ε α × S.World)
  | .ret a, _, w => some ([], .ok a, w)
  | .throw e, _, w => some ([], .error e, w)
  | .call _ _, [], _ => none
  | .call o k, x :: xs, w => do
    let (r, w₁) ← S.exec o x w
    let (es, y, w') ← evalAlone (k r) xs w₁
    return (⟨o, r⟩ :: es, y, w')

/-- What is evaluated is an execution. -/
lemma alone_of_evalAlone {p : Prog Ret ε α} {xs : List S.Oracle} {w w' : S.World}
    {es : List (Event Ret)} {y : Except ε α} (h : S.evalAlone p xs w = some (es, y, w')) :
    S.Alone p w es y w' := by
  induction p generalizing xs w es with
  | ret a =>
    obtain ⟨rfl, rfl, rfl⟩ : [] = es ∧ .ok a = y ∧ w = w' := by simpa [evalAlone] using h
    exact .ret a _
  | throw e =>
    obtain ⟨rfl, rfl, rfl⟩ : [] = es ∧ .error e = y ∧ w = w' := by simpa [evalAlone] using h
    exact .throw e _
  | call o k ih =>
    cases xs with
    | nil => cases h
    | cons x xs =>
      simp only [evalAlone, Option.bind_eq_bind, Option.bind_eq_some_iff] at h
      obtain ⟨⟨r, w₁⟩, hx, ⟨es', y', w₂⟩, hrest, h⟩ := h
      obtain ⟨rfl, rfl, rfl⟩ : ⟨o, r⟩ :: es' = es ∧ y' = y ∧ w₂ = w' := by simpa using h
      exact .call o k x r _ w₁ _ es' _ hx (ih r hrest)

end Sys

end Async
