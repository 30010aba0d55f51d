import Fapi2As.Keys.Store

set_option relaxedAutoImplicit false
set_option autoImplicit false

/-!
# What the keystores do

The specification of the operations of a keystore: why each call is made, given the calls before it
in the same operation, and what each call does to the table and to a keystore.

## Main definitions

* `Fapi2As.InitRuns` — an initialisation is being run; `Fapi2As.Activated` — it has set the active
  key; `Fapi2As.HasLoaded` — it has loaded the keys.
* `Fapi2As.KeyJustified`, `Fapi2As.KeyAnswered` — the guarantees of the operations.

## Main results

* `Fapi2As.keyHandler_spec` — all operations keep them.
-/

namespace Fapi2As

open Js Async

/-- A call of a keystore, with its answer. -/
abbrev KeyEvent := Async.Event KeyRet

/-! ## Facts about the calls made -/

/-- The operation runs the initialisation `n` of a keystore: it has started it, and not settled it.
-/
def InitRuns (i n : ℕ) (past : List KeyEvent) : Prop :=
  ⟨.ensure i, (n, true)⟩ ∈ past ∧ ∀ r, ⟨.settle i n r, ()⟩ ∉ past

/-- The operation has set the active key of a keystore. -/
def Activated (i : ℕ) (past : List KeyEvent) : Prop :=
  (∃ rec, ⟨.adopt i rec, ()⟩ ∈ past) ∨ ∃ recs active, ⟨.load i recs (some active), ()⟩ ∈ past

/-- The operation has swapped in the keys that it has listed. -/
def HasLoaded (i : ℕ) (past : List KeyEvent) : Prop :=
  ∃ recs active, ⟨.load i recs active, ()⟩ ∈ past

/-- A call failed, for another reason than a race. -/
inductive KeyFails (e : KeyFault) : KeyEvent → Prop
  | list : KeyFails e ⟨.list, .error e⟩
  | insert (rec : KeyRow) (h : e ≠ .uniqueViolation) : KeyFails e ⟨.insert rec, .error e⟩
  | setStatus (kid : String) (status : KeyStatus) (t : Option ℕ) :
      KeyFails e ⟨.setStatus kid status t, .error e⟩
  | importPrivate (rec : KeyRow) : KeyFails e ⟨.importPrivate rec, .error e⟩

/-- An insertion lost the race, and then no winner was found. -/
def NoWinner (past : List KeyEvent) : Prop :=
  ∃ before rec recs, before ++ [⟨.insert rec, .error .uniqueViolation⟩, ⟨.list, .ok recs⟩] <+:
    past ∧ ∀ r ∈ recs, r.status ≠ .active

/-- Why an operation is rejected. -/
def KeyRejected (e : KeyFault) (past : List KeyEvent) : Prop :=
  (∃ ev ∈ past, KeyFails e ev) ∨ e = .uniqueViolation ∧ NoWinner past

/-- The key was listed as active, and another active key of the list is newer. -/
def ListedStale (kid : String) (past : List KeyEvent) : Prop :=
  ∃ listed, ⟨.list, .ok listed⟩ ∈ past ∧ ∃ r ∈ (activesOf listed).dropLast, r.kid = kid

/-- A request rotates the key of a keystore. -/
def KeyReq.Rotates (i : ℕ) : KeyReq → Prop
  | .rotate j | .rotateKeys j => j = i
  | _ => False

/-- **Why a call is made.** -/
def KeyJustified (req : KeyReq) (past : List KeyEvent) : KeyCall → Prop
  | .ensure _ => past = []
  | .settle i n r => InitRuns i n past ∧ (r = .ok () ↔ Activated i past) ∧
      (∀ e, r = .error e → KeyRejected e past) ∧ (r = .ok () → HasLoaded i past)
  | .insert rec => ∃ before key, past = before ++ [⟨.generate, key⟩] ∧ rec = key.record
  | .setStatus kid status retiredAt => status = .retired ∧ ∃ t, retiredAt = some t ∧
      ((∃ i, ⟨.retireActive i, some (kid, t)⟩ ∈ past) ∨ ListedStale kid past)
  | .load i recs active => ∃ n listed stale, InitRuns i n past ∧ ¬Activated i past ∧
      ⟨.list, .ok listed⟩ ∈ past ∧ recs = withRetired stale listed ∧
      active = (activesOf listed).getLast? ∧
      ∀ e ∈ stale, ∃ r ∈ (activesOf listed).dropLast, r.kid = e.1
  | .retireActive i => req.Rotates i
  | .adopt i rec => rec.status = .active ∧
      (⟨.insert rec, .ok ()⟩ ∈ past ∨ ∃ listed, ⟨.list, .ok listed⟩ ∈ past ∧ rec ∈ listed) ∧
      ((∃ n, InitRuns i n past) ∨ ∃ previous, ⟨.retireActive i, previous⟩ ∈ past)
  | _ => True

/-- **What an outcome shows.** -/
def KeyAnswered (req : KeyReq) (past : List KeyEvent) (x : Except KeyFault (List String)) : Prop :=
  match req with
  | .ensure i => ∃ n, ⟨.settle i n (x.map fun _ => ()), ()⟩ ∈ past ∨
      ⟨.join i n, x.map fun _ => ()⟩ ∈ past
  | .signJwt i => ∀ kids, x = .ok kids → ∃ kid, kids = [kid] ∧ ⟨.mustActive i, .ok kid⟩ ∈ past
  | _ => True

/-! ### Monotonicity -/

variable {i n : ℕ} {e : KeyFault} {past q : List KeyEvent} {req : KeyReq}

lemma Activated.mono (h : Activated i past) (hq : past <+: q) : Activated i q :=
  h.imp (fun ⟨rec, h⟩ => ⟨rec, hq.subset h⟩) fun ⟨recs, a, h⟩ => ⟨recs, a, hq.subset h⟩

lemma HasLoaded.mono (h : HasLoaded i past) (hq : past <+: q) : HasLoaded i q := by
  obtain ⟨recs, active, h⟩ := h
  exact ⟨recs, active, hq.subset h⟩

lemma ListedStale.mono {kid : String} (h : ListedStale kid past) (hq : past <+: q) :
    ListedStale kid q := by
  obtain ⟨listed, hl, h⟩ := h
  exact ⟨listed, hq.subset hl, h⟩

/-- The calls between the start and the end of an initialisation, but for those that set the active
key. -/
def KeyCall.isWork : KeyCall → Bool
  | .list | .insert _ | .setStatus _ _ _ | .importPrivate _ | .generate | .now => true
  | _ => false

/-- The operation has gone on by such calls only. -/
def WorkedOn (past q : List KeyEvent) : Prop :=
  ∃ added, q = past ++ added ∧ ∀ ev ∈ added, ev.op.isWork = true

lemma WorkedOn.refl (past : List KeyEvent) : WorkedOn past past := ⟨[], by simp⟩

lemma WorkedOn.trans {q' : List KeyEvent} (h : WorkedOn past q) (h' : WorkedOn q q') :
    WorkedOn past q' := by
  obtain ⟨added, rfl, ha⟩ := h
  obtain ⟨added', rfl, ha'⟩ := h'
  refine ⟨added ++ added', by simp, fun ev hev => ?_⟩
  exact (List.mem_append.mp hev).elim (ha ev) (ha' ev)

lemma WorkedOn.prefix_ (h : WorkedOn past q) : past <+: q := by
  obtain ⟨added, rfl, -⟩ := h
  exact List.prefix_append _ _

lemma WorkedOn.snoc {o : KeyCall} (r : KeyRet o) (ho : o.isWork = true) :
    WorkedOn past (past ++ [⟨o, r⟩]) :=
  ⟨[⟨o, r⟩], rfl, fun ev hev => by rw [List.mem_singleton.mp hev]; exact ho⟩

/-- Such calls do not end the initialisation. -/
lemma WorkedOn.initRuns (h : WorkedOn past q) (hi : InitRuns i n past) : InitRuns i n q := by
  obtain ⟨added, rfl, ha⟩ := h
  refine ⟨List.mem_append_left _ hi.1, fun r hr => ?_⟩
  rcases List.mem_append.mp hr with hr | hr
  · exact hi.2 r hr
  · cases ha _ hr

/-- A call that does not end the initialisation. -/
lemma InitRuns.snoc {ev : KeyEvent} (hi : InitRuns i n past) (h : ∀ r, ev ≠ ⟨.settle i n r, ()⟩) :
    InitRuns i n (past ++ [ev]) := by
  refine ⟨List.mem_append_left _ hi.1, fun r hr => ?_⟩
  rcases List.mem_append.mp hr with hr | hr
  · exact hi.2 r hr
  · exact h r (List.mem_singleton.mp hr).symm

/-- An active key that is set after a call was set before it, or is set by it. -/
lemma Activated.of_snoc {ev : KeyEvent} (h : Activated i (past ++ [ev])) : Activated i past ∨
    (∃ rec, ev = ⟨.adopt i rec, ()⟩) ∨ ∃ recs active, ev = ⟨.load i recs (some active), ()⟩ := by
  rcases h with ⟨rec, h⟩ | ⟨recs, a, h⟩ <;> rcases List.mem_append.mp h with h | h
  · exact .inl (.inl ⟨rec, h⟩)
  · exact .inr (.inl ⟨rec, (List.mem_singleton.mp h).symm⟩)
  · exact .inl (.inr ⟨recs, a, h⟩)
  · exact .inr (.inr ⟨recs, a, (List.mem_singleton.mp h).symm⟩)

/-- An initialisation that is run after a call was run before it, or is started by it. -/
lemma InitRuns.of_snoc {ev : KeyEvent} (h : InitRuns i n (past ++ [ev])) :
    InitRuns i n past ∨ ev = ⟨.ensure i, (n, true)⟩ := by
  rcases List.mem_append.mp h.1 with hmem | hmem
  · exact .inl ⟨hmem, fun r hr => h.2 r (List.mem_append_left _ hr)⟩
  · exact .inr (List.mem_singleton.mp hmem).symm

/-- Such calls do not set the active key. -/
lemma WorkedOn.activated (h : WorkedOn past q) (hq : Activated i q) : Activated i past := by
  obtain ⟨added, rfl, ha⟩ := h
  rcases hq with ⟨rec, hr⟩ | ⟨recs, a, hr⟩
  · rcases List.mem_append.mp hr with hr | hr
    · exact .inl ⟨rec, hr⟩
    · cases ha _ hr
  · rcases List.mem_append.mp hr with hr | hr
    · exact .inr ⟨recs, a, hr⟩
    · cases ha _ hr

/-! ## The operations -/

section

variable {α β : Type} {pre : List KeyEvent → KeyCall → Prop}

lemma wp_keyAwaited {x : Except KeyFault α} {post : List KeyEvent → Except KeyFault α → Prop} :
    Prog.wp pre post past (keyAwaited x) ↔ post past x := by
  cases x <;> exact Iff.rfl

/-- A caught program hands its outcome on as a value. -/
lemma wp_settled {p : KeyProg α}
    {post : List KeyEvent → Except KeyFault (Except KeyFault α) → Prop} :
    Prog.wp pre post past (settled p) ↔ Prog.wp pre (fun q x => post q (.ok x)) past p := by
  unfold settled
  rw [Prog.wp_tryCatch, Prog.wp_bind]
  refine ⟨Prog.wp_mono fun q x h => ?_, Prog.wp_mono fun q x h => ?_⟩ <;> cases x <;> exact h

end

/-- What the operations are allowed to call. -/
abbrev KeyPre (req : KeyReq) : List KeyEvent → KeyCall → Prop := KeyJustified req

lemma wp_importAll (records : List KeyRow) : Prog.wp (KeyPre req)
    (fun q x => WorkedOn past q ∧ ∀ e, x = .error e → KeyRejected e q) past
    (importAll records) := by
  induction records generalizing past with
  | nil => exact ⟨.refl _, fun e h => by cases h⟩
  | cons rec recs ih =>
    unfold importAll
    refine Prog.wp_bind.mpr ⟨trivial, fun r => ?_⟩
    refine Prog.wp_bind.mpr (wp_keyAwaited.mpr ?_)
    have hstep : WorkedOn past (past ++ [⟨.importPrivate rec, r⟩]) := .snoc r rfl
    cases r with
    | ok _ => exact Prog.wp_mono (fun q x h => ⟨hstep.trans h.1, h.2⟩) ih
    | error e =>
      refine ⟨hstep, fun e' he => ?_⟩
      obtain rfl := Except.error.inj he
      exact .inl ⟨_, List.mem_append_right _ List.mem_cons_self, .importPrivate rec⟩

/-- Retiring keys that were listed as stale. -/
lemma wp_retireAll {stales : List KeyRow} (h : ∀ r ∈ stales, ListedStale r.kid past) :
    Prog.wp (KeyPre req) (fun q x => WorkedOn past q ∧
      (∀ l, x = .ok l → ∀ e ∈ l, ∃ r ∈ stales, r.kid = e.1) ∧ ∀ e, x = .error e → KeyRejected e q)
      past (retireAll stales) := by
  induction stales generalizing past with
  | nil =>
    refine ⟨.refl _, fun l hl => ?_, fun e he => by cases he⟩
    obtain rfl := Except.ok.inj hl
    simp
  | cons stale recs ih =>
    have hstale := h stale List.mem_cons_self
    unfold retireAll
    refine Prog.wp_bind.mpr ⟨trivial, fun t => ?_⟩
    have hnow : WorkedOn past (past ++ [⟨.now, t⟩]) := .snoc t rfl
    refine Prog.wp_bind.mpr ⟨⟨rfl, t, rfl, .inr (hstale.mono hnow.prefix_)⟩, fun r => ?_⟩
    have hset := hnow.trans (.snoc (o := .setStatus stale.kid .retired (some t)) r rfl)
    refine Prog.wp_bind.mpr (wp_keyAwaited.mpr ?_)
    cases r with
    | error e =>
      refine ⟨hset, fun l hl => (by cases hl), fun e' he => ?_⟩
      obtain rfl := Except.error.inj he
      exact .inl ⟨_, List.mem_append_right _ List.mem_cons_self, .setStatus _ _ _⟩
    | ok _ =>
      refine Prog.wp_bind.mpr (Prog.wp_mono (fun q x hx => ?_)
        (ih fun r hr => (h r (List.mem_cons_of_mem _ hr)).mono hset.prefix_))
      obtain ⟨hwork, hok, herror⟩ := hx
      cases x with
      | error e => exact ⟨hset.trans hwork, fun l hl => (by cases hl), herror⟩
      | ok rest =>
        refine ⟨hset.trans hwork, fun l hl => ?_, fun e he => by cases he⟩
        obtain rfl := Except.ok.inj hl
        intro e he
        rcases List.mem_cons.mp he with rfl | he
        · exact ⟨stale, List.mem_cons_self, rfl⟩
        · obtain ⟨r, hr, hk⟩ := hok rest rfl e he
          exact ⟨r, List.mem_cons_of_mem _ hr, hk⟩

/-- How the introduction of a key ends: a key is adopted, or the operation is rejected. -/
inductive Introduced (i : ℕ) (past q : List KeyEvent) : Except KeyFault String → Prop
  | adopted (mid : List KeyEvent) (rec : KeyRow) (worked : WorkedOn past mid)
      (last : q = mid ++ [⟨.adopt i rec, ()⟩]) : Introduced i past q (.ok rec.kid)
  | rejected (e : KeyFault) (worked : WorkedOn past q) (why : KeyRejected e q) :
      Introduced i past q (.error e)

/-- **The introduction of a key**, by an initialisation or after the retirement of the old key. -/
lemma wp_introduceKey
    (h : (∃ n, InitRuns i n past) ∨ ∃ previous, ⟨.retireActive i, previous⟩ ∈ past) :
    Prog.wp (KeyPre req) (Introduced i past) past (introduceKey i) := by
  have hgoes : ∀ {q : List KeyEvent}, WorkedOn past q →
      (∃ n, InitRuns i n q) ∨ ∃ previous, ⟨.retireActive i, previous⟩ ∈ q := fun hq =>
    h.imp (fun ⟨n, hn⟩ => ⟨n, hq.initRuns hn⟩) fun ⟨prev, hp⟩ => ⟨prev, hq.prefix_.subset hp⟩
  unfold introduceKey
  refine Prog.wp_bind.mpr ⟨trivial, fun key => ?_⟩
  have hgen : WorkedOn past (past ++ [⟨.generate, key⟩]) := .snoc key rfl
  refine Prog.wp_bind.mpr ⟨⟨past, key, rfl, rfl⟩, fun inserted => ?_⟩
  have hins := hgen.trans (.snoc (o := .insert key.record) inserted rfl)
  cases inserted with
  | ok _ =>
    refine Prog.wp_bind.mpr ⟨⟨rfl, .inl (List.mem_append_right _ List.mem_cons_self), hgoes hins⟩,
      fun _ => ?_⟩
    exact .adopted _ key.record hins rfl
  | error e =>
    cases e with
    | failure => exact .rejected _ hins (.inl ⟨_, List.mem_append_right _ List.mem_cons_self,
        .insert _ (by simp)⟩)
    | notInitialised => exact .rejected _ hins (.inl ⟨_, List.mem_append_right _ List.mem_cons_self,
        .insert _ (by simp)⟩)
    | uniqueViolation =>
      refine Prog.wp_bind.mpr ⟨trivial, fun listed => ?_⟩
      have hlist := hins.trans (.snoc (o := .list) listed rfl)
      refine Prog.wp_bind.mpr (wp_keyAwaited.mpr ?_)
      cases listed with
      | error e =>
        exact .rejected _ hlist (.inl ⟨_, List.mem_append_right _ List.mem_cons_self, .list⟩)
      | ok records =>
        dsimp only [Prog.Next]
        split
        · rename_i hnone
          refine .rejected _ hlist (.inr ⟨rfl, past ++ [⟨.generate, key⟩], key.record, records, ?_,
            fun r hr => ?_⟩)
          · exact ⟨[], by simp⟩
          · simpa using List.find?_eq_none.mp hnone r hr
        · rename_i winner hwinner
          have hmem := List.mem_of_find?_eq_some hwinner
          have hactive : winner.status = .active := by simpa using List.find?_some hwinner
          refine Prog.wp_bind.mpr ⟨trivial, fun imported => ?_⟩
          have himport := hlist.trans (.snoc (o := .importPrivate winner) imported rfl)
          refine Prog.wp_bind.mpr (wp_keyAwaited.mpr ?_)
          cases imported with
          | error e =>
            exact .rejected _ himport
              (.inl ⟨_, List.mem_append_right _ List.mem_cons_self, .importPrivate _⟩)
          | ok _ =>
            refine Prog.wp_bind.mpr ⟨⟨hactive, .inr ⟨records, ?_, hmem⟩, hgoes himport⟩,
              fun _ => ?_⟩
            · exact List.mem_append_left _ (List.mem_append_right _ List.mem_cons_self)
            · exact .adopted _ winner himport rfl

/-- **An initialisation**, run by the operation that has started it and has set no key. -/
lemma wp_init {n : ℕ} (hrun : InitRuns i n past) (hnew : ¬Activated i past) :
    Prog.wp (KeyPre req) (fun q x => past <+: q ∧ InitRuns i n q ∧ (x = .ok () ↔ Activated i q) ∧
      (∀ e, x = .error e → KeyRejected e q) ∧ (x = .ok () → HasLoaded i q)) past (init i) := by
  have hfails : ∀ {q : List KeyEvent} {e : KeyFault}, WorkedOn past q →
      ((.error e : Except KeyFault Unit) = .ok () ↔ Activated i q) := fun hq =>
    iff_of_false (by simp) fun h => hnew (hq.activated h)
  unfold init
  refine Prog.wp_bind.mpr ⟨trivial, fun listed => ?_⟩
  have hlist : WorkedOn past (past ++ [⟨.list, listed⟩]) := .snoc listed rfl
  refine Prog.wp_bind.mpr (wp_keyAwaited.mpr ?_)
  cases listed with
  | error e =>
    refine ⟨hlist.prefix_, hlist.initRuns hrun, hfails hlist, fun e' he => ?_, fun h => by cases h⟩
    obtain rfl := Except.error.inj he
    exact .inl ⟨_, List.mem_append_right _ List.mem_cons_self, .list⟩
  | ok records =>
    refine Prog.wp_bind.mpr (Prog.wp_mono (fun q x hx => ?_) (wp_importAll records))
    have himport := hlist.trans hx.1
    cases x with
    | error e =>
      exact ⟨himport.prefix_, himport.initRuns hrun, hfails himport, fun e' he => hx.2 e' he,
        fun h => by cases h⟩
    | ok _ =>
      have hlisted : ∀ r ∈ (activesOf records).dropLast, ListedStale r.kid q := fun r hr =>
        ⟨records, hx.1.prefix_.subset (List.mem_append_right _ List.mem_cons_self), r, hr, rfl⟩
      refine Prog.wp_bind.mpr (Prog.wp_mono (fun q' x' hx' => ?_) (wp_retireAll hlisted))
      obtain ⟨hwork, hstale, herror⟩ := hx'
      have hall := himport.trans hwork
      cases x' with
      | error e => exact ⟨hall.prefix_, hall.initRuns hrun, hfails hall,
        fun e' he => herror e' (by rw [Except.error.inj he]), fun h => by cases h⟩
      | ok stale =>
        have hmem :=
          (hx.1.trans hwork).prefix_.subset (List.mem_append_right past List.mem_cons_self)
        refine Prog.wp_bind.mpr
          ⟨⟨n, records, stale, hall.initRuns hrun, fun h => hnew (hall.activated h),
          hmem, rfl, rfl, hstale stale rfl⟩, fun _ => ?_⟩
        have hloads : InitRuns i n (q' ++ [⟨.load i (withRetired stale records)
            (activesOf records).getLast?, ()⟩]) := (hall.initRuns hrun).snoc fun r h => by cases h
        have hpre : past <+: q' ++ [⟨.load i (withRetired stale records)
            (activesOf records).getLast?, ()⟩] := hall.prefix_.trans (List.prefix_append _ _)
        have hloaded : HasLoaded i (q' ++ [⟨.load i (withRetired stale records)
            (activesOf records).getLast?, ()⟩]) :=
          ⟨_, _, List.mem_append_right _ List.mem_cons_self⟩
        cases hactive : (activesOf records).getLast? with
        | some active =>
          rw [hactive] at hloads hpre hloaded
          refine ⟨hpre, hloads, iff_of_true rfl (.inr ⟨withRetired stale records, active, ?_⟩),
            fun e he => (by cases he), fun _ => hloaded⟩
          exact List.mem_append_right _ List.mem_cons_self
        | none =>
          rw [hactive] at hloads hpre hloaded
          refine Prog.wp_bind.mpr (Prog.wp_mono (fun q₂ x₂ hx₂ => ?_)
            (wp_introduceKey (.inl ⟨n, hloads⟩)))
          cases hx₂ with
          | adopted mid rec worked last =>
            subst last
            refine ⟨hpre.trans (worked.prefix_.trans (List.prefix_append _ _)),
              (worked.initRuns hloads).snoc fun r h => (by cases h),
                iff_of_true rfl (.inl ⟨rec, ?_⟩), fun e he => (by cases he), fun _ => hloaded.mono
                  (worked.prefix_.trans (List.prefix_append _ _))⟩
            exact List.mem_append_right _ List.mem_cons_self
          | rejected e worked why =>
            refine ⟨hpre.trans worked.prefix_, worked.initRuns hloads,
              iff_of_false (by simp) fun h => ?_, fun e' he => ?_, fun h => by cases h⟩
            · rcases (worked.activated h).of_snoc with h | ⟨rec, h⟩ | ⟨recs, a, h⟩
              · exact hnew (hall.activated h)
              · cases h
              · cases h
            · obtain rfl := Except.error.inj he
              exact why

/-- **`ensure()`**, as the first thing that an operation does. -/
lemma wp_ensure :
    Prog.wp (KeyPre req) (fun q x => ∃ n, ⟨.settle i n x, ()⟩ ∈ q ∨ ⟨.join i n, x⟩ ∈ q)
    [] (ensure i) := by
  unfold ensure
  refine Prog.wp_bind.mpr ⟨rfl, fun answer => ?_⟩
  obtain ⟨n, started⟩ := answer
  cases started with
  | true =>
    have hrun : InitRuns i n ([] ++ [⟨.ensure i, (n, true)⟩]) := by
      refine ⟨by simp, fun r hr => ?_⟩
      cases List.mem_singleton.mp hr
    have hnew : ¬Activated i ([] ++ [⟨.ensure i, (n, true)⟩]) := by
      rintro (⟨rec, h⟩ | ⟨recs, a, h⟩) <;> cases List.mem_singleton.mp h
    refine Prog.wp_bind.mpr (wp_settled.mpr (Prog.wp_mono (fun q x hx => ?_) (wp_init hrun hnew)))
    obtain ⟨-, hruns, hok, herror, hloaded⟩ := hx
    refine Prog.wp_bind.mpr ⟨⟨hruns, hok, herror, hloaded⟩, fun _ => wp_keyAwaited.mpr ⟨n, .inl ?_⟩⟩
    exact List.mem_append_right _ List.mem_cons_self
  | false =>
    refine Prog.wp_bind.mpr ⟨trivial, fun r => wp_keyAwaited.mpr ⟨n, .inr ?_⟩⟩
    exact List.mem_append_right _ List.mem_cons_self

/-- **`rotate()`**, by a request that rotates. -/
lemma wp_rotate (hreq : req.Rotates i) :
    Prog.wp (KeyPre req) (fun _ _ => True) past (rotate i) := by
  unfold rotate
  refine Prog.wp_bind.mpr ⟨hreq, fun previous => ?_⟩
  have hmem : (⟨.retireActive i, previous⟩ : KeyEvent) ∈ past ++ [⟨.retireActive i, previous⟩] :=
    List.mem_append_right _ List.mem_cons_self
  cases previous with
  | some previous =>
    obtain ⟨kid, t⟩ := previous
    refine Prog.wp_bind.mpr ⟨⟨rfl, t, rfl, .inl ⟨i, hmem⟩⟩, fun r => ?_⟩
    refine Prog.wp_bind.mpr (wp_keyAwaited.mpr ?_)
    cases r with
    | error e => trivial
    | ok _ =>
      exact Prog.wp_mono (fun _ _ _ => trivial)
        (wp_introduceKey (.inr ⟨_, List.mem_append_left _ hmem⟩))
  | none =>
    exact Prog.wp_mono (fun _ _ _ => trivial) (wp_introduceKey (.inr ⟨_, hmem⟩))

/-- **The guarantees of all operations.** -/
theorem keyHandler_spec (req : KeyReq) :
    Prog.wp (KeyJustified req) (KeyAnswered req) [] (keyHandler req) := by
  have hactive : ∀ {i : ℕ} {past : List KeyEvent}, Prog.wp (KeyJustified req)
      (fun q x => ∀ kid, x = .ok kid → ⟨.mustActive i, .ok kid⟩ ∈ q) past (activeKid i) := by
    intro i past
    unfold activeKid
    refine Prog.wp_bind.mpr ⟨trivial, fun r => wp_keyAwaited.mpr fun kid hk => ?_⟩
    subst hk
    exact List.mem_append_right _ List.mem_cons_self
  cases req with
  | ensure i =>
    refine Prog.wp_bind.mpr (Prog.wp_mono (fun q x hx => ?_) wp_ensure)
    cases x <;> exact hx
  | rotate i =>
    exact Prog.wp_bind.mpr (Prog.wp_mono (fun q x hx => by cases x <;> trivial) (wp_rotate rfl))
  | signJwt i =>
    refine Prog.wp_bind.mpr (Prog.wp_mono (fun q x hx => ?_) hactive)
    cases x with
    | error e => exact fun kids h => by cases h
    | ok kid => exact fun kids h => ⟨kid, (Except.ok.inj h).symm, hx kid rfl⟩
  | rotateKeys i =>
    have hrotate : Prog.wp (KeyJustified (.rotateKeys i)) (fun _ _ => True) [] (rotateKeys i) := by
      unfold rotateKeys
      refine Prog.wp_bind.mpr (Prog.wp_mono (fun q x _ => ?_) wp_ensure)
      cases x with
      | error e => trivial
      | ok _ =>
        refine Prog.wp_bind.mpr (Prog.wp_mono (fun q x _ => ?_) hactive)
        cases x with
        | error e => trivial
        | ok oldKid =>
          exact Prog.wp_bind.mpr
            (Prog.wp_mono (fun q x _ => by cases x <;> trivial) (wp_rotate rfl))
    exact Prog.wp_bind.mpr (Prog.wp_mono (fun q x _ => by cases x <;> trivial) hrotate)

end Fapi2As
