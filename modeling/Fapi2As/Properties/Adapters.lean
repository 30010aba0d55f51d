import Fapi2As.Db.Effects

set_option relaxedAutoImplicit false
set_option autoImplicit false

/-!
# The two storage adapters agree

A sequence of repository calls is answered alike by the in-memory and by the PostgreSQL adapter,
whatever the database reaps in between. The adapters do not hold the same rows: each removes expired
replay entries and interactions at its own moments. What they agree on is the rows that have not
expired, and no call answers with any other.

## Main definitions

* `Fapi2As.living` — the row of a key, unless it is dead.
* `Fapi2As.RepoCall`, `Fapi2As.Backend.results`, `Fapi2As.Backend.after` — calls with what the
  database reaps in them, what a sequence of them resolves to, and the tables after it.
* `Fapi2As.Admissible` — the sequences that keep the rules of the schema: texts without U+0000,
  fresh primary keys, foreign keys with their row, instants in order.
* `Fapi2As.Storable` — grant ids that are UUIDs and dates that are `timestamptz`.
* `Fapi2As.Related` — the relation that the calls of a sequence keep between the tables.

## Main results

* `Fapi2As.Related.step` — a call answers alike on related tables, and leaves related tables.
* `Fapi2As.adapters_agree` — so does a sequence.
-/

namespace Fapi2As

open Js

/-! ## Rows up to dead ones -/

section Living

variable {κ ρ : Type} [DecidableEq κ] {dead : ρ → Bool} {rows rows' : Map κ ρ}

/-- The row of a key, unless it is dead. -/
def living (dead : ρ → Bool) (rows : Map κ ρ) (k : κ) : Option ρ :=
  (rows.get? k).filter fun v => !dead v

/-- A sweep keeps the living rows. -/
lemma Swept.living (h : Swept dead rows rows') (k : κ) :
    living dead rows' k = living dead rows k := by
  unfold Fapi2As.living
  rcases h.get? k with hk | ⟨hk, v, hv, hd⟩
  · rw [hk]
  · rw [hk, hv, Option.filter_some, hd]
    rfl

/-- Rows that agree on the living ones still do when more rows are dead. -/
lemma living_mono {dead' : ρ → Bool} (hdead : ∀ v, dead v = true → dead' v = true) {k : κ}
    (h : living dead rows k = living dead rows' k) :
    living dead' rows k = living dead' rows' k := by
  have hfilter : ∀ r : Map κ ρ, living dead' r k = (living dead r k).filter fun v => !dead' v := by
    intro r
    unfold living
    rw [Option.filter_filter]
    congr 1
    funext v
    cases hv : dead v with
    | false => simp
    | true => simp [hdead v hv]
  rw [hfilter, hfilter, h]

lemma living_set (k k' : κ) (v : ρ) :
    living dead (rows.set k v) k' =
      if k' = k then (some v).filter (fun v => !dead v) else living dead rows k' := by
  unfold living
  rw [Map.get?_set]
  split_ifs <;> rfl

/-- A change of a row that leaves the dead dead and the living alive changes the living row. -/
lemma living_map {f : ρ → ρ} {k : κ} (h : rows'.get? k = (rows.get? k).map f)
    (hf : ∀ v, dead (f v) = dead v) : living dead rows' k = (living dead rows k).map f := by
  unfold living
  rw [h]
  cases rows.get? k with
  | none => rfl
  | some v =>
    simp only [Option.map_some, Option.filter_some, hf]
    cases dead v <;> rfl

end Living

/-- An interaction has expired. -/
def InteractionRow.expired (t : ℕ) (row : InteractionRow) : Bool := row.record.expiresAt.isPast t

/-- A date that has passed has passed later. -/
lemma isPast_mono {d : Date} {t t' : ℕ} (h : t ≤ t') (hd : d.isPast t = true) :
    d.isPast t' = true := by
  cases d with
  | none => cases hd
  | some d =>
    simp only [Date.isPast, decide_eq_true_eq] at hd ⊢
    omega

/-! ## What a call answers, from the living rows -/

section Answers

variable {s : Store} {t : ℕ}

/-- The replay guard of the in-memory adapter, with room and without Invalid Dates, refuses exactly
the entries that live. -/
lemma Memory.jtiRegister_eq_true {c i : String} {e : Date} (hroom : s.jti.size < Memory.jtiCap)
    (hvalid : ∀ key, s.jti.get? key ≠ some none) :
    (Memory.jtiRegister s c i e t).1 = true ↔ living (Date.isPast · t) s.jti (c, i) = none := by
  obtain ⟨hswept, hsize⟩ := Memory.jtiSweep_swept s t
  rw [← hswept.living]
  unfold Memory.jtiRegister living
  dsimp only
  rw [if_neg (not_le.mpr (hsize.trans_lt hroom))]
  cases hrow : (Memory.jtiSweep s t).jti.get? (c, i) with
  | none => simp
  | some existing =>
    cases existing with
    | none => exact absurd (hswept.sub _ _ hrow) (hvalid _)
    | some d =>
      simp only [Option.filter_some, Date.isPast, Date.isAfter]
      by_cases hd : (t : ℤ) < d
      · simp [hd, not_le.mpr hd]
      · simp [hd, not_lt.mp hd]

/-- The replay guard of the PostgreSQL adapter refuses exactly the entries that live. -/
lemma Pg.jtiRegister_eq_true {reap : List (String × String)} {c i : String} {e : Date} :
    (Pg.jtiRegister s reap c i e t).1 = true ↔ living (Date.isPast · t) s.jti (c, i) = none := by
  have hswept : Swept (Date.isPast · t) s.jti _ := .deleteLimit s.jti Pg.reapLimit reap
  rw [← hswept.living]
  unfold Pg.jtiRegister Sql.upsert living
  dsimp only
  cases (Sql.deleteLimit s.jti (Date.isPast · t) Pg.reapLimit reap).get? (c, i) with
  | none => simp
  | some existing => cases hd : existing.isPast t <;> simp [hd, Option.filter_some]

/-- A search for an interaction finds it open and alive. -/
lemma Memory.interactionsFind_living {id : String} :
    Memory.interactionsFind s id t =
      (living (InteractionRow.expired t) s.interactions id).bind fun row =>
        if row.completedAt.isNone then some row.record else none := by
  unfold Memory.interactionsFind living InteractionRow.expired Memory.interactionLive
  cases s.interactions.get? id with
  | none => rfl
  | some row => cases hp : row.record.expiresAt.isPast t <;> simp [hp, Option.filter_some]

/-- So does its completion. -/
lemma Memory.interactionsComplete_living {id : String} :
    (Memory.interactionsComplete s id t).1 =
      (living (InteractionRow.expired t) s.interactions id).bind fun row =>
        if row.completedAt.isNone then some row.record else none := by
  unfold Memory.interactionsComplete living InteractionRow.expired Memory.interactionLive
  cases s.interactions.get? id with
  | none => rfl
  | some row =>
    cases hp : row.record.expiresAt.isPast t <;> cases hc : row.completedAt <;>
      simp [hp, hc, Option.filter_some]

/-- A completion marks its interaction, if that lives. -/
lemma Memory.get?_interactionsComplete {id : String} (k : String) :
    (Memory.interactionsComplete s id t).2.interactions.get? k =
      (s.interactions.get? k).map fun row =>
        if k = id ∧ Memory.interactionLive row t = true then { row with completedAt := some t }
        else row := by
  unfold Memory.interactionsComplete
  by_cases hk : k = id
  · subst hk
    cases hrow : s.interactions.get? k with
    | none => simp [hrow]
    | some row => cases hl : Memory.interactionLive row t <;> simp [hrow, hl]
  · cases hrow : s.interactions.get? id with
    | none => simp [hk]
    | some row => cases hl : Memory.interactionLive row t <;> simp [hl, hk, Map.get?_set]

lemma Memory.interactionsComplete_tables (s : Store) (id : String) (t : ℕ) :
    (Memory.interactionsComplete s id t).2 =
      { s with interactions := (Memory.interactionsComplete s id t).2.interactions } := by
  unfold Memory.interactionsComplete
  cases s.interactions.get? id with
  | none => rfl
  | some row => cases hl : Memory.interactionLive row t <;> simp [hl]

end Answers

/-! ## Related tables -/

/-- The instant of a call: its `now`, or the `createdAt` of an inserted interaction. -/
def Query.instant : Query → Option ℕ
  | .parPeek _ now | .parConsume _ now | .codesRedeem _ now | .jtiRegister _ _ _ now
  | .interactionsFind _ now | .interactionsComplete _ now => some now
  | .interactionsInsert rec => some rec.createdAt
  | _ => none

/-- The tables from which no adapter sweeps rows. -/
def Store.unswept (s : Store) : Map String ClientRecord × Map String ParRow ×
    Map String GrantRecord × Map String CodeRow × Map String AccessTokenRecord ×
    Map String RefreshTokenRecord :=
  (s.clients, s.par, s.grants, s.codes, s.accessTokens, s.refreshTokens)

/-- The tables of the in-memory adapter and of the database at an instant: they hold the same rows,
except that either may lack replay entries and interactions that the other holds and that have
expired. The in-memory adapter holds no replay entry with an Invalid Date. -/
structure Related (t : ℕ) (m p : Store) : Prop where
  unswept : m.unswept = p.unswept
  jti : ∀ key, living (Date.isPast · t) m.jti key = living (Date.isPast · t) p.jti key
  valid : ∀ key, m.jti.get? key ≠ some none
  interactions : ∀ id, living (InteractionRow.expired t) m.interactions id =
    living (InteractionRow.expired t) p.interactions id

/-- Related tables stay related as time passes. -/
lemma Related.mono {t t' : ℕ} {m p : Store} (h : Related t m p) (ht : t ≤ t') : Related t' m p where
  unswept := h.unswept
  jti key := living_mono (fun _ hd => isPast_mono ht hd) (h.jti key)
  valid := h.valid
  interactions id := living_mono (fun _ hd => isPast_mono ht hd) (h.interactions id)

section Step

variable {t : ℕ} {m p : Store} (h : Related t m p) (x : DbChoice)

include h

/-- **A registration** is answered alike. -/
lemma Related.jtiRegister {c i : String} {e : Date} (he : e ≠ none)
    (hroom : m.jti.size < Memory.jtiCap) :
    (Memory.jtiRegister m c i e t).1 = (Pg.jtiRegister p x.reapJti c i e t).1 ∧
      Related t (Memory.jtiRegister m c i e t).2 (Pg.jtiRegister p x.reapJti c i e t).2 := by
  have hfresh : (Memory.jtiRegister m c i e t).1 = (Pg.jtiRegister p x.reapJti c i e t).1 := by
    rw [Bool.eq_iff_iff, Memory.jtiRegister_eq_true hroom h.valid, Pg.jtiRegister_eq_true, h.jti]
  obtain ⟨rows, sweep, hm⟩ := Memory.jtiRegister_registered m c i e t
  obtain ⟨rows', sweep', hp⟩ := Pg.jtiRegister_registered p x.reapJti c i e t
  have hrows : ∀ key, living (Date.isPast · t) rows key = living (Date.isPast · t) rows' key := by
    intro key
    rw [hm.swept.living, hp.swept.living, h.jti]
  rw [hm.tables, hp.tables, ← hfresh]
  refine ⟨rfl, ⟨h.unswept, fun key => ?_, fun key => ?_, h.interactions⟩⟩
  · dsimp only
    split_ifs
    · rw [living_set, living_set, hrows]
    · exact hrows key
  · dsimp only
    split_ifs
    · rw [Map.get?_set]
      split_ifs
      · simpa using he
      · exact fun hk => h.valid key (hm.swept.sub _ _ hk)
    · exact fun hk => h.valid key (hm.swept.sub _ _ hk)

/-- **An interaction is inserted** alike. -/
lemma Related.interactionsInsert {rec : InteractionRecord} (ht : rec.createdAt = t) :
    Related t (Memory.interactionsInsert m rec)
      (Pg.interactionsInsert p x.reapInteractions rec) := by
  subst ht
  have hm : Swept (InteractionRow.expired rec.createdAt) m.interactions
      (if Memory.interactionsSweepThreshold ≤ m.interactions.size then
        m.interactions.filter fun _ row => !row.record.expiresAt.isPast rec.createdAt
      else m.interactions) := by
    split_ifs
    · exact .filter _ _ fun _ row hrow => by simpa [InteractionRow.expired] using hrow
    · exact .refl _ _
  have hp : Swept (InteractionRow.expired rec.createdAt) p.interactions
      (Sql.deleteLimit p.interactions (fun row => row.record.expiresAt.isPast rec.createdAt)
        Pg.reapLimit x.reapInteractions) := .deleteLimit _ _ _
  refine ⟨h.unswept, h.jti, h.valid, fun id => ?_⟩
  simp only [Memory.interactionsInsert, Pg.interactionsInsert, Sql.insert]
  rw [living_set, living_set, hm.living, hp.living, h.interactions]

/-- **The subject of an interaction is set** alike. -/
lemma Related.interactionsSetSubject (id subject : String) (authTime : Date)
    (acr amr : Option Json) :
    Related t
      { m with interactions :=
          m.interactions.modify id (Memory.withSubject subject authTime acr amr) }
      { p with interactions :=
          p.interactions.modify id (Memory.withSubject subject authTime acr amr) } := by
  refine ⟨h.unswept, h.jti, h.valid, fun k => ?_⟩
  have hf : ∀ row : InteractionRow, InteractionRow.expired t
      (if k = id then Memory.withSubject subject authTime acr amr row else row) =
        row.expired t := by
    intro row
    unfold Memory.withSubject InteractionRow.expired
    split_ifs <;> rfl
  dsimp only
  rw [living_map (Map.get?_modify m.interactions id k _) hf,
    living_map (Map.get?_modify p.interactions id k _) hf, h.interactions]

/-- **An interaction is completed** alike. -/
lemma Related.interactionsComplete (id : String) :
    (Memory.interactionsComplete m id t).1 = (Memory.interactionsComplete p id t).1 ∧
      Related t (Memory.interactionsComplete m id t).2 (Memory.interactionsComplete p id t).2 := by
  have hm := Memory.interactionsComplete_tables m id t
  have hp := Memory.interactionsComplete_tables p id t
  refine ⟨?_, ?_, fun key => ?_, ?_, fun k => ?_⟩
  · rw [Memory.interactionsComplete_living, Memory.interactionsComplete_living, h.interactions]
  · rw [hm, hp]
    exact h.unswept
  · rw [hm, hp]
    exact h.jti key
  · rw [hm]
    exact h.valid
  · have hf : ∀ row : InteractionRow, InteractionRow.expired t
        (if k = id ∧ Memory.interactionLive row t = true then
          { row with completedAt := some t } else row) = row.expired t := by
      intro row
      unfold InteractionRow.expired
      split_ifs <;> rfl
    rw [living_map (Memory.get?_interactionsComplete k) hf,
      living_map (Memory.get?_interactionsComplete k) hf, h.interactions]

/-- **Every call is answered alike on related tables, and leaves related tables.** The instant of
the call, if it has one, is the one of the relation. -/
lemma Related.step {q : Query} (ht : ∀ t' ∈ q.instant, t' = t)
    (hdates : ∀ d ∈ Pg.dates q, d ≠ none) (hroom : m.jti.size < Memory.jtiCap) :
    (Memory.exec m q).1 = (Pg.exec p x q).1 ∧
      Related t (Memory.exec m q).2 (Pg.exec p x q).2 := by
  cases q with
  | jtiRegister c i e now =>
    obtain rfl : now = t := ht now rfl
    exact h.jtiRegister x (hdates e (by simp [Pg.dates])) hroom
  | interactionsInsert rec => exact ⟨rfl, h.interactionsInsert x (ht _ rfl)⟩
  | interactionsFind id now =>
    obtain rfl : now = t := ht now rfl
    rw [Pg.exec_eq_memory p x rfl]
    refine ⟨?_, h⟩
    show Memory.interactionsFind m id now = Memory.interactionsFind p id now
    rw [Memory.interactionsFind_living, Memory.interactionsFind_living, h.interactions]
  | interactionsSetSubject id subject authTime acr amr =>
    rw [Pg.exec_eq_memory p x rfl]
    exact ⟨rfl, h.interactionsSetSubject id subject authTime acr amr⟩
  | interactionsComplete id now =>
    obtain rfl : now = t := ht now rfl
    rw [Pg.exec_eq_memory p x rfl]
    exact h.interactionsComplete id
  | _ =>
    -- the other calls read and write the tables that are never swept, the same on both sides
    rw [Pg.exec_eq_memory p x rfl]
    obtain ⟨c, pa, g, co, ac, re, j, l, i⟩ := m
    obtain ⟨c', pa', g', co', ac', re', j', l', i'⟩ := p
    obtain ⟨hu, hj, hv, hi⟩ := h
    simp only [Store.unswept, Prod.mk.injEq] at hu
    obtain ⟨rfl, rfl, rfl, rfl, rfl, rfl⟩ := hu
    first
      | exact ⟨rfl, rfl, hj, hv, hi⟩
      | simp only [Memory.exec, Memory.parConsume, Memory.codesRedeem]
        split
        · exact ⟨rfl, rfl, hj, hv, hi⟩
        · split_ifs <;> exact ⟨rfl, rfl, hj, hv, hi⟩

end Step

/-! ## The rules of the schema -/

/-- The primary key of a row, by its table. -/
inductive RowKey
  | par (requestUri : String)
  | grant (grantId : String)
  | code (codeHash : String)
  | accessToken (jti : String)
  | refreshToken (tokenHash : String)
  | interaction (id : String)
  deriving DecidableEq

/-- The row that a call inserts. -/
def Query.inserted : Query → Option RowKey
  | .parInsert rec => some (.par rec.requestUri)
  | .grantsInsert rec => some (.grant rec.grantId)
  | .codesInsert rec => some (.code rec.codeHash)
  | .accessTokensInsert rec => some (.accessToken rec.jti)
  | .refreshTokensInsert rec => some (.refreshToken rec.tokenHash)
  | .interactionsInsert rec => some (.interaction rec.id)
  | _ => none

/-- A row that an inserted row refers to. -/
inductive ForeignKey
  | client (clientId : String)
  | grant (grantId : String)
  deriving DecidableEq

/-- The row that the row inserted by a call refers to. -/
def Query.foreignKey : Query → Option ForeignKey
  | .parInsert rec => some (.client rec.clientId)
  | .grantsInsert rec => some (.client rec.clientId)
  | .interactionsInsert rec => some (.client rec.clientId)
  | .codesInsert rec => some (.grant rec.grantId)
  | .accessTokensInsert rec => some (.grant rec.grantId)
  | .refreshTokensInsert rec => some (.grant rec.grantId)
  | _ => none

/-- A foreign key has its row: a registered client, or a grant that was inserted earlier. -/
def ForeignKey.Met (clients : Map String ClientRecord) (earlier : List Query) : ForeignKey → Prop
  | .client clientId => (clients.get? clientId).isSome
  | .grant grantId => ∃ rec, .grantsInsert rec ∈ earlier ∧ rec.grantId = grantId

/-- **A call keeps the rules of the schema** after the calls `earlier`: its texts are free of
U+0000, a row that it inserts has a key that no earlier row has and a foreign key with its row, and
its instant is not before an earlier one. -/
structure Admissible (clients : Map String ClientRecord) (earlier : List Query) (q : Query) :
    Prop where
  texts : ∀ t ∈ Pg.texts q, '\x00' ∉ t.toList
  fresh : ∀ k ∈ q.inserted, ∀ q' ∈ earlier, q'.inserted ≠ some k
  references : ∀ r ∈ q.foreignKey, r.Met clients earlier
  instants : ∀ t ∈ q.instant, ∀ q' ∈ earlier, ∀ t' ∈ q'.instant, t' ≤ t

/-- The parameters of a call fit the columns of the schema: grant ids are UUIDs, dates are
`timestamptz`. -/
structure Storable (q : Query) : Prop where
  uuids : ∀ g ∈ Pg.uuids q, Pg.isUuid g = true
  dates : ∀ d ∈ Pg.dates q, Pg.isTimestamptz d = true

/-- The tables hold a row. -/
def Store.has (s : Store) : RowKey → Bool
  | .par requestUri => (s.par.get? requestUri).isSome
  | .grant grantId => (s.grants.get? grantId).isSome
  | .code codeHash => (s.codes.get? codeHash).isSome
  | .accessToken jti => (s.accessTokens.get? jti).isSome
  | .refreshToken tokenHash => (s.refreshTokens.get? tokenHash).isSome
  | .interaction id => (s.interactions.get? id).isSome

/-- The tables hold the row of a foreign key. -/
def Store.hasReferenced (s : Store) : ForeignKey → Bool
  | .client clientId => (s.clients.get? clientId).isSome
  | .grant grantId => s.has (.grant grantId)

lemma Pg.referenced_eq (s : Store) (q : Query) :
    Pg.referenced s q = q.foreignKey.all s.hasReferenced := by
  cases q <;> rfl

lemma Pg.duplicate_eq (s : Store) (q : Query) : Pg.duplicate s q = q.inserted.any s.has := by
  cases q <;> rfl

/-- Every row of a table was there before a call or is the one it inserts. -/
lemma Effect.has {s s' : Store} {q : Query} (h : Effect s q s') {k : RowKey}
    (hk : s'.has k = true) : s.has k = true ∨ q.inserted = some k := by
  cases k with
  | par uri =>
    rcases h.par uri with h' | ⟨rec, rfl, rfl, -⟩ | ⟨t, row, -, hrow, -⟩
    · exact .inl (by simpa [Store.has, h'] using hk)
    · exact .inr rfl
    · exact .inl (by simp [Store.has, hrow])
  | grant g =>
    rcases h.grants g with h' | ⟨rec, rfl, rfl, -⟩ | ⟨t, -, h'⟩
    · exact .inl (by simpa [Store.has, h'] using hk)
    · exact .inr rfl
    · exact .inl (by simpa [Store.has, h'] using hk)
  | code codeHash =>
    rcases h.codes codeHash with h' | ⟨rec, rfl, rfl, -⟩ | ⟨t, row, -, hrow, -⟩
    · exact .inl (by simpa [Store.has, h'] using hk)
    · exact .inr rfl
    · exact .inl (by simp [Store.has, hrow])
  | accessToken jti =>
    rcases h.accessTokens jti with h' | ⟨rec, rfl, rfl, -⟩ | ⟨t, row, -, hrow, -⟩
    · exact .inl (by simpa [Store.has, h'] using hk)
    · exact .inr rfl
    · exact .inl (by simp [Store.has, hrow])
  | refreshToken tokenHash =>
    rcases h.refreshTokens tokenHash with h' | ⟨rec, rfl, rfl, -⟩ | ⟨t, row, -, hrow, -⟩
    · exact .inl (by simpa [Store.has, h'] using hk)
    · exact .inr rfl
    · exact .inl (by simp [Store.has, hrow])
  | interaction id =>
    have hstep := h.interactions id
    simp only [Store.has] at hk ⊢
    generalize s.interactions.get? id = row at hstep ⊢
    generalize s'.interactions.get? id = row' at hstep hk
    cases hstep with
    | same => exact .inl hk
    | insert _ rec hq hid => exact .inr (by rw [hq, ← hid]; rfl)
    | swept => cases hk
    | setSubject => exact .inl rfl
    | complete => exact .inl rfl

/-- A grant stays. -/
lemma Effect.has_grant {s s' : Store} {q : Query} (h : Effect s q s') {g : String}
    (hg : s.has (.grant g) = true) : s'.has (.grant g) = true := by
  rcases h.grants g with h' | ⟨rec, -, -, h'⟩ | ⟨t, -, h'⟩
  · simpa [Store.has, h'] using hg
  · simp [Store.has, h']
  · simpa [Store.has, h'] using hg

/-- The database holds the clients, the grants inserted by the calls `earlier`, and no row but those
that these calls inserted. -/
structure Holds (clients : Map String ClientRecord) (earlier : List Query) (s : Store) : Prop where
  clients_eq : s.clients = clients
  grants : ∀ rec, .grantsInsert rec ∈ earlier → s.has (.grant rec.grantId) = true
  keys : ∀ k, s.has k = true → ∃ q ∈ earlier, q.inserted = some k

section Holds

variable {clients : Map String ClientRecord} {earlier : List Query} {s : Store} {q : Query}

/-- The database refuses no storable call that keeps the rules. -/
lemma Holds.accepts (h : Holds clients earlier s) (hq : Admissible clients earlier q)
    (hst : Storable q) : Pg.refuses s q = false := by
  have htexts : (Pg.texts q).any (fun t => t.toList.contains '\x00') = false := by
    simpa using hq.texts
  have huuids : (Pg.uuids q).any (fun t => !Pg.isUuid t) = false := by
    simpa using hst.uuids
  have hdates : (Pg.dates q).any (fun d => !Pg.isTimestamptz d) = false := by
    simpa using hst.dates
  have hrefs : Pg.referenced s q = true := by
    rw [Pg.referenced_eq, Option.all_eq_true]
    intro r hr
    cases r with
    | client clientId =>
      have hmet : (clients.get? clientId).isSome := hq.references _ hr
      simpa [Store.hasReferenced, h.clients_eq] using hmet
    | grant g =>
      obtain ⟨rec, hrec, rfl⟩ := hq.references _ hr
      exact h.grants rec hrec
  have hdup : Pg.duplicate s q = false := by
    rw [Pg.duplicate_eq, Option.any_eq_false]
    intro k hk
    rw [Bool.eq_false_iff]
    intro hhas
    obtain ⟨q', hq', hins⟩ := h.keys k hhas
    exact hq.fresh k hk q' hq' hins
  simp only [Pg.refuses, htexts, huuids, hdates, hrefs, hdup]
  rfl

/-- What the database holds after a call that is carried out. -/
lemma Holds.step (h : Holds clients earlier s) {r : q.Res} {s' : Store} (hc : Carried s q r s') :
    Holds clients (earlier ++ [q]) s' where
  clients_eq := hc.effect.clients.trans h.clients_eq
  grants rec hrec := by
    rcases List.mem_append.mp hrec with hrec | hrec
    · exact hc.effect.has_grant (h.grants rec hrec)
    · obtain rfl : Query.grantsInsert rec = q := by simpa using hrec
      obtain ⟨-, rfl⟩ := Prod.mk.inj (hc.eq_memory rfl)
      simp [Store.has]
  keys k hk := by
    rcases hc.effect.has hk with hk | hins
    · obtain ⟨q', hq', hins⟩ := h.keys k hk
      exact ⟨q', List.mem_append_left _ hq', hins⟩
    · exact ⟨q, by simp, hins⟩

end Holds

/-! ## Sequences of calls -/

/-- A repository call, with the expired rows that the database deletes in it if it deletes some. -/
structure RepoCall where
  query : Query
  reapJti : List (String × String) := []
  reapInteractions : List String := []

/-- The choice of the database in a call: what it reaps. -/
def RepoCall.choice (c : RepoCall) : DbChoice :=
  { reapJti := c.reapJti, reapInteractions := c.reapInteractions }

/-- What a sequence of calls resolves to. -/
def Backend.results (b : Backend) : Store → List RepoCall → List (Σ q : Query, Except Fault q.Res)
  | _, [] => []
  | s, c :: calls =>
    ⟨c.query, (b.exec s c.choice c.query).1⟩ :: b.results (b.exec s c.choice c.query).2 calls

/-- The tables after a sequence of calls. -/
def Backend.after (b : Backend) : Store → List RepoCall → Store
  | s, [] => s
  | s, c :: calls => b.after (b.exec s c.choice c.query).2 calls

section Sequence

variable {clients : Map String ClientRecord}

/-- The tables before any call: the registered clients only. -/
def Store.ofClients (clients : Map String ClientRecord) : Store := { clients := clients }

lemma Related.start (t : ℕ) : Related t (.ofClients clients) (.ofClients clients) where
  unswept := rfl
  jti _ := rfl
  valid _ := by simp [Store.ofClients]
  interactions _ := rfl

lemma Holds.start : Holds clients [] (.ofClients clients) where
  clients_eq := rfl
  grants _ hrec := by simp at hrec
  keys k hk := by cases k <;> simp [Store.ofClients, Store.has] at hk

/-- What holds at every place of a list, by its first place and the others. -/
lemma forall_split_cons {α : Type} {a : α} {l : List α} {Q : List α → α → List α → Prop} :
    (∀ before c after, a :: l = before ++ c :: after → Q before c after) ↔
      Q [] a l ∧ ∀ before c after, l = before ++ c :: after → Q (a :: before) c after := by
  constructor
  · exact fun h => ⟨h [] a l rfl, fun before c after hl => h (a :: before) c after
      (by rw [hl]; rfl)⟩
  · rintro ⟨h0, h⟩ before c after hl
    cases before with
    | nil =>
      obtain ⟨rfl, rfl⟩ := List.cons.inj hl
      exact h0
    | cons b before =>
      obtain ⟨rfl, htail⟩ := List.cons.inj hl
      exact h before c after htail

/-- Some instant is not before any of a list of calls. -/
lemma exists_later (earlier : List Query) :
    ∃ t, ∀ q ∈ earlier, ∀ t' ∈ q.instant, t' ≤ t := by
  induction earlier with
  | nil => exact ⟨0, by simp⟩
  | cons q earlier ih =>
    obtain ⟨t, ht⟩ := ih
    refine ⟨max t (q.instant.getD 0), fun q' hq' t' ht' => ?_⟩
    rcases List.mem_cons.mp hq' with rfl | hq'
    · rw [Option.mem_def] at ht'
      simp [ht']
    · exact (ht q' hq' t' ht').trans (le_max_left _ _)

/-- **What is left of a sequence is answered alike** on tables that are related at every instant
from the last one on. -/
lemma Related.results (calls : List RepoCall) : ∀ {earlier : List Query} {m p : Store},
    (∀ t, (∀ q ∈ earlier, ∀ t' ∈ q.instant, t' ≤ t) → Related t m p) → Holds clients earlier p →
    (∀ before c after, calls = before ++ c :: after →
      Admissible clients (earlier ++ before.map RepoCall.query) c.query ∧ Storable c.query ∧
        (Backend.memory.after m before).jti.size < Memory.jtiCap) →
    Backend.memory.results m calls = Backend.pg.results p calls := by
  induction calls with
  | nil => exact fun _ _ _ => rfl
  | cons c calls ih =>
    intro earlier m p hrel hholds hcalls
    obtain ⟨⟨hadm, hst, hroom⟩, hcalls⟩ := forall_split_cons.mp hcalls
    simp only [List.map_nil, List.append_nil] at hadm
    have hrefuses : Pg.refuses p c.query = false := hholds.accepts hadm hst
    have hdates : ∀ d ∈ Pg.dates c.query, d ≠ none := by
      rintro d hd rfl
      exact absurd (hst.dates none hd) (by simp [Pg.isTimestamptz])
    -- the step at an instant: at that of the call, if it has one
    have hstep : ∀ t, (∀ q ∈ earlier ++ [c.query], ∀ t' ∈ q.instant, t' ≤ t) →
        (Memory.exec m c.query).1 = (Pg.exec p c.choice c.query).1 ∧
          Related t (Memory.exec m c.query).2 (Pg.exec p c.choice c.query).2 := by
      intro t ht
      cases hc : c.query.instant with
      | none =>
        refine (hrel t fun q hq => ht q (List.mem_append_left _ hq)).step _
          (fun t' h => ?_) hdates hroom
        rw [hc] at h
        cases h
      | some t₀ =>
        have h0 := (hrel t₀ fun q hq t' => hadm.instants t₀ hc q hq t').step c.choice
          (fun t' h => by rw [hc] at h; exact (Option.some.inj h).symm) hdates hroom
        exact ⟨h0.1, h0.2.mono (ht c.query (by simp) t₀ hc)⟩
    obtain ⟨t, ht⟩ := exists_later (earlier ++ [c.query])
    have hm : Backend.memory.exec m c.choice c.query =
        (.ok (Memory.exec m c.query).1, (Memory.exec m c.query).2) := rfl
    have hp : Backend.pg.exec p c.choice c.query =
        (.ok (Pg.exec p c.choice c.query).1, (Pg.exec p c.choice c.query).2) := by
      simp [Backend.exec, hrefuses, RepoCall.choice]
    have hcarried : Carried p c.query (Pg.exec p c.choice c.query).1
        (Pg.exec p c.choice c.query).2 :=
      .inr ⟨hrefuses, c.choice, rfl⟩
    simp only [Backend.results, hm, hp, (hstep t ht).1]
    congr 1
    refine ih (fun t' ht' => (hstep t' ht').2) (hholds.step hcarried) ?_
    intro before c' after h
    obtain ⟨hadm', hst', hroom'⟩ := hcalls before c' after h
    refine ⟨?_, hst', hroom'⟩
    rwa [List.append_assoc]

/-- **The two storage adapters are observationally equivalent.** From the registered clients on, a
sequence of calls that keep the rules of the schema and whose parameters fit its columns is answered
alike by both, whatever the database reaps, as long as the in-memory replay guard has room.

**Proof sketch.** The tables stay related: the rows that are never swept are the same, and of the
replay entries and interactions the living ones are. Every call answers from these rows alone, and a
sweep removes only dead rows, which stay dead since the instants do not decrease. The database
refuses no call, since it holds the clients, the grants inserted so far and no other keys. -/
theorem adapters_agree {calls : List RepoCall}
    (hadmissible : ∀ before c after, calls = before ++ c :: after →
      Admissible clients (before.map RepoCall.query) c.query)
    (hstorable : ∀ c ∈ calls, Storable c.query)
    (hroom : ∀ before c after, calls = before ++ c :: after →
      (Backend.memory.after (.ofClients clients) before).jti.size < Memory.jtiCap) :
    Backend.memory.results (.ofClients clients) calls =
      Backend.pg.results (.ofClients clients) calls := by
  refine @Related.results clients calls [] _ _ (fun t _ => .start t) .start
    fun before c after h => ⟨?_, hstorable c ?_, hroom before c after h⟩
  · simpa using hadmissible before c after h
  · rw [h]
    simp

end Sequence

namespace Sample

/-! ## Sequences of calls -/

/-- A registered client. -/
def oneClient : Map String ClientRecord := (Map.empty).set "a" ⟨"a", none, .null⟩

/-- An interaction that expires at 8, and a replay entry that expires at 10; at 20 the id is
registered again, and the database deletes the expired entry. -/
def expiringCalls : List RepoCall :=
  [ { query := .jtiRegister "ctx" "j" (some 10) 5 },
    { query := .interactionsInsert ⟨"i", "a", "urn:1", none, none, none, none, 5, some 8⟩ },
    { query := .jtiRegister "ctx" "j" (some 30) 20, reapJti := [("ctx", "j")] },
    { query := .interactionsFind "i" 20 } ]

/-- The adapters answer these calls alike. -/
theorem expiringCalls_agree : Backend.memory.results (.ofClients oneClient) expiringCalls =
    Backend.pg.results (.ofClients oneClient) expiringCalls := by
  refine adapters_agree ?_ ?_ ?_
  · simp only [expiringCalls, forall_split_cons]
    refine ⟨?_, ?_, ?_, ?_, by simp⟩
    · exact ⟨by decide, by simp, by simp [Query.foreignKey], by simp⟩
    · exact ⟨by decide, by decide, by simp [Query.foreignKey, ForeignKey.Met, oneClient], by decide⟩
    · exact ⟨by decide, by decide, by simp [Query.foreignKey], by decide⟩
    · exact ⟨by decide, by decide, by simp [Query.foreignKey], by decide⟩
  · simp only [expiringCalls, List.forall_mem_cons]
    exact ⟨⟨by decide, by decide⟩, ⟨by decide, by decide⟩, ⟨by decide, by decide⟩,
      ⟨by decide, by decide⟩, by simp⟩
  · simp only [expiringCalls, forall_split_cons]
    exact ⟨by decide, by decide, by decide, by decide, by simp⟩

/-- A call that keeps the rules of the schema and is answered differently when it is the only one.
-/
structure AnsweredDifferently (q : Query) : Prop where
  admissible : Admissible oneClient [] q
  room : (Store.ofClients oneClient).jti.size < Memory.jtiCap
  differ : Backend.memory.results (.ofClients oneClient) [{ query := q }] ≠
    Backend.pg.results (.ofClients oneClient) [{ query := q }]

/-- **Calls with other parameters are answered differently**: a search for a grant whose id is no
UUID, and the registration of a replay entry that expires at an Invalid Date. -/
theorem adapters_differ : AnsweredDifferently (.grantsFind "g") ∧
    AnsweredDifferently (.jtiRegister "ctx" "j" none 0) := by
  constructor
  · refine ⟨⟨by decide, by simp, by simp [Query.foreignKey], by simp⟩, by decide, ?_⟩
    simp only [Backend.results, Backend.exec, Pg.refuses]
    decide
  · refine ⟨⟨by decide, by simp, by simp [Query.foreignKey], by simp⟩, by decide, ?_⟩
    simp only [Backend.results, Backend.exec, Pg.refuses]
    decide

end Sample

end Fapi2As
