import Leasehold.Proofs.Lock.RenewalLoop
import Leasehold.Proofs.Lock.Turnover
import Leasehold.Proofs.World.Clock

/-!
# The age of a lease

A lock with a renewal loop renews its lease every half term.  As long as no call is kept waiting
this is often enough: the lease is younger than its term, and the service still honors it.

* `World.Watched`: every lock that is in use has its renewal loop.
* `watched_reachable`: this holds in every reachable world.
* `World.lease_age`: the lease of a lock in use is younger than its term, unless a task is at the
  critical section.
* `World.stale_lease`: a run in which a renewal is on its way and the lease is older.
-/

namespace Leasehold

namespace Term

/-- The term is long against the tolerance of the ticks. -/
theorem tickTolerance_lt (m : Term) : World.tickTolerance < m.renewalPeriod := by
  have h := m.min_le
  simp only [Span.le_def, Span.lt_def, shortestTerm, World.tickTolerance, renewalPeriod, Span.half,
    Span.ofSeconds, Span.ofMillis, Span.perSecond, Span.perMilli] at h ⊢
  omega

/-- A tick that is taken at its millisecond comes before the service ends the lease. -/
theorem renewalPeriod_lt (m : Term) :
    m.renewalPeriod.nanos + Span.perMilli < (Span.ofSeconds m.wholeSeconds).nanos := by
  have h := m.min_le
  simp only [Span.le_def, shortestTerm, renewalPeriod, wholeSeconds, Span.seconds, Span.half,
    Span.ofSeconds, Span.perSecond, Span.perMilli] at h ⊢
  omega

end Term

/-- The lock is acquired, and its scope is not cancelled. -/
def Lock.InUse (k : Lock) : Prop := k.stage = .acquired ∧ k.cancelled = false

instance : DecidablePred Lock.InUse := fun k =>
  inferInstanceAs (Decidable (k.stage = .acquired ∧ k.cancelled = false))

/-- Every lock of the id is built with a renewal loop. -/
def Renewed (A : Step → Prop) (id : LeaseId) : Prop :=
  ∀ label name term behaviors parent,
    A (.create label name term behaviors parent id) → Behavior.renewal ∈ behaviors

namespace World

variable {A : Step → Prop} {D : Deed → Prop} {t tw : TaskId} {w w' w'' : World}
  {c c' : Option Engagement} {l : LockId} {k k' : Lock} {E E' : TaskId → Option Engagement}
  {b period : Span} {r : Request} {v : Watcher}

/-! ### Locks with a renewal loop -/

/-- The renewal loop of the lock has to be at work. -/
structure Due (A : Step → Prop) (k : Lock) : Prop where
  renewed : Renewed A k.id
  alive : k.cancelled = false
  stage : k.stage ≠ .released

/-- The task runs the renewal loop of the lock. -/
def Tended (w : World) (E : TaskId → Option Engagement) (l : LockId) (k : Lock) (t : TaskId) :
    Prop :=
  ∃ v, w.activity? t = some (.watching l v) ∧
    w.Paced E l k.term.renewalPeriod (k.request .renew) v ∧ w.Roused t v

/-- Every lock whose renewal loop has to be at work has one. -/
def Watched (A : Step → Prop) (w : World) : Prop :=
  ∀ (l : LockId) (k : Lock), w.locks[l]? = some k → Due A k → ∃ t, w.Tended w.engagements l k t

theorem Paced.instant (h : w.Paced E l period r v) (hc : w'.clock = w.clock)
    (hf : ∀ b, w.ledger.Fresh E l b → w'.ledger.Fresh E' l b)
    (hs : ∀ n r b, w.ledger.Sent n r b → w'.ledger.Sent n r b) : w'.Paced E' l period r v := by
  have hn : w'.now = w.now := by rw [now, hc, now]
  cases h with
  | start h => exact .start (by rw [hn]; exact hf _ h)
  | tick hd hle h ht => exact .tick hd (by rw [hc]; exact hle) (hf _ h) ht
  | look h => exact .look (by rw [hn]; exact h)
  | queued h => exact .queued (by rw [hn]; exact h)
  | renewing hb h ht => exact .renewing (by rw [hn]; exact hb) (hs _ _ _ h) ht

theorem Paced.unmoved (h : w.Paced E l period r v) (hu : w.Unmoved w') :
    w'.Paced E l period r v := by
  have hg : w'.ledger = w.ledger := ledger_congr hu.clock hu.locks hu.log
  exact h.instant hu.clock (fun b hf => by rwa [hg]) fun n r b hs => by rwa [hg]

theorem Roused.mono (h : w.Roused t v) (hc : w'.clock = w.clock)
    (hr : w.Runnable t → w'.Runnable t) : w'.Roused t v := by
  cases v with
  | renewalStart => exact hr h
  | renewalTick tick timer n => exact fun hd => hr (h (hc ▸ hd))
  | _ => trivial

theorem Tended.evolves (h : w.Tended E l k t) (he : Evolves k k') : w.Tended E l k' t := by
  obtain ⟨v, ha, hp, hr⟩ := h
  refine ⟨v, ha, ?_, hr⟩
  rw [he.term, Evolves.request he]
  exact hp

/-- A move of another task leaves the loop as it is. -/
theorem Tended.move (h : w.Tended E l k tw) (hA : w.ledger.Answerable E)
    (hm : Move A D t w (E t) w' c') : w'.Tended (Function.update E t c') l k tw := by
  obtain ⟨v, ha, hp, hr⟩ := h
  exact ⟨v, hm.frame.kept tw _ ha, hp.instant hm.frame.clock (fun b hf => hf.step hA hm.ledger)
    fun n r b hs => hs.step hm.ledger, hr.mono hm.frame.clock (hm.frame.runnable tw)⟩

/-! ### A turn of some task -/

theorem length_updateLock (f : Lock → Lock) :
    (w.updateLock l f).locks.length = w.locks.length := List.length_modify ..

theorem length_concluded (call : LeaseCall) (a : Answer) :
    (w.concluded l call a).locks.length = w.locks.length := by
  cases call with
  | acquire =>
    cases a with
    | ok u => exact length_updateLock _
    | error e => rfl
  | renew => rfl
  | release => rw [concluded, (quiet_cancelScope w l).locks, length_updateLock]

/-- A new lock comes from a construction. -/
theorem Move.built_of_new (hm : Move A D t w c w' c') (hl : w.locks.length ≤ l)
    (hk : w'.locks[l]? = some k) : ∃ cr, cr.From A ∧ w' = w.built cr ∧ c' = none := by
  have old : ∀ {x : World}, x.locks.length = w.locks.length → x.locks[l]? ≠ some k := by
    intro x hx hk
    have := (List.getElem?_eq_some_iff.1 hk).1
    omega
  cases hm with
  | build cr hc => exact ⟨cr, hc, rfl, rfl⟩
  | quiet h => exact absurd hk (old (by rw [h.locks]))
  | own l' f g => exact absurd hk (old (length_updateLock _))
  | cancel l' => exact absurd hk (old (by rw [(quiet_cancelScope w l').locks, length_updateLock]))
  | lose l' reason _ _ _ =>
    exact absurd hk (old (by rw [(quiet_raiseLoss w l' reason).locks, length_updateLock]))
  | parent | foreign | revoke | inject | plan | spawn | told | forget => exact absurd hk (old rfl)
  | enqueue l' errand _ => exact absurd hk (old (length_updateLock _))
  | leave l' e _ _ => exact absurd hk (old (by rw [(quiet_leave w t l').locks, length_updateLock]))
  | abandon l' e _ _ =>
    exact absurd hk (old (by rw [(quiet_leave w t l').locks, length_updateLock]))
  | send l' k' errand call _ _ _ _ _ =>
    exact absurd hk (old (by rw [locks_sent]; exact length_updateLock _))
  | arrive l' call r n p => exact absurd hk (old (by rw [locks_settleCall]))
  | receive l' call r n a =>
    refine absurd hk (old ?_)
    rw [(quiet_leave _ t l').locks, length_updateLock]
    exact length_concluded call a
  | ask r _ => exact absurd hk (old (by rw [locks_sent]))
  | provision r n p => exact absurd hk (old (by rw [locks_settleCall]))

/-- In the course of a turn of task `t`, every lock whose renewal loop has to be at work has one in
another task, except for some locks of the task's own. -/
structure Attending (A : Step → Prop) (t : TaskId) (own : LockId → Prop) (w : World)
    (E : TaskId → Option Engagement) : Prop where
  answerable : w.ledger.Answerable E
  present : ∃ a, w.activity? t = some a
  tended : ∀ l k, w.locks[l]? = some k → Due A k → own l ∨ ∃ tw, tw ≠ t ∧ w.Tended E l k tw

theorem Due.before (h : Due A k') (he : Evolves k k') (hr : k.stage.rank ≤ k'.stage.rank) :
    Due A k where
  renewed := he.id ▸ h.renewed
  alive := by
    by_contra hc
    cases (he.cancelled (by simpa using hc)).symm.trans h.alive
  stage hs := by
    rw [hs] at hr
    cases hk : k'.stage with
    | idle => rw [hk] at hr; cases hr
    | acquired => rw [hk] at hr; cases hr; contradiction
    | released => exact h.stage hk

/-- A new lock has its renewal loop. -/
theorem tended_built {cr : Creation} (hc : cr.From A) (hA : w.ledger.Answerable E)
    (ht : ∃ a, w.activity? t = some a) (hl : w.locks.length ≤ l)
    (hk : (w.built cr).locks[l]? = some k) (hd : Due A k) :
    ∃ tw, tw ≠ t ∧ (w.built cr).Tended (Function.update E t none) l k tw := by
  have hf := founding_built w cr
  obtain ⟨s, ws, hlocks⟩ := hf.locks
  obtain ⟨name, term, hcr⟩ := hc
  have hk' := hk
  rw [hlocks] at hk'
  rcases getElem?_concat_cases hk' with hk' | ⟨rfl, rfl⟩
  · have := (List.getElem?_eq_some_iff.1 hk').1
    omega
  · obtain ⟨tw, hle, hr, ha⟩ :=
      hf.watching .renewal (hd.renewed _ _ _ _ _ hcr) .renewalStart rfl
    refine ⟨tw, ?_, .renewalStart, ha, .start ?_, hr⟩
    · rintro rfl
      obtain ⟨a, ha⟩ := ht
      obtain ⟨b, hb⟩ := exists_task ha
      have := (List.getElem?_eq_some_iff.1 hb).1
      omega
    · -- no call can be on its way for a lock that was not there
      refine fresh_of_idle ⟨_, hk, rfl⟩ fun t' call r n co he => ?_
      obtain ⟨c, hc, -⟩ := hA.inside t' _ call r n co he
      have := (List.getElem?_eq_some_iff.1 hc).1
      have hlen : w.ledger.cores.length = w.locks.length := List.length_map ..
      omega

theorem Attending.move {own : LockId → Prop} (h : Attending A t own w E)
    (hm : Move A D t w (E t) w' c') : Attending A t own w' (Function.update E t c') where
  answerable := h.answerable.step hm.ledger
  present := by
    obtain ⟨a, ha⟩ := h.present
    exact ⟨a, hm.frame.kept t a ha⟩
  tended l k' hk' hd := by
    rcases Nat.lt_or_ge l w.locks.length with hlt | hge
    · obtain ⟨k, hk⟩ : ∃ k, w.locks[l]? = some k := ⟨_, List.getElem?_eq_getElem hlt⟩
      obtain ⟨k'', hk'', he⟩ := hm.outlives l k hk
      obtain rfl := Option.some.inj (hk''.symm.trans hk')
      obtain ⟨c, hc, -, hrank⟩ := (h.answerable.since_step hm.ledger).stages l _ (core?_ledger hk)
      obtain rfl := Option.some.inj ((core?_ledger hk').symm.trans hc)
      refine (h.tended l k hk (hd.before he hrank)).imp_right ?_
      rintro ⟨tw, hne, ht⟩
      exact ⟨tw, hne, (ht.move h.answerable hm).evolves he⟩
    · obtain ⟨cr, hc, rfl, rfl⟩ := hm.built_of_new hge hk'
      exact .inr (tended_built hc h.answerable h.present hge hk' hd)

/-- A turn leaves every lock its renewal loop if it does so with the locks of its own. -/
theorem Watched.turn (hr : Reachable A w) (hW : w.Watched A) {a a' : Activity}
    (hT : Turn A t w w' a a') (hq : (w'.setActivity t a').Quiet w'')
    (hown : ∀ l k k', w.locks[l]? = some k → w.Tended w.engagements l k t →
      w'.locks[l]? = some k' → Evolves k k' → Due A k' → w''.Tended w''.engagements l k' t) :
    w''.Watched A := by
  -- the moves keep the loops of the other tasks, and `hown` answers for those of this one
  let own : LockId → Prop := fun l =>
    ∃ k, w.locks[l]? = some k ∧ w.Tended w.engagements l k t
  have he : w.engagements t = a.engagement := by rw [engagements_eq, hT.before]; rfl
  have h₀ : Attending A t own (w.atTurn t) (Function.update w.engagements t a.engagement) := by
    rw [← he, Function.update_eq_self]
    refine ⟨answerable_reachable hr, ⟨.running, ?_⟩, fun l k hk hd => ?_⟩
    · rw [atTurn, activity?_setActivity, if_pos rfl]
      show (w.activity? t).map _ = _
      rw [hT.before]
      rfl
    · obtain ⟨tw, ht⟩ := hW l k hk hd
      by_cases hne : tw = t
      · exact .inl ⟨k, hk, hne ▸ ht⟩
      · obtain ⟨v, ha, hp, hro⟩ := ht
        refine .inr ⟨tw, hne, v, ?_, hp.unmoved (unmoved_atTurn w t), ?_⟩
        · rw [activity?_atTurn (Ne.symm hne)]
          exact ha
        · exact hro.mono rfl (runnable_dismiss hne)
  have h₁ := Moves.keep hT.stretch.moves (J := Attending A t own) (fun _ _ _ _ h hm => h.move hm) h₀
  intro l k' hk' hd
  rw [hq.locks] at hk'
  rcases h₁.tended l k' hk' hd with ⟨k, hk, ht⟩ | ⟨tw, hne, v, ha, hp, hro⟩
  · obtain ⟨k'', hk'', hev⟩ := hT.stretch.moves.outlives l k hk
    obtain rfl := Option.some.inj (hk''.symm.trans hk')
    exact ⟨t, hown l k k'' hk ht hk' hev hd⟩
  · refine ⟨tw, v, ?_, ?_, hro.mono hq.clock (hq.runnable tw)⟩
    · rw [hT.activity? hq, if_neg (Ne.symm hne)]
      exact ha
    · rw [hT.engagements hq]
      exact (hp.unmoved (unmoved_setActivity w' t a')).unmoved hq.unmoved

/-- The turn of a watcher leaves every lock its renewal loop. -/
theorem Watched.poll_watching (hr : Reachable A w) (hW : w.Watched A)
    (ha : w.activity? t = some (.watching l v)) : (w.poll t).Watched A := by
  have hT : Turn A t w _ _ _ := turn_watching ha (Reachable.tame hr t _ ha)
  have hq := World.poll_watching ha
  refine hW.turn hr hT hq fun l' k k' hk ht hk' hev hd => ?_
  obtain ⟨v', ha', hp, -⟩ := ht
  obtain ⟨rfl, rfl⟩ : l = l' ∧ v = v' := by
    rw [ha] at ha'
    cases ha'
    exact ⟨rfl, rfl⟩
  have he : w.engagements t = v.engagement l := by rw [engagements_eq, ha]; rfl
  have hA : (w.atTurn t).ledger.Answerable w.engagements := answerable_reachable hr
  have hres := resumed_resumeWatcher (w := w.atTurn t) k.term.tickTolerance_lt
    ⟨k, hk, rfl, rfl⟩ hA he (hp.unmoved (unmoved_atTurn w t))
  have hE := hT.engagements hq
  have hact := hT.activity? hq t
  rw [if_pos rfl] at hact
  rcases hy : ((w.atTurn t).resumeWatcher t l v).2 with v' | u
  · rw [hy] at hE hact
    refine Tended.evolves (k := k) ⟨v', hact, ?_, ?_⟩ hev
    · rw [hE]
      exact ((hres.paced v' hy).unmoved (unmoved_setActivity _ t _)).unmoved hq.unmoved
    · exact (hres.roused v' hy).mono hq.clock (hq.runnable t)
  · -- the loop ends only when the lock is cancelled or released
    rcases hres.ends u hy with hc | ⟨k'', hk'', hs⟩
    · rw [isCancelled, hk'] at hc
      cases hc.symm.trans hd.alive
    · obtain rfl := Option.some.inj (hk''.symm.trans hk')
      exact absurd hs hd.stage

/-- A turn leaves every lock its renewal loop. -/
theorem Watched.poll (hr : Reachable A w) (hW : w.Watched A) (t : TaskId) :
    (w.poll t).Watched A := by
  by_cases hv : ∃ l v, w.activity? t = some (.watching l v)
  · obtain ⟨l, v, ha⟩ := hv
    exact hW.poll_watching hr ha
  · have hn : ∀ l k, ¬ w.Tended w.engagements l k t := fun l k ⟨v, ha, _⟩ => hv ⟨l, v, ha⟩
    cases poll_cases (Reachable.tame hr) t with
    | absent _ he => rw [he]; exact hW
    | ended a _ _ he =>
      rw [he]
      intro l k hk hd
      obtain ⟨tw, ht⟩ := hW l k hk hd
      have hne : tw ≠ t := by
        rintro rfl
        exact hn l k ht
      obtain ⟨v, ha, hp, hro⟩ := ht
      exact ⟨tw, v, ha, hp.unmoved ⟨rfl, rfl, rfl, rfl, rfl⟩, hro.mono rfl (runnable_dismiss hne)⟩
    | turn w' a a' hT hq =>
      exact hW.turn hr hT hq fun l k k' _ ht => absurd ht (hn l k)

/-! ### The passage of time -/

/-- Time passes, and the loop keeps up with it. -/
theorem Tended.advance (h : w.Tended w.engagements l k t) (hr : ¬ w.Runnable t) :
    w.advance.Tended w.advance.engagements l k t := by
  obtain ⟨v, ha, hp, hro⟩ := h
  have hl := later_advance w
  have hn : w.now ≤ w.advance.now := Nat.mul_le_mul_right _ hl.le
  have hg : w.advance.ledger = { w.ledger with now := w.advance.now } := by
    rw [hl.quiet.ledger]
    rfl
  rw [hl.engagements]
  refine ⟨v, by rw [hl.activity?]; exact ha, ?_, ?_⟩
  · cases hp with
    | start hf => exact absurd hro hr
    | tick hd hle hf ht =>
      refine .tick hd (clock_advance_le (mem_dues ha List.mem_cons_self) hle) ?_ ht
      rw [hg]
      exact hf.later hn
    | look h => exact .look (Nat.le_trans h (Nat.add_le_add_right hn _))
    | queued h => exact .queued (Nat.le_trans h (Nat.add_le_add_right hn _))
    | renewing hb hs ht =>
      refine .renewing (Nat.le_trans hb hn) ?_ ht
      rw [hg]
      exact hs.later _
  · cases v with
    | renewalStart => exact absurd hro hr
    | renewalTick tick timer n => exact fun hd => runnable_advance ha List.mem_cons_self hd
    | _ => trivial

/-- In every reachable world every lock whose renewal loop has to be at work has one. -/
theorem watched_reachable (h : Reachable A w) : w.Watched A := by
  induction h with
  | refl =>
    intro l k hk
    cases hk
  | @tail w w' hr hn ih =>
    cases hn with
    | spawn s hs =>
      intro l k hk hd
      obtain ⟨tw, v, ha, hp, hro⟩ := ih l k hk hd
      have hf := frame_spawn (w := w) hs
      refine ⟨tw, v, hf.kept tw _ ha, ?_, hro.mono hf.clock (hf.runnable tw)⟩
      rw [hf.engagements]
      exact hp.unmoved ⟨rfl, rfl, rfl, rfl, rfl⟩
    | poll t => exact ih.poll hr t
    | draw ds =>
      intro l k hk hd
      obtain ⟨tw, v, ha, hp, hro⟩ := ih l k hk hd
      exact ⟨tw, v, ha, hp.unmoved ⟨rfl, rfl, rfl, rfl, rfl⟩, hro.mono rfl id⟩
    | advance hready hyield =>
      intro l k hk hd
      rw [(later_advance _).quiet.locks] at hk
      obtain ⟨tw, ht⟩ := ih l k hk hd
      refine ⟨tw, ht.advance fun hrun => ?_⟩
      rw [Runnable, hready, hyield] at hrun
      rcases hrun with hrun | hrun <;> cases hrun

/-! ### The age of a lease -/

/-- A call that gave the lock its lease, or renewed it, was sent less than the term ago. -/
def Young (w : World) (k : Lock) : Prop :=
  ∃ rec ∈ w.log, k.core.Grants rec ∧ w.now < rec.time + .ofSeconds k.term.wholeSeconds

/-- A grant that a tick was counted from is young as long as the tick is not over. -/
theorem young_of_fresh (hk : w.locks[l]? = some k) (hs : k.stage = .acquired)
    (hf : w.ledger.Fresh E l b)
    (hn : w.now.nanos < b.nanos + k.term.renewalPeriod.nanos + Span.perMilli) : w.Young k := by
  obtain ⟨rec, hm, hg, hb⟩ := hf.granted k.core (core?_ledger hk) hs
  refine ⟨rec, hm, hg, ?_⟩
  have hb : b.nanos ≤ rec.time.nanos := hb
  have hp := k.term.renewalPeriod_lt
  rw [Span.lt_def, Span.nanos_add]
  omega

/-- While nobody is at the critical section of an acquired lock with a renewal loop, its lease is
younger than the term. -/
theorem young_or_first (h : Reachable A w) (hk : w.locks[l]? = some k) (hd : Due A k)
    (hs : k.stage = .acquired) : w.Young k ∨ ∃ t, w.First l t := by
  obtain ⟨t, v, ha, hp, -⟩ := watched_reachable h l k hk hd
  have engaged : ∀ e, v.engagement l = some e → e.lock? = some l → ∃ t, w.First l t := by
    intro e he hl
    refine exists_first h hk (t := t) ?_
    rw [engagements_eq, ha]
    show (v.engagement l).bind _ = _
    rw [he]
    exact hl
  cases hp with
  | start hf =>
    refine .inl (young_of_fresh hk hs hf ?_)
    simp only [Span.perMilli]
    omega
  | @tick tick timer n b hdue hle hf ht =>
    refine .inl (young_of_fresh hk hs hf ?_)
    -- the clock has not passed the tick, and that is rounded up by less than a millisecond
    have hc : w.now ≤ .ofMillis tick.ceilMillis := Nat.mul_le_mul_right _ (hdue ▸ hle)
    have hr := tick.ceilMillis_lt
    rw [Span.le_def] at hc ht
    rw [Span.nanos_add] at ht
    omega
  | look | queued | renewing => exact .inr (engaged _ rfl rfl)

/-- The task waits for the answer to a renewal of the lock. -/
def Renews (w : World) (l : LockId) (t : TaskId) : Prop :=
  ∃ r n co, w.engagements t = some (.calling l .renew r n co)

/-- The call of an acquired lock that is on its way is a renewal. -/
theorem renews_of_inFlight (h : Reachable A w) (hk : w.locks[l]? = some k)
    (hs : k.stage = .acquired) (hf : w.InFlight l t) : w.Renews l t := by
  obtain ⟨call, r, n, co, he⟩ := hf
  obtain ⟨k', hk', -, hst, -⟩ := (answerable_reachable h).inside t l call r n co he
  obtain rfl := Option.some.inj ((core?_ledger hk).symm.trans hk')
  have hst : k.stage = call.during := hst
  rw [hs] at hst
  cases call with
  | acquire => cases hst
  | renew => exact ⟨r, n, co, he⟩
  | release => cases hst

/-- A lock with a renewal loop that is in use was granted its lease by a call that was sent less
than the term ago, and so was the latest grant, unless a task is at its critical section and waits
for the answer to a renewal or is about to have its turn at this instant. -/
theorem lease_age (h : Reachable A w) (hk : w.locks[l]? = some k) (hr : Renewed A k.id)
    (hu : k.InUse) : w.Young k ∨ ∃ t, w.First l t ∧ (w.Renews l t ∨ w.Runnable t) := by
  obtain ⟨hs, hc⟩ := hu
  have hd : Due A k := ⟨hr, hc, by rw [hs]; decide⟩
  rcases young_or_first h hk hd hs with hy | ⟨t, hf⟩
  · exact .inl hy
  · refine .inr ⟨t, hf, ?_⟩
    rcases flowing_reachable h l t hf with hrun | hfl
    · exact .inr hrun
    · exact .inl (renews_of_inFlight h hk hs hfl)

/-! ### A lease in use, and a stale one -/

/-- The scripts that build every lock with a renewal loop. -/
def WithRenewal : Step → Prop
  | .create _ _ _ behaviors _ _ => .renewal ∈ behaviors
  | _ => True

theorem renewed_withRenewal (id : LeaseId) : Renewed WithRenewal id := fun _ _ _ _ _ h => h

theorem exists_inUse (h : (w.locks[0]?.map fun k => decide k.InUse) = some true) :
    ∃ k, w.locks[0]? = some k ∧ k.InUse := by
  obtain ⟨k, hk, hu⟩ := Option.map_eq_some_iff.1 h
  exact ⟨k, hk, of_decide_eq_true hu⟩

/-- A lock has been in use for almost two terms. -/
def inUse : World :=
  turn^[12] (ofScript [.create "a" "alpha" (.ofSeconds 15) [.renewal] "p" ⟨"i"⟩, .lock "a",
    .sleep (.ofSeconds 29)])

theorem reachable_inUse : Reachable WithRenewal inUse :=
  reachable_ofScript (by simp [Step.Within, Step.AllWithin, WithRenewal]) 12

theorem queues_inUse : inUse.queues = [[]] := by decide +kernel

/-- The lease of a lock that has been in use for almost two terms is younger than one. -/
theorem lease_age_inUse : inUse.clock = 29000 ∧
    ∃ k, inUse.locks[0]? = some k ∧ k.InUse ∧ inUse.Young k := by
  obtain ⟨k, hk, hu⟩ := exists_inUse (w := inUse) (by decide +kernel)
  refine ⟨by decide +kernel, k, hk, hu, ?_⟩
  rcases lease_age reachable_inUse hk (renewed_withRenewal _) hu with hy | ⟨t, ⟨q, hq, ht⟩, -⟩
  · exact hy
  · -- nobody is at the critical section
    rw [queues_inUse] at hq
    cases hq
    cases ht

/-- The first renewal of a lock takes ten minutes to arrive. -/
def stalled : World :=
  turn^[9] (ofScript [.create "a" "alpha" (.ofSeconds 15) [.renewal] "p" ⟨"i"⟩,
    .plan .renew ⟨.ofSeconds 600, none, .zero, none⟩ 1, .lock "a", .sleep (.ofSeconds 30)])

theorem reachable_stalled : Reachable WithRenewal stalled :=
  reachable_ofScript (by simp [Step.Within, Step.AllWithin, WithRenewal]) 9

theorem log_stalled : ∀ rec ∈ stalled.log, rec.time + .ofSeconds 15 ≤ stalled.now := by
  have h : (stalled.log.map (·.time)).all fun b => b + .ofSeconds 15 ≤ stalled.now := by
    decide +kernel
  intro rec hm
  exact of_decide_eq_true (List.all_eq_true.1 h _ (List.mem_map_of_mem hm))

/-- While a renewal is on its way, the lease can be as old as its term and the lock still be in
use. -/
theorem stale_lease : Reachable WithRenewal stalled ∧ ∃ k, stalled.locks[0]? = some k ∧
    Renewed WithRenewal k.id ∧ k.InUse ∧ k.lossCell.loss = none ∧ ¬ stalled.Young k := by
  obtain ⟨k, hk, hu⟩ := exists_inUse (w := stalled) (by decide +kernel)
  have hl : (stalled.locks[0]?.map (·.lossCell.loss)) = some none := by decide +kernel
  have ht : (stalled.locks[0]?.map (·.term.wholeSeconds)) = some 15 := by decide +kernel
  rw [hk] at hl ht
  refine ⟨reachable_stalled, k, hk, renewed_withRenewal _, hu, Option.some.inj hl, ?_⟩
  rintro ⟨rec, hm, -, hy⟩
  have ht : k.term.wholeSeconds = 15 := Option.some.inj ht
  rw [ht] at hy
  exact Nat.not_lt.2 (log_stalled rec hm) hy

end World

end Leasehold
