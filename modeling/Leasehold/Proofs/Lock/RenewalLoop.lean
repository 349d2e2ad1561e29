import Leasehold.Proofs.Lock.Freshness

/-!
# The pace of the renewal loop

Whatever phase the renewal loop of a lock is in, it says how old the lease can be.  While the loop
waits for a tick, the tick comes within a period of the call by which the lock was last granted its
lease; while it is at the critical section or renews, the tick after that comes within a period of
the renewal.

* `World.Paced`: what each phase says.
* `World.resumed_resumeWatcher`: a turn of the loop leads to such a phase again, or the lock is
  cancelled or released.
-/

namespace Leasehold.World

variable {t : TaskId} {w w' : World} {l : LockId} {k : Lock}
  {E : TaskId → Option Engagement} {b : Span}

/-! ### Calls and their records -/

/-- The call of a request that was not sent before an instant is on its way or answered. -/
structure Underway (r : Request) (b : Span) (y : World × Poll Flight Answer) : Prop where
  answered : ∀ a, y.2 = .done a → ∃ rec ∈ y.1.log, rec.answer = some a ∧ rec.request = r ∧
    b ≤ rec.time
  sent : ∀ f, y.2 = .waiting f → y.1.ledger.Sent f.record r b

section Underway

variable {r : Request} {n : Nat}

theorem underway_answered (h : w.ledger.Sent n r b) (a : Answer) :
    Underway r b (w.answered n a, .done a) where
  answered a' ha := by
    cases ha
    obtain ⟨rec, hrec, hreq, hb⟩ := h
    refine ⟨{ rec with answer := some a }, List.mem_of_getElem? (i := n) ?_, rfl, hreq, hb⟩
    have hrec' : w.log[n]? = some rec := hrec
    show (w.log.modify n _)[n]? = _
    rw [List.getElem?_modify, hrec']
    simp
  sent f hf := by cases hf

theorem underway_waiting {f : Flight} (h : w.ledger.Sent f.record r b) :
    Underway r b (w, .waiting f) where
  answered a ha := by cases ha
  sent f' hf := by cases hf; exact h

theorem underway_arrive (h : w.ledger.Sent n r b) (r' : Request) (p : Plan) :
    Underway r b (w.arrive n r' p) := by
  have hs : (w.settleCall r' p).1.ledger.Sent n r b := by rwa [ledger_settleCall]
  unfold arrive
  dsimp only
  split
  · exact underway_answered hs _
  · exact underway_waiting hs

theorem underway_issue (r : Request) : Underway r w.now (w.issue r) := by
  have hs : (w.sent r).ledger.Sent w.log.length r w.now := by
    refine ⟨⟨w.now, r, none⟩, ?_, rfl, Nat.le_refl _⟩
    show (w.sent r).log[w.log.length]? = _
    rw [log_sent, List.getElem?_concat_length]
  have hl : (w.takePlan r.operation).1.log.length = w.log.length := by rw [log_takePlan]
  unfold issue
  dsimp only
  rw [hl]
  split
  · exact underway_arrive hs r _
  · exact underway_waiting hs

theorem underway_fly {f : Flight} (h : w.ledger.Sent f.record r b) : Underway r b (w.fly f) := by
  unfold fly
  split
  · split
    · exact underway_arrive h _ _
    · exact underway_answered h _
  · exact underway_waiting h

end Underway

/-! ### Reading the stage -/

/-- A visit that reads the stage has come to `y`. -/
structure Observed (w : World) (t : TaskId) (l : LockId) (k : Lock) (y : World × Poll Entry Reply) :
    Prop where
  /-- The answer is the stage, given to a task that was first at the critical section. -/
  answer : ∀ r, y.2 = .done r → r = .ok k.stage ∧ y.1.AtStage l k.stage ∧
    ∀ t', k.queue.head? = some t' → t' = t
  waits : ∀ e, y.2 = .waiting e → e = .queued .observe

theorem observed_visit (hk : w.locks[l]? = some k) :
    Observed w t l k (w.visit t l .observe) := by
  rcases visit_cases (t := t) hk .observe with ⟨hq, hv⟩ | ⟨-, hv⟩ <;> rw [hv]
  · have hk' := getElem?_enqueued hk t
    rw [enter_observe hk']
    refine ⟨fun r hr => ?_, fun e he => by cases he⟩
    cases hr
    refine ⟨rfl, AtStage.leave ⟨_, hk', rfl⟩ t l, fun t' ht' => ?_⟩
    rw [hq] at ht'
    cases ht'
  · exact ⟨fun r hr => (by cases hr), fun e he => by cases he; rfl⟩

theorem observed_resumeEntry (hk : w.locks[l]? = some k) :
    Observed w t l k (w.resumeEntry t l (.queued .observe)) := by
  rcases resumeQueued_cases (t := t) hk .observe with ⟨hq, hv⟩ | ⟨-, hv⟩ <;> rw [hv]
  · rw [enter_observe hk]
    refine ⟨fun r hr => ?_, fun e he => by cases he⟩
    cases hr
    exact ⟨rfl, AtStage.leave ⟨k, hk, rfl⟩ t l, fun t' ht' => Option.some.inj (ht'.symm.trans hq)⟩
  · exact ⟨fun r hr => (by cases hr), fun e he => by cases he; rfl⟩

/-! ### Renewing -/

/-- The log has a grant of a request that was not sent before an instant. -/
def Granted (w : World) (r : Request) (b : Span) : Prop :=
  ∃ rec ∈ w.log, rec.answer = some (.ok ()) ∧ rec.request = r ∧ b ≤ rec.time

/-- A visit that renews a lease has come to `y`, with a call that was not sent before an instant. -/
structure Renewing (r : Request) (b : Span) (y : World × Poll Entry Reply) : Prop where
  granted : ∀ s, y.2 = .done (.ok s) → y.1.Granted r b
  waits : ∀ e, y.2 = .waiting e → e = .queued .renew ∨
    ∃ f n, e = .renewing f n ∧ y.1.ledger.Sent f.record r b

section Renewing

variable {r : Request}

theorem renewing_error (e : LockFailure) : Renewing r b (w, .done (.error e)) where
  granted s hs := by cases hs
  waits e' he := by cases he

theorem renewing_queued : Renewing r b (w, .waiting (.queued .renew)) where
  granted s hs := by cases hs
  waits e he := by cases he; exact .inl rfl

theorem renewing_underway {f : Flight} (h : w.ledger.Sent f.record r b) (n : Nat) :
    Renewing r b (w, .waiting (.renewing f n)) where
  granted s hs := by cases hs
  waits e he := by cases he; exact .inr ⟨f, n, rfl, h⟩

theorem renewing_takeAnswer {a : Answer} (h : Underway r b (w, .done a)) :
    Renewing r b (w.takeAnswer t l k .renew a) := by
  cases a with
  | ok u =>
    obtain ⟨rec, hm, ha, hr, hb⟩ := h.answered _ rfl
    refine ⟨fun s hs => ⟨rec, ?_, ha, hr, hb⟩, fun e he => by cases he⟩
    show rec ∈ (w.leave t l).log
    rw [(quiet_leave w t l).log]
    exact hm
  | error e => exact renewing_error _

theorem renewing_enter (hk : w.locks[l]? = some k) :
    Renewing (k.request .renew) w.now (w.enter t l .renew) := by
  have hu := underway_issue (w := w) (k.request .renew)
  have hl := letIn_enter (t := t) hk .renew
  generalize w.enter t l .renew = y at hl ⊢
  cases hl with
  | observed he | releasing he | timeout he => cases he
  | refused => exact renewing_error _
  | answered hs =>
    cases hs.errand
    rw [hs.issued_staying hk (by decide)] at hu
    exact renewing_takeAnswer hu
  | @waiting _ w' f _ hs hc ha =>
    cases hs.errand
    rw [hs.issued_staying hk hc] at hu
    have hsent : w'.takeTicket.1.ledger.Sent f.record (k.request .renew) w.now := hu.sent f rfl
    cases ha
    exact renewing_underway hsent _

theorem renewing_visit (hk : w.locks[l]? = some k) :
    Renewing (k.request .renew) w.now (w.visit t l .renew) := by
  rcases visit_cases (t := t) hk .renew with ⟨-, hv⟩ | ⟨-, hv⟩ <;> rw [hv]
  · exact renewing_enter (getElem?_enqueued hk t)
  · exact renewing_queued

/-- A renewal that waits for its turn goes on. -/
theorem renewing_resumeQueued (hk : w.locks[l]? = some k) :
    Renewing (k.request .renew) w.now (w.resumeEntry t l (.queued .renew)) ∧
      ∀ s, (w.resumeEntry t l (.queued .renew)).2 = .done s → k.queue.head? = some t := by
  rcases resumeQueued_cases (t := t) hk .renew with ⟨hq, hv⟩ | ⟨-, hv⟩ <;> rw [hv]
  · exact ⟨renewing_enter hk, fun _ _ => hq⟩
  · exact ⟨renewing_queued, fun s hs => by cases hs⟩

/-- A renewal that waits for its answer goes on. -/
theorem renewing_resumeCall {f : Flight} {n : Nat} (h : w.ledger.Sent f.record r b) :
    Renewing r b (w.resumeEntry t l (.renewing f n)) := by
  cases hk : w.locks[l]? with
  | none =>
    rw [resumeEntry_of_none hk]
    exact renewing_error _
  | some k =>
    have hu := underway_fly h
    have hr := goesOn_resumeEntry (t := t) hk (.renewing f n)
    generalize w.resumeEntry t l (.renewing f n) = y at hr ⊢
    cases hr with
    | answered ha hy =>
      cases ha
      rw [hy] at hu
      exact renewing_takeAnswer hu
    | waiting ha _ hy _ ha' =>
      cases ha
      cases ha'
      rw [hy] at hu
      exact renewing_underway (hu.sent _ rfl) _
    | interrupted => exact renewing_error _

end Renewing

/-! ### The phases of the loop -/

/-- The lock has a renewal period, and a request by which it renews. -/
def Paces (w : World) (l : LockId) (period : Span) (r : Request) : Prop :=
  ∃ k, w.locks[l]? = some k ∧ k.term.renewalPeriod = period ∧ k.request .renew = r

/-- What the phase of the renewal loop of a lock says of the lease. -/
inductive Paced (w : World) (E : TaskId → Option Engagement) (l : LockId) (period : Span)
    (r : Request) : Watcher → Prop
  | start : w.ledger.Fresh E l w.now → Paced w E l period r .renewalStart
  /-- The tick is not over, and it comes within a period. -/
  | tick {tick timer n b} : timer.due = tick.ceilMillis → w.clock ≤ timer.due →
      w.ledger.Fresh E l b → tick ≤ b + period → Paced w E l period r (.renewalTick tick timer n)
  | look {next} : next ≤ w.now + period →
      Paced w E l period r (.renewalLook next (.queued .observe))
  | queued {next} : next ≤ w.now + period →
      Paced w E l period r (.renewalCall next (.queued .renew))
  | renewing {next f n b} : b ≤ w.now → w.ledger.Sent f.record r b → next ≤ b + period →
      Paced w E l period r (.renewalCall next (.renewing f n))

/-- The loop is about to have its turn if it has something to do. -/
def Roused (w : World) (t : TaskId) : Watcher → Prop
  | .renewalStart => w.Runnable t
  | .renewalTick _ timer _ => timer.due ≤ w.clock → w.Runnable t
  | _ => True

/-- The lock is cancelled or released. -/
def Over (w : World) (l : LockId) : Prop := w.isCancelled l = true ∨ w.AtStage l .released

/-- A turn of the loop has come to `y`. -/
structure Resumed (E : TaskId → Option Engagement) (t : TaskId) (l : LockId) (period : Span)
    (r : Request) (y : World × Poll Watcher Unit) : Prop where
  paced : ∀ v, y.2 = .waiting v → y.1.Paced (Function.update E t (v.engagement l)) l period r v
  roused : ∀ v, y.2 = .waiting v → y.1.Roused t v
  ends : ∀ u, y.2 = .done u → y.1.Over l

/-- A round of the loop has come to `y`. -/
structure Rounded (E : TaskId → Option Engagement) (t : TaskId) (l : LockId) (period : Span)
    (r : Request) (y : World × Round) : Prop where
  halted : ∀ p, y.2 = .halted p → Resumed E t l period r (y.1, p)
  next : ∀ tick, y.2 = .next tick → Ledger.Alone E t l ∧
    ∃ b, y.1.ledger.Fresh (Function.update E t none) l b ∧ tick ≤ b + period

section Loop

variable {period tick : Span} {r : Request}

theorem Paces.outlives (h : w.Paces l period r) (ho : w.Outlives w') : w'.Paces l period r := by
  obtain ⟨k, hk, rfl, rfl⟩ := h
  obtain ⟨k', hk', he⟩ := ho l k hk
  exact ⟨k', hk', by rw [he.term], by rw [Lock.request, Lock.request, he.name, he.id]⟩

/-- Time stands still, and nothing of the locks is taken back. -/
structure Instantly (w w' : World) : Prop where
  clock : w'.clock = w.clock
  outlives : w.Outlives w'

theorem Instantly.now (h : w.Instantly w') : w'.now = w.now := by
  rw [World.now, h.clock, World.now]

theorem instantly_of_moves {x y : World × Option Engagement}
    (h : Moves (fun _ => True) (fun _ => True) t x y) : x.1.Instantly y.1 :=
  ⟨h.frame.clock, h.outlives⟩

theorem instantly_visit (errand : Errand) : w.Instantly (w.visit t l errand).1 :=
  instantly_of_moves (visit_stretch errand).moves

theorem instantly_resumeEntry (e : Entry) : w.Instantly (w.resumeEntry t l e).1 :=
  instantly_of_moves (resumeEntry_stretch e).moves

theorem Instantly.trans {w'' : World} (h : w.Instantly w') (h' : w'.Instantly w'') :
    w.Instantly w'' :=
  ⟨h'.clock.trans h.clock, h.outlives.trans h'.outlives⟩

theorem Instantly.refl (w : World) : w.Instantly w := ⟨rfl, .refl w⟩

theorem instantly_afterRenewal (rep : Reply) : w.Instantly (w.afterRenewal l tick rep).1 := by
  cases rep with
  | ok s => exact .refl w
  | error e =>
    unfold afterRenewal
    dsimp only
    split
    · exact .refl w
    · exact ⟨(quiet_raiseLoss w l _).clock, outlives_raiseLoss _⟩

theorem instantly_afterLook (rep : Reply) : w.Instantly (w.afterLook t l tick rep).1 := by
  unfold afterLook
  split
  · have h := instantly_visit (t := t) (w := w) (l := l) .renew
    rcases hy : w.visit t l .renew with ⟨w', e | rep⟩ <;> rw [hy] at h
    · exact h
    · exact h.trans (instantly_afterRenewal rep)
  · exact .refl w
  · exact .refl w

theorem instantly_takeTick : w.Instantly (w.takeTick t l tick period).1 :=
  instantly_of_moves (takeTick_stretch trivial tick period).moves

theorem resumed_waiting {v : Watcher}
    (h : w.Paced (Function.update E t (v.engagement l)) l period r v) (hr : w.Roused t v) :
    Resumed E t l period r (w, .waiting v) where
  paced v' hv := by cases hv; exact h
  roused v' hv := by cases hv; exact hr
  ends u hu := by cases hu

theorem resumed_over (h : w.Over l) : Resumed E t l period r (w, .done ()) where
  paced v hv := by cases hv
  roused v hv := by cases hv
  ends _ _ := h

theorem rounded_halted {p : Poll Watcher Unit} (h : Resumed E t l period r (w, p)) :
    Rounded E t l period r (w, .halted p) where
  halted p' hp := by cases hp; exact h
  next tick ht := by cases ht

theorem rounded_next (ha : Ledger.Alone E t l)
    (hf : w.ledger.Fresh (Function.update E t none) l b) (ht : tick ≤ b + period) :
    Rounded E t l period r (w, .next tick) where
  halted p hp := by cases hp
  next tick' ht' := by cases ht'; exact ⟨ha, b, hf, ht⟩

/-- A lock whose renewal was granted is as fresh as the renewal. -/
theorem fresh_of_granted (hl : w.Paces l period r) (ha : Ledger.Alone E t l) (hb : b ≤ w.now)
    (hg : w.Granted r b) : w.ledger.Fresh (Function.update E t none) l b := by
  obtain ⟨k, hk, -, rfl⟩ := hl
  obtain ⟨rec, hm, hok, hreq, hrec⟩ := hg
  refine ha.fresh hb (fun c hc _ => ⟨rec, hm, ⟨hok, .inr ?_⟩, hrec⟩) (fun _ _ _ h => by cases h)
  obtain rfl := Option.some.inj ((core?_ledger hk).symm.trans hc)
  rw [hreq, k.request_core]

/-- A lock that is idle has no lease that could be old. -/
theorem fresh_of_idle (hs : w.AtStage l .idle) (ha : Ledger.Alone E t l) :
    w.ledger.Fresh (Function.update E t none) l w.now := by
  obtain ⟨k, hk, hi⟩ := hs
  refine ha.fresh (Nat.le_refl _) (fun c hc hacq => ?_) (fun _ _ _ h => by cases h)
  obtain rfl := Option.some.inj ((core?_ledger hk).symm.trans hc)
  cases hacq.symm.trans hi

theorem over_raiseLoss (hk : w.locks[l]? = some k) (reason : String) :
    (w.raiseLoss l reason).Over l := by
  refine .inl ?_
  unfold isCancelled
  rw [(quiet_raiseLoss w l reason).locks, getElem?_updateLock, if_pos rfl, hk]
  rfl

theorem rounded_afterRenewal (hl : w.Paces l period r) (ha : Ledger.Alone E t l) {rep : Reply}
    (hr : ∀ s, rep = .ok s → w.ledger.Fresh (Function.update E t none) l b)
    (ht : tick ≤ b + period) : Rounded E t l period r (w.afterRenewal l tick rep) := by
  cases rep with
  | ok s => exact rounded_next ha (hr s rfl) ht
  | error e =>
    obtain ⟨k, hk, -⟩ := hl
    unfold afterRenewal
    dsimp only
    by_cases hc : w.isCancelled l = true
    · rw [if_pos hc]
      exact rounded_halted (resumed_over (.inl hc))
    · rw [if_neg hc]
      exact rounded_halted (resumed_over (over_raiseLoss hk _))

theorem rounded_afterLook {s : Stage} (hl : w.Paces l period r) (ha : Ledger.Alone E t l)
    (hs : w.AtStage l s) (ht : tick ≤ w.now + period) :
    Rounded E t l period r (w.afterLook t l tick (.ok s)) := by
  cases s with
  | idle => exact rounded_next ha (fresh_of_idle hs ha) ht
  | released => exact rounded_halted (resumed_over (.inr hs))
  | acquired =>
    obtain ⟨k, hk, hper, rfl⟩ := hl
    have hi := instantly_visit (t := t) (w := w) (l := l) .renew
    have hv := renewing_visit (t := t) hk
    unfold afterLook
    dsimp only
    rcases hy : w.visit t l .renew with ⟨w', e | rep⟩ <;> rw [hy] at hv hi
    · refine rounded_halted ?_
      rcases hv.waits e rfl with rfl | ⟨f, n, rfl, hf⟩
      · exact resumed_waiting (.queued (by rw [hi.now]; exact ht)) trivial
      · exact resumed_waiting (.renewing (by rw [hi.now]; exact Nat.le_refl _) hf ht) trivial
    · -- the renewal was sent in this very turn, so the lease is as young as can be
      have hl' : w'.Paces l period (k.request .renew) :=
        Paces.outlives ⟨k, hk, hper, rfl⟩ hi.outlives
      refine rounded_afterRenewal hl' ha (fun s hs => ?_) ht
      exact fresh_of_granted hl' ha (by rw [hi.now]; exact Nat.le_refl _)
        (hv.granted s (congrArg Poll.done hs))

theorem nextTick_le (ht : tick ≤ w.now) : w.nextTick tick period ≤ w.now + period := by
  unfold nextTick
  split
  · exact Nat.le_refl _
  · exact Nat.add_le_add_right ht _

/-- The tick after one that is taken lies ahead. -/
theorem clock_lt_nextTick (hp : tickTolerance < period) :
    w.clock < (w.nextTick tick period).ceilMillis := by
  by_contra hle
  have hle := (Span.ceilMillis_le_iff _ _).1 (Nat.le_of_not_lt hle)
  change w.nextTick tick period ≤ w.now at hle
  unfold nextTick at hle
  -- a late tick is counted from now, and any other is late by less than a period
  simp only [Span.lt_def, Span.le_def] at hp hle
  split at hle <;> simp only [Span.nanos_add] at * <;> omega

theorem rounded_takeTick (hl : w.Paces l period r)
    (ha : ∀ k, w.locks[l]? = some k → (∀ t', k.queue.head? = some t' → t' = t) →
      Ledger.Alone E t l) (ht : tick ≤ w.now) :
    Rounded E t l period r (w.takeTick t l tick period) := by
  obtain ⟨k, hk, hpr⟩ := hl
  have hi := instantly_visit (t := t) (w := w) (l := l) .observe
  have hv := observed_visit (t := t) hk
  unfold takeTick
  dsimp only
  rcases hy : w.visit t l .observe with ⟨w', e | rep⟩ <;> rw [hy] at hv hi
  · obtain rfl := hv.waits e rfl
    exact rounded_halted (resumed_waiting (.look (by rw [hi.now]; exact nextTick_le ht)) trivial)
  · obtain ⟨rfl, hs, hq⟩ := hv.answer rep rfl
    exact rounded_afterLook (Paces.outlives ⟨k, hk, hpr⟩ hi.outlives) (ha k hk hq) hs
      (by rw [hi.now]; exact nextTick_le ht)

theorem next_afterRenewal {rep : Reply} {later : Span}
    (h : (w.afterRenewal l tick rep).2 = .next later) : later = tick := by
  unfold afterRenewal at h
  split at h
  · cases h
    rfl
  · split at h <;> cases h

theorem next_afterLook {rep : Reply} {later : Span}
    (h : (w.afterLook t l tick rep).2 = .next later) : later = tick := by
  unfold afterLook at h
  split at h
  · rcases hy : w.visit t l .renew with ⟨w', e | rep⟩ <;> rw [hy] at h
    · cases h
    · exact next_afterRenewal h
  · cases h
    rfl
  · cases h

theorem next_takeTick {later : Span} (h : (w.takeTick t l tick period).2 = .next later) :
    later = w.nextTick tick period := by
  unfold takeTick at h
  dsimp only at h
  rcases hy : w.visit t l .observe with ⟨w', e | rep⟩ <;> rw [hy] at h
  · cases h
  · exact next_afterLook h

theorem clock_lt_takeTick (hp : tickTolerance < period) (later : Span)
    (h : (w.takeTick t l tick period).2 = .next later) :
    (w.takeTick t l tick period).1.clock < later.ceilMillis := by
  have hc : (w.takeTick t l tick period).1.clock = w.clock :=
    instantly_takeTick.clock
  rw [hc, next_takeTick h]
  exact clock_lt_nextTick hp

/-- The loop waits for a tick that lies ahead. -/
theorem resumed_holdTick (hf : w.ledger.Fresh (Function.update E t none) l b)
    (ht : tick ≤ b + period) (hc : w.clock < tick.ceilMillis) :
    Resumed E t l period r (w.holdTick l tick) := by
  unfold holdTick
  by_cases hx : w.isCancelled l = true
  · rw [if_pos hx]
    exact resumed_over (.inl hx)
  · rw [if_neg hx]
    exact resumed_waiting (.tick rfl (Nat.le_of_lt hc) hf ht) fun hd => absurd hd (Nat.not_le.2 hc)

theorem resumed_endRound (hp : tickTolerance < period) {round : Round} (hl : w.Paces l period r)
    (h : Rounded E t l period r (w, round)) :
    Resumed E t l period r (w.endRound t l period round) := by
  cases round with
  | halted p => exact h.halted p rfl
  | next tick =>
    obtain ⟨ha, b, hf, ht⟩ := h.next tick rfl
    unfold endRound
    dsimp only
    by_cases hx : w.isCancelled l = true
    · rw [if_pos hx]
      exact resumed_over (.inl hx)
    · rw [if_neg hx]
      by_cases hd : tick.ceilMillis ≤ w.clock
      · -- the call took longer than the tick: it is taken at once, and the next one lies ahead
        rw [if_pos hd]
        have hn : tick ≤ w.now := (Span.ceilMillis_le_iff _ _).1 hd
        have hr := rounded_takeTick hl (fun _ _ _ => ha) hn
        have hlater : ∀ later, (w.takeTick t l tick period).2 = .next later →
            (w.takeTick t l tick period).1.clock < later.ceilMillis := clock_lt_takeTick hp
        rcases hy : w.takeTick t l tick period with ⟨w', p | later⟩ <;> rw [hy] at hr hlater
        · exact hr.halted p rfl
        · obtain ⟨-, b', hf', ht'⟩ := hr.next later rfl
          exact resumed_holdTick hf' ht' (hlater later rfl)
      · rw [if_neg hd]
        exact resumed_holdTick hf ht (Nat.lt_of_not_le hd)

/-- The loop begins. -/
theorem resumed_start (hp : tickTolerance < period) (hl : w.Paces l period r)
    (hf : w.ledger.Fresh (Function.update E t none) l w.now) :
    Resumed E t l period r (w.resumeWatcher t l .renewalStart) := by
  obtain ⟨k, hk, rfl, rfl⟩ := id hl
  unfold resumeWatcher
  rw [hk]
  refine resumed_holdTick hf (Nat.le_refl _) ?_
  by_contra hle
  have hle := (Span.ceilMillis_le_iff _ _).1 (Nat.le_of_not_lt hle)
  change w.now + k.term.renewalPeriod ≤ w.now at hle
  simp only [Span.lt_def, Span.le_def, Span.nanos_add] at hp hle
  omega

section Resume

variable {v : Watcher} (hp : tickTolerance < period) (hl : w.Paces l period r)
  (hA : w.ledger.Answerable E)
include hp hl hA

/-- The loop goes on after the wait for a tick. -/
theorem resumed_tick {timer : Timer} {n : Nat} (hE : Function.update E t none = E)
    (h : w.Paced E l period r (.renewalTick tick timer n)) :
    Resumed E t l period r (w.resumeWatcher t l (.renewalTick tick timer n)) := by
  have hw := h
  obtain ⟨k, hk, rfl, rfl⟩ := id hl
  unfold resumeWatcher
  rw [hk]
  dsimp only
  cases h with
  | tick hd hc hf ht =>
    by_cases hx : w.isCancelled l = true
    · rw [if_pos hx]
      exact resumed_over (.inl hx)
    · rw [if_neg hx]
      by_cases hfired : w.hasFired timer = true
      · rw [if_pos hfired]
        have hn : tick ≤ w.now := (Span.ceilMillis_le_iff _ _).1 (hd ▸ of_decide_eq_true hfired)
        exact resumed_endRound hp (hl.outlives instantly_takeTick.outlives)
          (rounded_takeTick hl (fun k hk hq => hA.alone (core?_ledger hk) hq) hn)
      · -- another wait has woken the task, and the loop is where it was
        rw [if_neg hfired]
        refine resumed_waiting ?_ fun hd => absurd (decide_eq_true hd) hfired
        rw [show Watcher.engagement l (.renewalTick tick timer n) = none from rfl, hE]
        exact hw

/-- The loop goes on after the wait for the critical section. -/
theorem resumed_look (ht : tick ≤ w.now + period) :
    Resumed E t l period r (w.resumeWatcher t l (.renewalLook tick (.queued .observe))) := by
  obtain ⟨k, hk, rfl, rfl⟩ := id hl
  have hi := instantly_resumeEntry (t := t) (w := w) (l := l) (.queued .observe)
  have hv := observed_resumeEntry (t := t) hk
  unfold resumeWatcher
  rw [hk]
  dsimp only
  rcases hy : w.resumeEntry t l (.queued .observe) with ⟨w', e | rep⟩ <;> rw [hy] at hi hv
  · obtain rfl := hv.waits e rfl
    exact resumed_waiting (.look (by rw [hi.now]; exact ht)) trivial
  · obtain ⟨rfl, hs, hq⟩ := hv.answer rep rfl
    have hl' := hl.outlives hi.outlives
    exact resumed_endRound hp (hl'.outlives (instantly_afterLook _).outlives)
      (rounded_afterLook hl' (hA.alone (core?_ledger hk) hq) hs (by rw [hi.now]; exact ht))

/-- The loop goes on after the wait for a renewal. -/
theorem resumed_renewal {e : Entry} (hb : b ≤ w.now) (ht : tick ≤ b + period)
    (hv : Renewing r b (w.resumeEntry t l e))
    (hq : ∀ rep, (w.resumeEntry t l e).2 = .done rep →
      ∃ k, w.locks[l]? = some k ∧ k.queue.head? = some t) :
    Resumed E t l period r (w.resumeWatcher t l (.renewalCall tick e)) := by
  obtain ⟨k, hk, rfl, rfl⟩ := id hl
  have hi := instantly_resumeEntry (t := t) (w := w) (l := l) e
  unfold resumeWatcher
  rw [hk]
  dsimp only
  rcases hy : w.resumeEntry t l e with ⟨w', e' | rep⟩ <;> rw [hy] at hi hv hq
  · rcases hv.waits e' rfl with rfl | ⟨f, n, rfl, hf⟩
    · have hn := Nat.le_trans ht (Nat.add_le_add_right hb _)
      exact resumed_waiting (.queued (by rw [hi.now]; exact hn)) trivial
    · exact resumed_waiting (.renewing (by rw [hi.now]; exact hb) hf ht) trivial
  · obtain ⟨k', hk', hh⟩ := hq rep rfl
    have ha : Ledger.Alone E t l := hA.alone (core?_ledger hk') fun t' ht' =>
      Option.some.inj (ht'.symm.trans hh)
    have hl' := hl.outlives hi.outlives
    refine resumed_endRound hp (hl'.outlives (instantly_afterRenewal _).outlives)
      (rounded_afterRenewal hl' ha (fun s hs => ?_) ht)
    exact fresh_of_granted hl' ha (by rw [hi.now]; exact hb)
      (hv.granted s (congrArg Poll.done hs))

/-- After a turn of the renewal loop it is in such a phase again, or the lock is over. -/
theorem resumed_resumeWatcher (he : E t = v.engagement l) (h : w.Paced E l period r v) :
    Resumed E t l period r (w.resumeWatcher t l v) := by
  have hE : v.engagement l = none → Function.update E t none = E := fun hn => by
    rw [← hn, ← he, Function.update_eq_self]
  cases id h with
  | start hf => exact resumed_start hp hl (by rw [hE rfl]; exact hf)
  | tick hd hc hf ht => exact resumed_tick hp hl hA (hE rfl) h
  | look hn => exact resumed_look hp hl hA hn
  | queued hn =>
    obtain ⟨k, hk, -, rfl⟩ := id hl
    have hv := renewing_resumeQueued (t := t) hk
    exact resumed_renewal hp hl hA (Nat.le_refl _) hn hv.1 fun rep hrep => ⟨k, hk, hv.2 rep hrep⟩
  | renewing hb hf hn =>
    refine resumed_renewal hp hl hA hb hn (renewing_resumeCall hf) fun _ _ => ?_
    obtain ⟨k, hk, -⟩ := hl
    obtain ⟨c, hc, hq, -⟩ := hA.inside t l _ _ _ _ he
    obtain rfl := Option.some.inj ((core?_ledger hk).symm.trans hc)
    exact ⟨k, hk, hq⟩

end Resume

end Loop

end Leasehold.World
