import Mathlib.Tactic.Common
import Leasehold.Proofs.World.Split

/-!
# The turns of a part

A task of a part does the same in its turn as it does in the whole world, and the rest of the world
is left as it is: acquisitions, watchers, the building of locks and the operations, one after the
other, and then `Split.poll`, the whole turn.
-/

namespace Leasehold.Split

variable {S : Setting} {c : Choice S} {R Q : Pairing} {x v w : World} {t u : TaskId} {l m : LockId}

/-! ### Acquisitions -/

theorem retryAfter (h : Split c R Q x v w) (hl : R.LockIs l m) (inner : Strategy) (b : Backoff)
    (r : Reply) : Joint (Split c R Q x) (Poll.Like Attempt.Like)
      (v.retryAfter l inner b r) (w.retryAfter m inner b r) := by
  cases r with
  | ok s => exact .mk h (.done _)
  | error e =>
    unfold World.retryAfter
    dsimp only
    split
    · obtain ⟨v₁, w₁, d, _, hv, hw, hs, rfl⟩ := h.takeDraw
      rw [hv, hw]
      dsimp only
      rw [hs.part.now]
      split
      · next delay b' _ =>
        obtain ⟨due, i, j, hv, hw, ht⟩ := hs.timer delay
        have hs' : Split c R Q x (v₁.timer delay).1.takeTicket.1 (w₁.timer delay).1.takeTicket.1 :=
          ht.ticket _ _
        have hc := hs'.isCancelled hl
        rw [hv, hw]
        unfold World.takeTicket at hs' hc ⊢
        dsimp only at hs' hc ⊢
        rw [hc]
        split
        · exact .mk hs' (.done _)
        · exact .mk hs' (.waiting (.pausing inner b' due i j _ _))
      · exact .mk hs (.done _)
    · exact .mk h (.done _)

theorem noteOutcome (h : Split c R Q x v w) (tag : String) (r : Reply) :
    Split c R Q x (v.noteOutcome tag r) (w.noteOutcome tag r) := by
  cases r with
  | ok s => exact h.note _ _
  | error e => exact h.note _ _

theorem startAttempt (h : Split c R Q x v w) (hl : R.LockIs l m) (t u : TaskId) (s : Strategy) :
    Joint (Split c R Q x) (Poll.Like Attempt.Like) (v.startAttempt t l s)
      (w.startAttempt u m s) := by
  induction s generalizing v w with
  | direct =>
    obtain ⟨v₁, w₁, r, hv, hw, hs⟩ := h.visit hl t u .acquire
    unfold World.startAttempt
    rw [hv, hw]
    exact .mk hs (.done r)
  | retry budget inner ih =>
    obtain ⟨v₁, w₁, p, q, hv, hw, hs, hp⟩ := ih h
    unfold World.startAttempt
    rw [hv, hw, h.part.now]
    cases hp with
    | waiting ha => exact .mk hs (.waiting (.retrying inner _ ha))
    | done r => exact hs.retryAfter hl inner _ r
  | wrap tag refuses inner ih =>
    have hn := h.note ("before " ++ tag) ("before " ++ tag)
    unfold World.startAttempt
    dsimp only
    split
    · exact .mk (hn.noteOutcome tag _) (.done _)
    · obtain ⟨v₁, w₁, p, q, hv, hw, hs, hp⟩ := ih hn
      rw [hv, hw]
      cases hp with
      | waiting ha => exact .mk hs (.waiting (.wrapping tag ha))
      | done r => exact .mk (hs.noteOutcome tag r) (.done r)

theorem resumeAttempt (h : Split c R Q x v w) (hl : R.LockIs l m) (t u : TaskId) {a a' : Attempt}
    (ha : a.Like a') : Joint (Split c R Q x) (Poll.Like Attempt.Like) (v.resumeAttempt t l a)
      (w.resumeAttempt u m a') := by
  induction ha generalizing v w with
  | pausing inner b due i j n o =>
    unfold World.resumeAttempt
    rw [h.hasFired due i j, h.isCancelled hl]
    split
    · obtain ⟨v₁, w₁, p, q, hv, hw, hs, hp⟩ := h.startAttempt hl t u inner
      rw [hv, hw]
      cases hp with
      | waiting ha => exact .mk hs (.waiting (.retrying inner b ha))
      | done r => exact hs.retryAfter hl inner b r
    · split
      · exact .mk h (.done _)
      · exact .mk h (.waiting (.pausing inner b due i j n o))
  | retrying inner b _ ih =>
    obtain ⟨v₁, w₁, p, q, hv, hw, hs, hp⟩ := ih h
    unfold World.resumeAttempt
    rw [hv, hw]
    cases hp with
    | waiting ha => exact .mk hs (.waiting (.retrying inner b ha))
    | done r => exact hs.retryAfter hl inner b r
  | wrapping tag _ ih =>
    obtain ⟨v₁, w₁, p, q, hv, hw, hs, hp⟩ := ih h
    unfold World.resumeAttempt
    rw [hv, hw]
    cases hp with
    | waiting ha => exact .mk hs (.waiting (.wrapping tag ha))
    | done r => exact .mk (hs.noteOutcome tag r) (.done r)

/-- A pause is given up without a trace. -/
theorem abandonAttempt (v w : World) (t u : TaskId) (l m : LockId) {a a' : Attempt}
    (ha : a.Like a') : v.abandonAttempt t l a = v ∧ w.abandonAttempt u m a' = w := by
  induction ha with
  | pausing => exact ⟨rfl, rfl⟩
  | retrying _ _ _ ih | wrapping _ _ ih => exact ih

theorem startLocking (h : Split c R Q x v w) (hl : R.LockIs l m) (t u : TaskId) :
    Joint (Split c R Q x) (Poll.Like Attempt.Like) (v.startLocking t l) (w.startLocking u m) := by
  obtain ⟨k, ws, hk, hk', -⟩ := h.lock hl
  unfold World.startLocking
  rw [hk, hk']
  exact h.startAttempt hl t u k.strategy

/-! ### Watchers -/

/-- Both rounds have come to the same. -/
inductive LikeRound : World.Round → World.Round → Prop
  | halted {p q : Poll Watcher Unit} : Poll.Like Watcher.Like p q →
      LikeRound (.halted p) (.halted q)
  | next (tick : Span) : LikeRound (.next tick) (.next tick)

theorem holdTick (h : Split c R Q x v w) (hl : R.LockIs l m) (tick : Span) :
    Joint (Split c R Q x) (Poll.Like Watcher.Like) (v.holdTick l tick) (w.holdTick m tick) := by
  unfold World.holdTick
  rw [h.isCancelled hl]
  split
  · exact .mk h (.done _)
  · exact .mk (h.ticket _ _) (.waiting (.renewalTick tick _ _ _ _ _))

theorem afterRenewal (h : Split c R Q x v w) (hl : R.LockIs l m) (tick : Span) (r : Reply) :
    Joint (Split c R Q x) LikeRound (v.afterRenewal l tick r) (w.afterRenewal m tick r) := by
  unfold World.afterRenewal
  rw [h.isCancelled hl]
  split
  · exact .mk h (.next tick)
  · split
    · exact .mk h (.halted (.done _))
    · exact .mk (h.raiseLoss hl _) (.halted (.done _))

theorem afterLook (h : Split c R Q x v w) (hl : R.LockIs l m) (t u : TaskId) (tick : Span)
    (r : Reply) :
    Joint (Split c R Q x) LikeRound (v.afterLook t l tick r) (w.afterLook u m tick r) := by
  unfold World.afterLook
  split
  · obtain ⟨v₁, w₁, r, hv, hw, hs⟩ := h.visit hl t u .renew
    rw [hv, hw]
    exact hs.afterRenewal hl tick r
  · exact .mk h (.next tick)
  · exact .mk h (.halted (.done _))

theorem takeTick (h : Split c R Q x v w) (hl : R.LockIs l m) (t u : TaskId) (tick period : Span) :
    Joint (Split c R Q x) LikeRound (v.takeTick t l tick period) (w.takeTick u m tick period) := by
  obtain ⟨v₁, w₁, r, hv, hw, hs⟩ := h.visit hl t u .observe
  have hnext : v.nextTick tick period = w.nextTick tick period := by
    unfold World.nextTick
    rw [h.part.now]
  unfold World.takeTick
  rw [hv, hw, hnext]
  exact hs.afterLook hl t u _ r

theorem endRound (h : Split c R Q x v w) (hl : R.LockIs l m) (t u : TaskId) (period : Span)
    {r r' : World.Round} (hr : LikeRound r r') :
    Joint (Split c R Q x) (Poll.Like Watcher.Like) (v.endRound t l period r)
      (w.endRound u m period r') := by
  cases hr with
  | halted hp => exact .mk h hp
  | next tick =>
    unfold World.endRound
    dsimp only
    rw [h.isCancelled hl, h.part.clock]
    split
    · exact .mk h (.done _)
    · split
      · obtain ⟨v₁, w₁, r, r', hv, hw, hs, hr⟩ := h.takeTick hl t u tick period
        rw [hv, hw]
        cases hr with
        | halted hp => exact .mk hs hp
        | next later => exact hs.holdTick hl later
      · exact h.holdTick hl tick

theorem lookGuard (h : Split c R Q x v w) (hl : R.LockIs l m) (t u : TaskId) (grace : Span)
    (i j n o : Nat) : Joint (Split c R Q x) (Poll.Like Watcher.Like) (v.lookGuard t l grace i n)
      (w.lookGuard u m grace j o) := by
  unfold World.lookGuard
  rw [h.lossOf hl, h.isCancelled hl]
  split
  · exact .mk h (.done _)
  · split
    · obtain ⟨v₁, w₁, r, hv, hw, hs⟩ := h.visit hl t u (.release grace)
      unfold World.startGuardRelease
      rw [hv, hw]
      exact .mk hs (.done _)
    · exact .mk h (.waiting (.guardWait grace i j n o))

theorem actOnLoss (h : Split c R Q x v w) (action : FatalAction) (loss : Loss) :
    Split c R Q x (v.actOnLoss action loss) (w.actOnLoss action loss) := by
  cases action with
  | exit => exact h.exit _
  | record => exact h.note _ _

theorem lookAlarm (h : Split c R Q x v w) (hl : R.LockIs l m) (t u : TaskId) (grace : Span)
    (action : FatalAction) (i j n o : Nat) :
    Joint (Split c R Q x) (Poll.Like Watcher.Like) (v.lookAlarm t l grace action i n)
      (w.lookAlarm u m grace action j o) := by
  unfold World.lookAlarm
  rw [h.lossOf hl, h.isCancelled hl]
  split
  · next loss _ =>
    obtain ⟨v₁, w₁, r, hv, hw, hs⟩ := h.visit hl t u (.release grace)
    unfold World.startAlarmRelease
    rw [hv, hw]
    exact .mk (hs.actOnLoss action loss) (.done _)
  · split
    · exact .mk h (.done _)
    · exact .mk h (.waiting (.alarmWait grace action i j n o))

theorem lookProbe (h : Split c R Q x v w) (hl : R.LockIs l m) (tag : String) (n o : Nat) :
    Joint (Split c R Q x) (Poll.Like Watcher.Like) (v.lookProbe l tag n)
      (w.lookProbe m tag o) := by
  unfold World.lookProbe
  rw [h.isCancelled hl]
  split
  · exact .mk (h.note _ _) (.done _)
  · exact .mk h (.waiting (.probeWait tag n o))

/-- The turn of a watcher. -/
theorem resumeWatcher (h : Split c R Q x v w) (hl : R.LockIs l m) (t u : TaskId) {a a' : Watcher}
    (ha : a.Like a') : Joint (Split c R Q x) (Poll.Like Watcher.Like) (v.resumeWatcher t l a)
      (w.resumeWatcher u m a') := by
  obtain ⟨k, ws, hk, hk', -⟩ := h.lock hl
  unfold World.resumeWatcher
  rw [hk, hk']
  cases ha with
  | renewalStart =>
    dsimp only
    rw [h.part.now]
    exact h.holdTick hl _
  | renewalTick tick due i j n o =>
    dsimp only
    rw [h.isCancelled hl, h.hasFired due i j]
    split
    · exact .mk h (.done _)
    · split
      · obtain ⟨v₁, w₁, r, r', hv, hw, hs, hr⟩ := h.takeTick hl t u tick k.term.renewalPeriod
        rw [hv, hw]
        exact hs.endRound hl t u _ hr
      · exact .mk h (.waiting (.renewalTick tick due i j n o))
  | guardStart grace => exact (h.ticket _ _).lookGuard hl t u grace _ _ _ _
  | guardWait grace i j n o => exact h.lookGuard hl t u grace i j n o
  | alarmStart grace action => exact (h.ticket _ _).lookAlarm hl t u grace action _ _ _ _
  | alarmWait grace action i j n o => exact h.lookAlarm hl t u grace action i j n o
  | probeStart tag => exact ((h.note _ _).ticket _ _).lookProbe hl tag _ _
  | probeWait tag n o => exact h.lookProbe hl tag n o

/-! ### Building a lock -/

theorem applyBehavior (h : Split c R Q x v w) (hl : R.LockIs l m) (k : Lock) (b : Behavior) :
    ∃ R', R.Within R' ∧ Split c R' Q x (v.applyBehavior l k b) (w.applyBehavior m k b) := by
  cases b with
  | renewal => exact h.watch hl .renewalStart
  | guard grace => exact h.watch hl (.guardStart grace)
  | alarm grace action => exact h.watch hl (.alarmStart grace action)
  | probe tag panics => exact (h.note _ _).watch hl (.probeStart tag)
  | retry n | wrap tag refuses =>
    exact ⟨R, .refl R, h.update hl _ (fun _ _ => rfl) (fun _ => rfl) fun _ => rfl⟩

theorem applyBehaviors (h : Split c R Q x v w) (hl : R.LockIs l m) (k : Lock)
    (bs : List Behavior) :
    ∃ R', R.Within R' ∧ Split c R' Q x (bs.foldl (fun v b => v.applyBehavior l k b) v)
      (bs.foldl (fun w b => w.applyBehavior m k b) w) := by
  induction bs generalizing R v w with
  | nil => exact ⟨R, .refl R, h⟩
  | cons b bs ih =>
    obtain ⟨R', hR, hs⟩ := h.applyBehavior hl k b
    obtain ⟨R'', hR', hs'⟩ := ih hs (hR.lockIs hl)
    exact ⟨R'', hR.trans hR', hs'⟩

/-- The pairing may grow in the course of a computation that comes to the same in both worlds. -/
def InStep {α : Type} (c : Choice S) (R Q : Pairing) (x : World)
    (E : Pairing → α → α → Prop) (y z : World × α) : Prop :=
  ∃ R', R.Within R' ∧ Joint (Split c R' Q x) (E R') y z

/-- A lock of the part is built. -/
theorem build (h : Split c R Q x v w) (cr : Creation) (hn : c.name cr.name = true)
    (hs : c.label cr.label = true) :
    InStep c R Q x (fun _ => (· = ·)) (v.build cr) (w.build cr) := by
  have hk : v.newLock cr = w.newLock cr := by
    unfold World.newLock World.isParentCancelled
    rw [h.part.parents]
  -- The lock takes the next number in either world, and so does each of its watchers.
  have hf := h.found (w.newLock cr) rfl rfl hn
  have hl : (R.withLock w.locks.length).LockIs v.locks.length w.locks.length := by
    rw [← h.part.allLocks]
    exact Part.lockIs_withLock R _
  obtain ⟨R', hR, hb⟩ := hf.applyBehaviors hl (w.newLock cr) cr.behaviors
  have hl' := hR.lockIs hl
  have hlabel := hb.label hl' hs
  have hwatchers := (hlabel.part.watchersOf hl').length_eq
  refine ⟨R', (R.within_withLock _).trans hR, ?_⟩
  unfold World.build
  dsimp only
  rw [hk]
  -- An earlier lock of the label is dropped, in both worlds or in none.
  rcases hb.part.lookup hs with ⟨hv, hw⟩ | ⟨l', m', hv, hw, hl₂⟩
  · rw [hv, hw]
    exact .mk hlabel (by rw [hwatchers])
  · rw [hv, hw]
    obtain ⟨v₁, w₁, a, b, hv₁, hw₁, hd, -⟩ := hlabel.dropLock hl₂
    dsimp only
    rw [hv₁, hw₁]
    have hwatchers' := (hd.part.watchersOf hl').length_eq
    exact .mk hd (by rw [hwatchers'])

/-- What a step comes to. -/
abbrev LikeStep (c : Choice S) (R : Pairing) :
    Poll Progress Outcome → Poll Progress Outcome → Prop :=
  Poll.Like (Progress.Like c R)

theorem inStep_done (h : Split c R Q x v w) (o : Outcome) :
    InStep c R Q x (LikeStep c) (v, .done o) (w, .done o) :=
  ⟨R, .refl R, .mk h (.done o)⟩

theorem inStep_waiting (h : Split c R Q x v w) {p q : Progress} (hpq : p.Like c R q) :
    InStep c R Q x (LikeStep c) (v, .waiting p) (w, .waiting q) :=
  ⟨R, .refl R, .mk h (.waiting hpq)⟩

theorem isParentCancelled (h : Split c R Q x v w) (p : String) :
    v.isParentCancelled p = w.isParentCancelled p := by
  unfold World.isParentCancelled
  rw [h.part.parents]

/-- The object of a lock is created, and then the lock is built. -/
theorem provisionObject (h : Split c R Q x v w) (cr : Creation) (hn : c.name cr.name = true)
    (hs : c.label cr.label = true) (hv : v.store.containers.contains sharedContainer = true)
    (hw : w.store.containers.contains sharedContainer = true) :
    InStep c R Q x (LikeStep c) (v.provisionObject cr) (w.provisionObject cr) := by
  have hc := h.called (r := .createObject cr.name.backing) hn rfl fun _ => hv.trans hw.symm
  have ha := (h.part.answer_eq h.calmPart h.calm (r := .createObject cr.name.backing) hn rfl
    fun _ => hv.trans hw.symm).1
  unfold World.provisionObject
  rw [h.isParentCancelled, World.issue_eq h.calmPart.prompt.1, World.issue_eq h.calm.prompt.1, ha]
  split
  · exact inStep_done h _
  · dsimp only
    split
    · exact inStep_done hc _
    · obtain ⟨R', hR, v₁, w₁, o, _, hv₁, hw₁, hb, rfl⟩ := hc.build cr hn hs
      rw [hv₁, hw₁]
      exact ⟨R', hR, .mk hb (.done _)⟩

/-- The answer to the call for the container may differ, what comes of it does not. -/
theorem provisionContainer (h : Split c R Q x v w) (cr : Creation) (hn : c.name cr.name = true)
    (hs : c.label cr.label = true) :
    InStep c R Q x (LikeStep c) (v.provisionContainer cr) (w.provisionContainer cr) := by
  obtain ⟨hv, hcv⟩ := h.calmPart.container sharedContainer
  obtain ⟨hw, hcw⟩ := h.calm.container sharedContainer
  unfold World.provisionContainer
  rw [h.isParentCancelled, World.issue_eq h.calmPart.prompt.1, World.issue_eq h.calm.prompt.1]
  split
  · exact inStep_done h _
  · dsimp only
    rw [hv, hw]
    exact (h.calledContainer sharedContainer).provisionObject cr hn hs hcv hcw

/-! ### Operations -/

theorem handle (h : Split c R Q x v w) {s : String} (hs : c.label s = true)
    {f g : LockId → World × Poll Progress Outcome}
    (hfg : ∀ l m, R.LockIs l m → InStep c R Q x (LikeStep c) (f l) (g m)) :
    InStep c R Q x (LikeStep c) (v.onHandle s f) (w.onHandle s g) := by
  unfold World.onHandle World.handle?
  rcases h.part.lookup hs with ⟨hv, hw⟩ | ⟨l, m, hv, hw, hl⟩
  · rw [hv, hw]
    exact inStep_done h _
  · rw [hv, hw]
    exact hfg l m hl

theorem owned (h : Split c R Q x v w) {s : String} (hs : c.label s = true)
    {f g : LockId → World × Poll Progress Outcome}
    (hfg : ∀ l m, R.LockIs l m → InStep c R Q x (LikeStep c) (f l) (g m)) :
    InStep c R Q x (LikeStep c) (v.onOwned s f) (w.onOwned s g) := by
  unfold World.onOwned World.owned? World.handle?
  rcases h.part.lookup hs with ⟨hv, hw⟩ | ⟨l, m, hv, hw, hl⟩
  · rw [hv, hw]
    exact inStep_done h _
  · obtain ⟨k, ws, hk, hk', -⟩ := h.lock hl
    rw [hv, hw]
    dsimp only
    rw [hk, hk']
    dsimp only
    cases k.listed with
    | true => exact hfg l m hl
    | false => exact inStep_done h _

theorem startVisit (h : Split c R Q x v w) (hl : R.LockIs l m) (t u : TaskId) (mine : Bool)
    (errand : Errand) :
    InStep c R Q x (LikeStep c) (v.startVisit t l mine errand) (w.startVisit u m mine errand) := by
  unfold World.startVisit World.afterVisit
  cases mine with
  | true =>
    obtain ⟨v₁, w₁, r, hv, hw, hs⟩ := (h.share hl).visit hl t u errand
    simp only [if_true]
    rw [hv, hw]
    exact inStep_done (hs.unshare hl) _
  | false =>
    obtain ⟨v₁, w₁, r, hv, hw, hs⟩ := h.visit hl t u errand
    simp only [Bool.false_eq_true, if_false]
    rw [hv, hw]
    exact inStep_done hs _

theorem unlockErrand (h : Split c R Q x v w) (hl : R.LockIs l m) :
    v.unlockErrand l = w.unlockErrand m := by
  obtain ⟨k, ws, hk, hk', -⟩ := h.lock hl
  unfold World.unlockErrand
  rw [hk, hk']

/-- The watchers of a lock have ended in the part if they have in the whole. -/
theorem watchersEnded (h : Split c R Q x v w) (hl : R.LockIs l m) :
    v.watchersEnded l = w.watchersEnded m := by
  unfold World.watchersEnded
  have hw := h.part.watchersOf hl
  generalize v.watchersOf l = ts at hw ⊢
  generalize w.watchersOf m = us at hw ⊢
  induction hw with
  | nil => rfl
  | @cons t u ts us ht _ ih =>
    obtain ⟨y, z, hy, hz, hlike⟩ := h.part.tasks t u ht
    rw [List.all_cons, List.all_cons, ih, hy, hz]
    dsimp only
    rw [hlike.activity.isFinished]

theorem afterClosing (h : Split c R Q x v w) (hl : R.LockIs l m) (r : Reply) :
    InStep c R Q x (LikeStep c) (v.afterClosing l r) (w.afterClosing m r) := by
  have hs := h.cancelScope hl
  unfold World.afterClosing
  dsimp only
  rw [hs.watchersEnded hl]
  split
  · exact inStep_done (hs.unshare hl) _
  · exact inStep_waiting (hs.ticket _ _) (.joining _ _ _ hl)

theorem startEnding (h : Split c R Q x v w) (hl : R.LockIs l m) (t u : TaskId)
    (o : Except Loss Outcome) :
    InStep c R Q x (LikeStep c) (v.startEnding t l o) (w.startEnding u m o) := by
  obtain ⟨v₁, w₁, r, hv, hw, hs⟩ := h.visit hl t u (w.unlockErrand m)
  unfold World.startEnding World.afterEnding
  rw [h.unlockErrand hl, hv, hw]
  exact inStep_done (hs.unshare hl) _

/-- An exclusive section around work that is done at once. -/
theorem startWork (h : Split c R Q x v w) (hl : R.LockIs l m) (t u : TaskId) :
    InStep c R Q x (LikeStep c) (v.startWork t l fun v => v.startSteps t [])
      (w.startWork u m fun w => w.startSteps u []) := by
  have hs := h.ticket (v.ticket + 1) (w.ticket + 1)
  unfold World.startWork World.takeTicket
  dsimp only
  rw [hs.lossOf hl]
  split
  · exact hs.startEnding hl t u _
  · simp only [World.startSteps]
    exact hs.startEnding hl t u _

theorem afterOpening (h : Split c R Q x v w) (hl : R.LockIs l m) (t u : TaskId)
    {p q : Poll Attempt Reply} (hp : Poll.Like Attempt.Like p q) :
    InStep c R Q x (LikeStep c)
      (match (v, p) with
        | (v, .waiting a) => (v, .waiting (.opening l [] a))
        | (v, .done (.error e)) =>
          let (v, o) := v.afterAcquiring l (.error e)
          (v, .done o)
        | (v, .done (.ok _)) => v.startWork t l fun v => v.startSteps t [])
      (match (w, q) with
        | (w, .waiting a) => (w, .waiting (.opening m [] a))
        | (w, .done (.error e)) =>
          let (w, o) := w.afterAcquiring m (.error e)
          (w, .done o)
        | (w, .done (.ok _)) => w.startWork u m fun w => w.startSteps u []) := by
  cases hp with
  | waiting ha => exact inStep_waiting h (.opening hl ha)
  | done r =>
    cases r with
    | ok s => exact h.startWork hl t u
    | error e => exact inStep_done (h.unshare hl) _

theorem lookLoss (h : Split c R Q x v w) (hl : R.LockIs l m) (due i j n o : Nat) :
    InStep c R Q x (LikeStep c) (v.lookLoss l n ⟨due, i⟩) (w.lookLoss m o ⟨due, j⟩) := by
  unfold World.lookLoss
  rw [h.lossOf hl, h.hasFired due i j]
  split
  · exact inStep_done h _
  · split
    · exact inStep_done h _
    · exact inStep_waiting h (.listening due i j n o hl)

/-- An operation begins. -/
theorem startStep (h : Split c R Q x v w) (t u : TaskId) {label : String}
    (hs : c.label label = true) (command : Command) :
    InStep c R Q x (LikeStep c) (v.startStep t (command.step S label))
      (w.startStep u (command.step S label)) := by
  cases command with
  | create term behaviors id =>
    unfold Command.step World.startStep
    split
    · exact inStep_done h _
    · split
      · exact inStep_done h _
      · next name hname =>
        exact h.provisionContainer _ ((c.agree label name hname).symm.trans hs) hs
  | lock =>
    unfold Command.step World.startStep
    refine h.owned hs fun l m hl => ?_
    obtain ⟨v₁, w₁, p, q, hv, hw, hs', hp⟩ := (h.share hl).startLocking hl t u
    rw [hv, hw]
    cases hp with
    | waiting ha => exact inStep_waiting hs' (.acquiring hl ha)
    | done r => exact inStep_done (hs'.unshare hl) _
  | renew =>
    unfold Command.step World.startStep
    exact h.owned hs fun l m hl => h.startVisit hl t u true .renew
  | unlock =>
    unfold Command.step World.startStep
    refine h.owned hs fun l m hl => ?_
    rw [h.unlockErrand hl]
    exact h.startVisit hl t u true _
  | shutdown =>
    unfold Command.step World.startStep
    refine h.owned hs fun l m hl => ?_
    have hu := h.update hl (fun k => { k with listed := false }) (fun _ _ => rfl) (fun _ => rfl)
      fun _ => rfl
    dsimp only
    rw [hu.unlockErrand hl]
    obtain ⟨v₁, w₁, r, hv, hw, hs'⟩ := hu.visit hl t u
      ((w.updateLock m fun k => { k with listed := false }).unlockErrand m)
    rw [hv, hw]
    exact hs'.afterClosing hl r
  | drop =>
    unfold Command.step World.startStep
    refine h.handle hs fun l m hl => ?_
    obtain ⟨v₁, w₁, had, _, hv, hw, hs', rfl⟩ := h.dropLock hl
    rw [hv, hw]
    exact inStep_done hs' _
  | exclusive =>
    unfold Command.step World.startStep
    refine h.owned hs fun l m hl => ?_
    obtain ⟨v₁, w₁, p, q, hv, hw, hs', hp⟩ := (h.share hl).startLocking hl t u
    rw [hv, hw]
    exact hs'.afterOpening hl t u hp
  | acquireOnce =>
    unfold Command.step World.startStep
    exact h.handle hs fun l m hl => h.startVisit hl t u false .acquire
  | handleRenew =>
    unfold Command.step World.startStep
    exact h.handle hs fun l m hl => h.startVisit hl t u false .renew
  | handleUnlock =>
    unfold Command.step World.startStep
    refine h.handle hs fun l m hl => ?_
    rw [h.unlockErrand hl]
    exact h.startVisit hl t u false _
  | unlockWithin deadline =>
    unfold Command.step World.startStep
    exact h.handle hs fun l m hl => h.startVisit hl t u false _
  | stage =>
    unfold Command.step World.startStep
    refine h.handle hs fun l m hl => ?_
    obtain ⟨v₁, w₁, r, hv, hw, hs'⟩ := h.visit hl t u .observe
    rw [hv, hw]
    exact inStep_done hs' _
  | cancel =>
    unfold Command.step World.startStep
    exact h.handle hs fun l m hl => inStep_done (h.cancelScope hl) _
  | isCancelled =>
    unfold Command.step World.startStep
    refine h.handle hs fun l m hl => ?_
    rw [h.isCancelled hl]
    exact inStep_done h _
  | isLost =>
    unfold Command.step World.startStep
    refine h.handle hs fun l m hl => ?_
    rw [h.lossOf hl]
    exact inStep_done h _
  | loss =>
    unfold Command.step World.startStep
    refine h.handle hs fun l m hl => ?_
    rw [h.lossOf hl]
    exact inStep_done h _
  | waitLoss limit =>
    unfold Command.step World.startStep
    refine h.handle hs fun l m hl => ?_
    have hs' : Split c R Q x v.takeTicket.1 w.takeTicket.1 := h.ticket _ _
    obtain ⟨due, i, j, hv, hw, hs''⟩ := hs'.timer limit
    dsimp only
    rw [hv, hw]
    exact hs''.lookLoss hl due i j _ _

/-- An operation is given up. -/
theorem abandonStep (h : Split c R Q x v w) (t u : TaskId) {p q : Progress} (hpq : p.Like c R q) :
    Split c R Q x (v.abandonStep t p) (w.abandonStep u q) := by
  cases hpq with
  | unstarted label command hl =>
    unfold World.abandonStep
    exact h
  | @acquiring l m a a' hl ha | @opening l m a a' hl ha =>
    obtain ⟨hv, hw⟩ := abandonAttempt v w t u l m ha
    unfold World.abandonStep
    rw [hv, hw]
    exact h.unshare hl
  | joining r n o hl => exact h.unshare hl
  | listening due i j n o hl => exact h

/-- An operation goes on. -/
theorem resumeStep (h : Split c R Q x v w) (t u : TaskId) {p q : Progress} (hpq : p.Like c R q) :
    InStep c R Q x (LikeStep c) (v.resumeStep t p) (w.resumeStep u q) := by
  cases hpq with
  | unstarted label command hs =>
    unfold World.resumeStep
    exact h.startStep t u hs command
  | acquiring hl ha =>
    obtain ⟨v₁, w₁, p, q, hv, hw, hs, hp⟩ := h.resumeAttempt hl t u ha
    unfold World.resumeStep
    rw [hv, hw]
    cases hp with
    | waiting ha => exact inStep_waiting hs (.acquiring hl ha)
    | done r => exact inStep_done (hs.unshare hl) _
  | opening hl ha =>
    obtain ⟨v₁, w₁, p, q, hv, hw, hs, hp⟩ := h.resumeAttempt hl t u ha
    unfold World.resumeStep
    rw [hv, hw]
    exact hs.afterOpening hl t u hp
  | joining r n o hl =>
    unfold World.resumeStep
    rw [h.watchersEnded hl]
    split
    · exact inStep_done (h.unshare hl) _
    · exact inStep_waiting h (.joining r n o hl)
  | listening due i j n o hl =>
    unfold World.resumeStep
    exact h.lookLoss hl due i j n o

/-! ### Whole turns -/

theorem atTurn (h : Split c R Q x v w) (ht : R.TaskIs t u) :
    Split c R Q x (v.atTurn t) (w.atTurn u) :=
  (h.dismiss ht).setActivity ht .running

/-- **A turn in a part.**  What a task of the part does in its turn it does in the whole world as
well, and the rest is left as it is. -/
theorem poll (h : Split c R Q x v w) (ht : R.TaskIs t u) :
    ∃ R', R.Within R' ∧ Split c R' Q x (v.poll t) (w.poll u) := by
  obtain ⟨⟨a, aborting⟩, ⟨b, aborting'⟩, hy, hz, ⟨hab, rfl⟩⟩ := h.part.tasks t u ht
  have hs := h.atTurn ht
  unfold World.poll
  rw [hy, hz]
  cases hab with
  | running => exact ⟨R, .refl R, h.dismiss ht⟩
  | finished o => exact ⟨R, .refl R, h.dismiss ht⟩
  | watching hl ha =>
    -- A watcher builds no lock, so the pairing stays as it is.
    obtain ⟨v₁, w₁, p, q, hv, hw, hs', hp⟩ := hs.resumeWatcher hl t u ha
    unfold World.atTurn World.dismiss at hv hw
    dsimp only
    rw [hv, hw]
    refine ⟨R, .refl R, ?_⟩
    cases hp with
    | waiting ha => exact hs'.setActivity ht (.watching hl ha)
    | done r => exact hs'.finish ht _
  | calling hp =>
    cases aborting with
    | true => exact ⟨R, .refl R, (hs.abandonStep t u hp).finish ht _⟩
    | false =>
      obtain ⟨R', hR, v₁, w₁, p, q, hv, hw, hs', hp'⟩ := hs.resumeStep t u hp
      have ht' := hR.taskIs ht
      unfold World.atTurn World.dismiss at hv hw
      dsimp only
      rw [if_neg (by decide), if_neg (by decide), hv, hw]
      refine ⟨R', hR, ?_⟩
      cases hp' with
      | waiting hp => exact hs'.setActivity ht' (.calling hp)
      | done o => exact hs'.finish ht' o

end Leasehold.Split
