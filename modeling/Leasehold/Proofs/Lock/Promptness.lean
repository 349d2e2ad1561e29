import Leasehold.Proofs.Lock.Cancellation
import Leasehold.Proofs.Lock.WaitingRun

/-!
# Nothing hangs after a cancellation

When the lock of a call or of a watcher is cancelled, the only thing that can still be waited for is
the answer to one release call, and that not beyond its deadline.

* `World.OnCall`, `World.HeldUp`: tasks in the middle of a call on a lock, and locks that somebody
  is waited for at.
* `exists_releasing`: when time passes while a cancelled lock is held up, a release is on its way.
* `Ledger.SentBy`: the releases on their way were sent by an instant.
* `World.Draining`, `prompt_runWhile`: how long a cancelled lock can be held up.
* `World.prompt_after_cancellation`: the watchers and the calls of a cancelled lock end in time.
-/

namespace Leasehold

/-- The lock that a step is in the middle of a call on: an acquisition, a visit to the critical
section, or a shutdown. -/
def Progress.call? : Progress → Option LockId
  | acquiring l _ | visiting l _ _ | observing l _ | closing l _ | joining l _ _ | opening l _ _
  | ending l _ _ => some l
  | working _ _ p | listing _ p _ => p.call?
  | _ => none

/-- The lock that a task is in the middle of a call on. -/
def Activity.call? : Activity → Option LockId
  | calling p => p.call?
  | _ => none

/-- A task in the middle of a call is at the critical section, or waits for the cancellation of the
lock or for its watchers. -/
theorem Progress.call_cases {l : LockId} {p : Progress} (h : p.call? = some l) :
    (∃ e, p.visit? = some (l, e)) ∨ (∀ ws, ∃ n, (.scope l, n) ∈ p.waits ws) ∨
      p.joins? = some l := by
  have attempt : ∀ a : Attempt, (∃ e, a.entry?.map (l, ·) = some (l, e)) ∨
      ∃ n, (Wait.scope l, n) ∈ a.waits l := by
    intro a
    induction a with
    | entering e => exact .inl ⟨e, rfl⟩
    | retrying inner b a ih | wrapping tag a ih => exact ih
    | pausing inner b timer n => exact .inr ⟨n, by simp [Attempt.waits]⟩
  induction p with
  | acquiring l' a | opening l' work a =>
    cases h
    rcases attempt a with he | ⟨n, hn⟩
    · exact .inl he
    · exact .inr (.inl fun _ => ⟨n, hn⟩)
  | visiting l' owned e | observing l' e | closing l' e | ending l' o e =>
    cases h
    exact .inl ⟨e, rfl⟩
  | joining l' r n =>
    cases h
    exact .inr (.inr rfl)
  | working l' n p ih =>
    refine (ih h).imp_right (Or.imp_left fun hw ws => ?_)
    obtain ⟨m, hm⟩ := hw ws
    exact ⟨m, List.mem_cons_of_mem _ hm⟩
  | listing past p rest ih => exact ih h
  | unstarted | provisioning | sleeping | listening | awaiting | forever | settling => cases h

/-- A watcher has not begun, is at the critical section, or waits for the cancellation of its
lock. -/
theorem Watcher.phases (v : Watcher) (l : LockId) :
    v.Starts ∨ (∃ e, v.entry? = some e) ∨ ∃ n, (.scope l, n) ∈ v.waits l := by
  cases v with
  | renewalStart | guardStart | alarmStart | probeStart => exact .inl trivial
  | renewalLook tick e | renewalCall tick e | guardRelease e | alarmRelease action loss e =>
    exact .inr (.inl ⟨e, rfl⟩)
  | renewalTick tick timer n => exact .inr (.inr ⟨n, by simp [waits]⟩)
  | guardWait grace n n' => exact .inr (.inr ⟨n', by simp [waits]⟩)
  | alarmWait grace action n n' => exact .inr (.inr ⟨n', by simp [waits]⟩)
  | probeWait tag n => exact .inr (.inr ⟨n, by simp [waits]⟩)

namespace World

variable {A : Step → Prop} {D : Deed → Prop} {t : TaskId} {w w' w₁ : World} {l : LockId}
  {k : Lock} {a : Activity}

/-- The task is in the middle of a call on the lock. -/
def OnCall (w : World) (t : TaskId) (l : LockId) : Prop :=
  ∃ a, w.activity? t = some a ∧ a.call? = some l

/-- Somebody is waited for at the lock: a watcher that has not ended, or a task in the middle of a
call. -/
def HeldUp (w : World) (l : LockId) : Prop := w.Unfinished l ∨ ∃ t, w.OnCall t l

/-- The task waits for the answer to a release call of the lock. -/
def AwaitsRelease (w : World) (l : LockId) (t : TaskId) : Prop :=
  ∃ a f limit, w.activity? t = some a ∧ a.visit? = some (l, .releasing f limit)

/-! ### What holds up a cancelled lock -/

section Held

variable (h : Reachable A w) (hr : w.ready = []) (hy : w.yielded = [])
  (hc : w.isCancelled l = true)
include h hr hy hc

/-- Whoever has come to the critical section waits, in the end, for a release. -/
theorem exists_releasing_of_visit {e : Entry} (ha : w.activity? t = some a)
    (hv : a.visit? = some (l, e)) : ∃ t', w.AwaitsRelease l t' := by
  have scope : ∀ {t a e}, w.activity? t = some a → a.visit? = some (l, e) →
      ∀ n, (.scope l, n) ∉ e.waits l := fun ha hv n hx =>
    not_mem_waits_scope h hr hy hc ha n (Activity.mem_waits hv hx)
  cases e with
  | releasing f limit => exact ⟨t, a, f, limit, ha, hv⟩
  | acquiring f n | renewing f n => exact absurd (by simp [Entry.waits]) (scope ha hv n)
  | queued errand =>
    -- the first one at the critical section is in the middle of a call
    have he : (w.engagements t).bind Engagement.lock? = some l := by
      rw [engagements_eq, ha, Option.bind_some, Activity.engagement_of_visit hv]
      rfl
    obtain ⟨k, hk⟩ := exists_lock_of_isCancelled hc
    obtain ⟨t', hf⟩ := exists_first h hk he
    obtain ⟨call, r, n, co, hin⟩ := (flowing_reachable h l t' hf).resolve_left
      (not_runnable hr hy t')
    rw [engagements_eq] at hin
    obtain ⟨a', ha', he'⟩ := Option.bind_eq_some_iff.1 hin
    obtain ⟨e', hv', hcall⟩ := Activity.visit_of_engagement he' rfl
    cases e' with
    | queued errand => cases hcall
    | acquiring f n | renewing f n => exact absurd (by simp [Entry.waits]) (scope ha' hv' n)
    | releasing f limit => exact ⟨t', a', f, limit, ha', hv'⟩

theorem exists_releasing_of_unfinished (hu : w.Unfinished l) : ∃ t', w.AwaitsRelease l t' := by
  obtain ⟨ws, t, a, hws, ht, ha, hf⟩ := hu
  rcases staffed_reachable h l ws hws t ht with ⟨v, hv⟩ | ⟨o, ho⟩
  · cases ha.symm.trans hv
    rcases v.phases l with hs | ⟨e, he⟩ | ⟨n, hx⟩
    · exact absurd (((waits_reachable h).poised t _ ha).awake l v rfl hs) (not_runnable hr hy t)
    · exact exists_releasing_of_visit h hr hy hc ha (by rw [Activity.visit?, he]; rfl)
    · exact absurd hx (not_mem_waits_scope h hr hy hc ha n)
  · cases ha.symm.trans ho
    cases hf

/-- When time passes while a cancelled lock is held up, a release is on its way. -/
theorem exists_releasing (hb : w.HeldUp l) : ∃ t', w.AwaitsRelease l t' := by
  rcases hb with hu | ⟨t, a, ha, hcall⟩
  · exact exists_releasing_of_unfinished h hr hy hc hu
  · cases a with
    | calling p =>
      rcases Progress.call_cases hcall with ⟨e, he⟩ | hw | hj
      · exact exists_releasing_of_visit h hr hy hc ha he
      · obtain ⟨n, hx⟩ := hw w.watchersOf
        exact absurd hx (not_mem_waits_scope h hr hy hc ha n)
      · refine exists_releasing_of_unfinished h hr hy hc ?_
        exact (((waits_reachable h).poised t _ ha).joins l hj).resolve_right (not_runnable hr hy t)
    | running | watching | finished => cases hcall

end Held

end World

/-! ### When releases were sent -/

namespace Ledger

variable {t : TaskId} {g g' : Ledger} {c' : Option Engagement} {l : LockId}
  {E : TaskId → Option Engagement} {b : Span}

/-- The release calls of the lock that are on their way were sent by an instant. -/
def SentBy (g : Ledger) (E : TaskId → Option Engagement) (l : LockId) (b : Span) : Prop :=
  ∀ t r n co rec, E t = some (.calling l .release r n co) → g.log[n]? = some rec → rec.time ≤ b

/-- A release is sent by the instant, or not at all: once the lock is released it sends no other. -/
theorem SentBy.step (h : g.SentBy E l b) (ha : g.Answerable E) (hs : g.Step t (E t) g' c')
    (hb : g.now ≤ b ∨ ∃ k, g.cores[l]? = some k ∧ k.stage = .released) :
    g'.SentBy (Function.update E t c') l b := by
  intro t' r n co rec he hrec
  by_cases ht : t' = t
  · subst ht
    rw [Function.update_self] at he
    generalize hc : E t' = c at hs
    cases hs with
    | stay => exact h t' r n co rec (hc.trans he) hrec
    | arrive l' call r' n' co' co'' =>
      cases he
      exact h t' _ _ _ rec hc hrec
    | send l' k errand call co' hk _ hst =>
      cases he
      rcases hb with hb | ⟨k', hk', hst'⟩
      · have hlog : (g.log ++ [⟨g.now, k.request .release, none⟩])[g.log.length]? = some rec := hrec
        rw [List.getElem?_concat_length] at hlog
        cases hlog
        exact hb
      · rw [hk] at hk'
        cases hk'
        cases hst.symm.trans hst'
    | found | enqueue | leave | receive | ask | provision | told | forget => cases he
  · rw [Function.update_of_ne ht] at he
    obtain ⟨rec', hrec', -, -⟩ := ha.pending t' _ n he rfl
    have hkept := hs.log_kept (fun e' he' hn' => ht (ha.apart t' t _ e' n he he' rfl hn')) hrec'
    rw [hrec] at hkept
    cases hkept
    exact h t' r n co rec he hrec'

end Ledger

theorem Span.ceilMillis_add_le {b d D : Span} {c : Nat} (hb : b ≤ .ofMillis c) (hd : d ≤ D) :
    (b + d).ceilMillis ≤ c + D.ceilMillis := by
  simp only [Span.le_def, Span.ofMillis, Span.ceilMillis_eq, Span.nanos_add, Span.perMilli] at *
  omega

namespace World

variable {A : Step → Prop} {D : Span} {t : TaskId} {w w' w₁ : World} {l : LockId} {k k₁ : Lock}
  {E : TaskId → Option Engagement} {b : Span} {m : Nat}

/-! ### How long a lock is held up -/

/-- The clock has not passed `m`, and unless the lock is released it stands at `b` still, by which
all releases on their way were sent. -/
structure Draining (l : LockId) (b : Span) (m : Nat) (w : World) (E : TaskId → Option Engagement) :
    Prop where
  answerable : w.ledger.Answerable E
  clock : w.clock ≤ m
  spent : w.now ≤ b ∨ w.AtStage l .released
  sent : w.ledger.SentBy E l b

theorem moving_draining : Moving A (fun _ => True) (Draining l b m) where
  books w w' E hu h := by
    have hg := ledger_congr hu.clock hu.locks hu.log
    refine ⟨by rw [hg]; exact h.answerable, by rw [hu.clock]; exact h.clock, ?_, ?_⟩
    · rw [World.now, hu.clock, AtStage, hu.locks]
      exact h.spent
    · rw [hg]
      exact h.sent
  move D w w' E t c' _ h hm := by
    refine ⟨h.answerable.step hm.ledger, by rw [hm.frame.clock]; exact h.clock, ?_, ?_⟩
    · rw [hm.now_eq]
      exact h.spent.imp_right fun hs => hs.step h.answerable hm.ledger
    · exact h.sent.step h.answerable hm.ledger (h.spent.imp_right (atStage_core _).1)

/-- When the release that a lock is held up by was sent by an instant, its deadline is not long
after that. -/
theorem clock_advance_le_of_releasing (h : Reachable A w) (hr : w.ready = []) (hy : w.yielded = [])
    (hd : Draining l (.ofMillis m) (m + D.ceilMillis) w w.engagements)
    (hD : ∀ d, w.Allows A l d → d ≤ D) (hw : w.AwaitsRelease l t) :
    w.advance.clock ≤ m + D.ceilMillis ∧ w.AtStage l .released := by
  obtain ⟨a, f, limit, ha, hv⟩ := hw
  have hl := ((waits_reachable h).poised t a ha).rests.limit l f limit hv
  have he : w.engagements t = some (.calling l .release f.request f.record f.leg.course) := by
    rw [engagements_eq, ha, Option.bind_some, Activity.engagement_of_visit hv]
    rfl
  constructor
  · -- time does not pass the timer of a task that waits for it
    obtain ⟨r, b, d, ⟨rec, hrec, -, hb⟩, hd', hle⟩ := hl.sent
    have hlt : w.clock < limit.due := hl.ahead.resolve_right fun hR => not_runnable hr hy t hR.2
    have hx : (Wait.time limit.due, limit.ticket) ∈ a.waits w.watchersOf :=
      Activity.mem_waits hv (by simp [Entry.waits])
    have hsent : rec.time ≤ .ofMillis m := hd.sent t _ _ _ rec he hrec
    calc w.advance.clock
        ≤ limit.due := clock_advance_le (mem_dues ha hx) (Nat.le_of_lt hlt)
      _ ≤ (b + d).ceilMillis := hle
      _ ≤ m + D.ceilMillis := Span.ceilMillis_add_le (Nat.le_trans hb hsent) (hD d hd')
  · obtain ⟨c, hc, -, hst, -⟩ := hd.answerable.inside t l _ _ _ _ he
    exact (atStage_core _).2 ⟨c, hc, hst⟩

/-- A cancelled lock is held up for no longer than its releases may wait. -/
theorem prompt_runWhile (h : Reachable A w₁) (hk : w₁.locks[l]? = some k₁)
    (hc : k₁.cancelled = true) (hD : ∀ d, Deadline A k₁ d → d ≤ D)
    (hr : RunWhile A (HeldUp · l) w₁ w) :
    Draining l w₁.now (w₁.clock + D.ceilMillis) w w.engagements := by
  induction hr with
  | start _ =>
    refine ⟨answerable_reachable h, Nat.le_add_right _ _, .inl ?_, ?_⟩
    · exact Span.le_def.2 (Nat.le_refl _)
    exact fun t r n co rec _ hrec => past_reachable h rec (List.mem_of_getElem? hrec)
  | @step w w' hw hn _ ih =>
    have hw' : Reachable A w := h.trans hw.run
    obtain ⟨k, hk', he⟩ := outlives_run h hw.run l k₁ hk
    obtain ⟨o, hn⟩ := next_iff.1 hn
    refine moving_draining.next (Reachable.tame hw') ih (fun hr hy => ?_) hn fun _ _ => trivial
    -- time passes only when nobody can run, and then the lock is held up by a release alone
    obtain ⟨t, ht⟩ := exists_releasing hw' hr hy
      ((isCancelled_eq hk').trans (he.cancelled hc)) hw.last
    have hD' : ∀ d, w.Allows A l d → d ≤ D := by
      rintro d ⟨k', hk'', hd⟩
      cases hk'.symm.trans hk''
      exact hD d (hd.congr he.term.symm he.id.symm)
    obtain ⟨hle, hst⟩ := clock_advance_le_of_releasing hw' hr hy ih hD' ht
    exact ⟨⟨ih.answerable.inside, ih.answerable.pending, ih.answerable.apart,
      ih.answerable.outside⟩, hle, .inr hst, fun t r n co rec he hr => ih.sent t r n co rec he hr⟩

/-- A watcher that has not ended holds its lock up all the time. -/
theorem runWhile_of_not_ended (h : Reachable A w₁) (hk : w₁.locks[l]? = some k₁)
    (ht : t ∈ k₁.watchers) (hr : Run A w₁ w) (hn : ¬ w.Ended t) :
    RunWhile A (HeldUp · l) w₁ w := by
  have held : ∀ {x}, Run A w₁ x → ¬ x.Ended t → x.HeldUp l := by
    intro x hx hne
    have hws := rosters_run h (getElem?_rosters hk) hx
    obtain ⟨v, hv⟩ := (staffed_reachable (h.trans hx) l _ hws t ht).resolve_right hne
    exact .inl ⟨k₁.watchers, t, _, hws, ht, hv, rfl⟩
  induction hr with
  | refl => exact .start (held .refl hn)
  | @tail x y hx hy ih =>
    obtain ⟨o, ho⟩ := next_iff.1 hy
    have hne : ¬ x.Ended t := fun he => hn (he.next (Reachable.tame (h.trans hx)) ho)
    exact .step (ih hne) hy (held (hx.tail hy) hn)

/-- Nothing hangs after a cancellation.  Let `D` be no shorter than the term of a cancelled lock,
the graces of its guards and alarms, and the deadlines that scripts set for its releases.  Then its
watchers end within `D`, and a call on it is answered within `D` after the cancellation or its own
start, whatever the calls to the store come to. -/
theorem prompt_after_cancellation (h : Reachable A w₁) (hk : w₁.locks[l]? = some k₁)
    (hc : k₁.cancelled = true) (hD : ∀ d, Deadline A k₁ d → d ≤ D) :
    (∀ t ∈ k₁.watchers, ∀ w, Run A w₁ w → w₁.clock + D.ceilMillis < w.clock → w.Ended t) ∧
    ∀ t w, RunWhile A (OnCall · t l) w₁ w → w.clock ≤ w₁.clock + D.ceilMillis := by
  refine ⟨fun t ht w hr hlt => ?_, fun t w hr => ?_⟩
  · by_contra hn
    have hd := prompt_runWhile h hk hc hD (runWhile_of_not_ended h hk ht hr hn)
    exact Nat.not_le.2 hlt hd.clock
  · exact (prompt_runWhile h hk hc hD (hr.mono fun x hx => .inr ⟨t, hx⟩)).clock

/-! ### A release that is not answered -/

theorem onCall_of_any (h : (w.activity? t).any (·.call? == some l) = true) : w.OnCall t l := by
  unfold OnCall
  cases ha : w.activity? t with
  | none =>
    rw [ha] at h
    cases h
  | some a =>
    rw [ha] at h
    exact ⟨a, rfl, eq_of_beq h⟩

/-- Scripts whose locks have one guard and whose deadlines are all the same. -/
def Hasty : Step → Prop
  | .create _ _ _ behaviors _ _ => behaviors = [.guard (.ofSeconds 5)]
  | .unlockWithin _ d => d = .ofSeconds 7
  | _ => True

/-- A lock has just been cancelled while a release is on its way that is not answered, and its guard
is about to have its turn. -/
def unanswered : World :=
  turn^[7] (ofScript [.create "a" "alpha" (.ofSeconds 15) [.guard (.ofSeconds 5)] "p" ⟨"i"⟩,
    .plan .release ⟨.ofSeconds 100, none, .zero, none⟩ 1, .acquireOnce "a",
    .spawn "u" (.unlockWithin "a" (.ofSeconds 7)), .cancel "a", .sleep (.ofSeconds 60)])

theorem reachable_unanswered : Reachable Hasty unanswered :=
  reachable_ofScript (by simp [Step.Within, Step.AllWithin, Hasty]) 7

theorem deadline_hasty {k : Lock} (hk : k.term.span = .ofSeconds 15) {d : Span}
    (h : Deadline Hasty k d) : d ≤ .ofSeconds 15 := by
  cases h with
  | term => rw [hk]; exact Nat.le_refl _
  | grace hA hb =>
    cases hA
    rcases hb with hb | ⟨action, hb⟩
    · cases List.mem_singleton.1 hb
      decide
    · cases List.mem_singleton.1 hb
  | within _ hd =>
    cases hd
    decide

/-- The release gives up at its own deadline, and then the guard ends. -/
theorem prompt_after_cancellation_unanswered : unanswered.clock = 0 ∧
    (unanswered.locks.map fun k => (k.cancelled, k.watchers)) = [(true, [1])] ∧
    (turn^[3] unanswered).clock = 7000 ∧ (turn^[3] unanswered).OnCall 2 0 ∧
    (turn^[3] unanswered).clock ≤ 15000 ∧
    (turn^[6] unanswered).clock = 60000 ∧ (turn^[6] unanswered).Ended 1 := by
  have hk : (unanswered.locks[0]?.map fun k => (k.cancelled, k.watchers, k.term.span)) =
      some (true, [1], .ofSeconds 15) := by decide +kernel
  obtain ⟨k, hk, he⟩ := Option.map_eq_some_iff.1 hk
  simp only [Prod.mk.injEq] at he
  obtain ⟨hc, hw, hterm⟩ := he
  have hseg : RunWhile Hasty (OnCall · 2 0) unanswered (turn^[3] unanswered) :=
    runWhile_iterate fun i hi => onCall_of_any (by
      revert i
      decide +kernel)
  have hclock : unanswered.clock = 0 := by decide +kernel
  obtain ⟨hend, hcall⟩ :=
    prompt_after_cancellation reachable_unanswered hk hc fun d => deadline_hasty hterm
  refine ⟨hclock, by decide +kernel, by decide +kernel, hseg.last, ?_, by decide +kernel, ?_⟩
  · have := hcall 2 _ hseg
    rwa [hclock] at this
  · refine hend 1 (by rw [hw]; decide) _ (run_iterate_turn _ 6) ?_
    rw [hclock]
    decide +kernel

end World

end Leasehold
