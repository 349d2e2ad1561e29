import Leasehold.Proofs.Lock.Turnover
import Leasehold.Proofs.Lock.WaitingTurn

/-!
# Nobody misses what he waits for

Whatever comes about in a run, it wakes the tasks that wait for it.  So in every reachable world a
task that is not about to have its turn waits for something that has not come.

* `Move.live`: a cancellation wakes those who wait for it.
* `AllPoised.move`, `AllPoised.conclude`: moves and the ends of turns leave all tasks poised.
* `Waits.poll`, `Waits.advance`: turns and the passage of time as well.
* `waits_reachable`: in every reachable world all tasks are poised.
* `not_mem_waits_scope`: when time passes, nobody waits for a cancellation that has come.
-/

namespace Leasehold.World

variable {A : Step → Prop} {D : Deed → Prop} {t t' : TaskId} {w w' w'' : World}
  {c c' : Option Engagement} {l l' : LockId} {R R' : Prop} {a : Activity}

/-! ### Cancellations -/

theorem Live.of_locks (h : w.Live R l) (hl : w'.locks = w.locks) : w'.Live R l := by
  rwa [Live, hl]

theorem Live.updateLock (h : w.Live R l) {f : Lock → Lock}
    (hf : ∀ k, (f k).cancelled = k.cancelled) : (w.updateLock l' f).Live R l := by
  obtain ⟨k, hk, hc⟩ := h
  unfold Live
  rw [getElem?_updateLock, hk]
  split
  · exact ⟨f k, rfl, by rwa [hf]⟩
  · exact ⟨k, rfl, hc⟩

theorem Live.leave (h : w.Live R l) (t : TaskId) : (w.leave t l').Live R l := by
  have hl : (w.updateLock l' fun k => { k with queue := k.queue.erase t }).Live R l :=
    h.updateLock fun _ => rfl
  exact hl.of_locks (quiet_leave w t l').locks

/-- All who wait for the cancellation of the lock can run. -/
def Rouses (w w' : World) (l : LockId) : Prop :=
  ∀ t a n, w.activity? t = some a → (.scope l, n) ∈ a.waits w.watchersOf → w'.Runnable t

/-- A cancellation wakes those who wait for it. -/
theorem live_cancelScope (l' : LockId) (h : w.Live R l) :
    (w.cancelScope l').Live R l ∨ w.Rouses (w.cancelScope l') l := by
  by_cases hc : w.isCancelled l' = true
  · rw [cancelScope, if_pos hc]
    exact .inl h
  · by_cases hl : l' = l
    · subst hl
      refine .inr fun t a n ha hx => ?_
      obtain ⟨b, ht⟩ := exists_task ha
      rw [cancelScope, if_neg hc]
      exact runnable_wakeAll _ ht (Activity.mem_waits_scope hx) (beq_self_eq_true _)
    · refine .inl (Live.of_locks (w := w.updateLock l' _) ?_ (quiet_cancelScope w l').locks)
      rwa [Live, getElem?_updateLock, if_neg hl]

theorem live_raiseLoss (l' : LockId) (reason : String) (h : w.Live R l) :
    (w.raiseLoss l' reason).Live R l ∨ w.Rouses (w.raiseLoss l' reason) l := by
  unfold raiseLoss
  cases hk : w.locks[l']? with
  | none => exact .inl h
  | some k =>
    let cell := k.lossCell.raise ⟨k.name.text, k.id, reason⟩
    let w₁ := w.updateLock l' fun k' => { k' with lossCell := cell.1 }
    -- the loss wakes its own tasks and changes nothing that the cancellation depends on
    have hq : w₁.Quiet (if cell.2 then w₁.wakeAll (· == .loss l') else w₁) := by
      split
      · exact quiet_wakeAll w₁ _
      · exact .refl w₁
    have hl : w₁.Live R l := h.updateLock fun _ => rfl
    refine (live_cancelScope l' (hl.of_locks hq.locks)).imp_right fun hr t a n ha hx => ?_
    exact hr t a n (by rw [hq.activity?]; exact ha) (Activity.mem_waits_scope hx)

theorem live_concluded (call : LeaseCall) (a : Answer) (h : w.Live R l) :
    (w.concluded l' call a).Live R l ∨ w.Rouses (w.concluded l' call a) l := by
  cases call with
  | acquire =>
    cases a with
    | ok u => exact .inl (h.updateLock fun _ => rfl)
    | error e => exact .inl h
  | renew => exact .inl h
  | release => exact live_cancelScope l' h

/-- A move leaves a lock as live as it was, or wakes those who wait for its cancellation. -/
theorem Move.live (h : Move A D t w c w' c') (hl : w.Live R l) :
    w'.Live R l ∨ w.Rouses w' l := by
  cases h with
  | quiet h => exact .inl (hl.of_locks h.locks)
  | own l' f g => exact .inl (hl.updateLock fun _ => rfl)
  | cancel l' => exact live_cancelScope l' hl
  | lose l' reason _ _ _ => exact live_raiseLoss l' reason hl
  | parent | foreign | revoke | inject | plan | spawn | told | forget =>
    exact .inl (hl.of_locks rfl)
  | build cr _ =>
    obtain ⟨s, ws, hls⟩ := (founding_built w cr).locks
    obtain ⟨k, hk, hc⟩ := hl
    exact .inl ⟨k, by rw [hls]; exact getElem?_concat_of_some hk, hc⟩
  | enqueue l' errand _ => exact .inl (hl.updateLock fun _ => rfl)
  | leave l' e _ _ => exact .inl (hl.leave t)
  | abandon l' e _ _ => exact .inl (hl.leave t)
  | send l' k errand call _ _ _ _ _ =>
    have hl' : (w.setStage l' call.during).Live R l := hl.updateLock fun _ => rfl
    exact .inl (hl'.of_locks (locks_sent _))
  | arrive l' call r n p => exact .inl (hl.of_locks (locks_settleCall w r p))
  | receive l' call r n a =>
    have hl' : (w.answered n a).Live R l := hl.of_locks rfl
    refine (live_concluded call a hl').imp (Live.leave · t) fun hr t' b m hb hx => ?_
    exact (frame_leave (A := A) t).runnable t' (hr t' b m hb hx)
  | ask r _ => exact .inl (hl.of_locks (locks_sent r))
  | provision r n p => exact .inl (hl.of_locks (locks_settleCall w r p))

/-! ### Moves -/

/-- Every task that is not about to have its turn waits for something that has not come. -/
def AllPoised (A : Step → Prop) (w : World) : Prop :=
  ∀ t a, w.activity? t = some a → w.Poised A (w.Runnable t) a

/-- A task that is not in the middle of anything. -/
theorem poised_of_idle (hw : a.waits w.watchersOf = []) (hv : a.visit? = none)
    (hj : a.joins? = none) (hs : ∀ l v, a ≠ .watching l v) : w.Poised A R a where
  rests := by
    rw [hw, hv]
    exact rests_idle fun l n h => by cases h
  joins l h := by rw [hj] at h; cases h
  grace l v d ha := absurd ha (hs l v)
  awake l v ha := absurd ha (hs l v)

/-- The watcher of a behavior, before its first turn. -/
theorem poised_of_watcher {b : Behavior} {v : Watcher} (hb : b.watcher? = some v) (hR : R)
    (hg : ∀ d, v.grace? = some d → w.Allows A l d) : w.Poised A R (.watching l v) where
  rests := by
    have hw : v.waits l = [] ∧ v.entry? = none := by
      cases b <;> cases hb <;> exact ⟨rfl, rfl⟩
    show w.Rests A R (v.waits l) (v.entry?.map (l, ·))
    rw [hw.1, hw.2]
    exact rests_idle fun l n h => by cases h
  joins l h := by cases h
  grace l' v' d ha := by cases ha; exact hg d
  awake l' v' ha hv := hR

theorem activity?_leave (t : TaskId) : (w.leave t l).activity? = w.activity? :=
  (quiet_leave w t l).activity?

theorem activity?_concluded (call : LeaseCall) (a : Answer) :
    (w.concluded l call a).activity? = w.activity? := by
  cases call with
  | acquire =>
    cases a with
    | ok u => rfl
    | error e => rfl
  | renew => rfl
  | release => exact (quiet_cancelScope w l).activity?

theorem activity?_settleCall (r : Request) (p : Plan) :
    (w.settleCall r p).1.activity? = w.activity? := by
  unfold settleCall
  split <;> rfl

theorem activity?_sent (r : Request) : (w.sent r).activity? = w.activity? := by
  unfold sent takePlan
  split <;> rfl

/-- Where the activities of tasks come from in a move. -/
theorem Move.activities (h : Move A D t w c w' c') :
    w'.activity? = w.activity? ∨ (∃ s, w' = (w.spawn (.calling (.unstarted s))).1) ∨
      ∃ cr, cr.From A ∧ w' = w.built cr := by
  cases h with
  | quiet h => exact .inl h.activity?
  | cancel l => exact .inl (quiet_cancelScope w l).activity?
  | lose l reason _ _ _ => exact .inl (quiet_raiseLoss w l reason).activity?
  | own | parent | foreign | revoke | inject | plan | told | forget | enqueue => exact .inl rfl
  | spawn s _ => exact .inr (.inl ⟨s, rfl⟩)
  | build cr hc => exact .inr (.inr ⟨cr, hc, rfl⟩)
  | leave l e _ _ => exact .inl (activity?_leave t)
  | abandon l e _ _ => exact .inl (activity?_leave t)
  | send l k errand call _ _ _ _ _ => exact .inl (activity?_sent _)
  | arrive l call r n p => exact .inl (activity?_settleCall r p)
  | receive l call r n a => exact .inl ((activity?_leave t).trans (activity?_concluded call a))
  | ask r _ => exact .inl (activity?_sent r)
  | provision r n p => exact .inl (activity?_settleCall r p)

theorem Move.unfinished (h : Move A D t w c w' c') (hu : w.Unfinished l) : w'.Unfinished l := by
  obtain ⟨ws, t₁, a₁, hws, ht₁, ha₁, hf⟩ := hu
  refine ⟨ws, t₁, a₁, ?_, ht₁, h.frame.kept t₁ a₁ ha₁, hf⟩
  rcases h.rosters with he | ⟨cr, -, rfl⟩
  · rwa [he]
  · obtain ⟨⟨ws', hr, -⟩, -, -⟩ := staffing_built w cr
    rw [hr]
    exact getElem?_concat_of_some hws

/-- A move leaves a task poised that it does not create. -/
theorem Move.poised (h : Move A D t w c w' c') (ha : w.activity? t' = some a)
    (hp : w.Poised A (w.Runnable t') a) : w'.Poised A (w'.Runnable t') a := by
  have hR := h.frame.runnable t'
  refine hp.mono h.outlives h.frame.clock (fun n r b hs => hs.step h.ledger) hR
    (fun l n hx hl => ?_) fun l _ hu => .inl (h.unfinished hu)
  rcases h.live hl with hl' | hr
  · exact hl'.mono hR
  · -- the lock has been cancelled, and the task is among those that this has woken
    obtain ⟨k, hk, -⟩ := hl
    obtain ⟨k', hk', -⟩ := h.outlives l k hk
    exact ⟨k', hk', .inr (hr t' a n ha hx)⟩

/-- The watcher of a new lock has the grace of its behavior. -/
theorem allows_built {cr : Creation} (hc : cr.From A) {b : Behavior} (hb : b ∈ cr.behaviors)
    {v : Watcher} (hv : b.watcher? = some v) {d : Span} (hd : v.grace? = some d) :
    (w.built cr).Allows A w.locks.length d := by
  obtain ⟨s, ws, hl⟩ := (founding_built w cr).locks
  obtain ⟨name, term, hA⟩ := hc
  refine ⟨{ w.newLock cr with strategy := s, watchers := ws }, ?_, .grace hA ?_⟩
  · rw [hl, List.getElem?_concat_length]
  · rcases Behavior.grace_of_watcher? hv hd with rfl | ⟨action, rfl⟩
    · exact .inl hb
    · exact .inr ⟨action, hb⟩

/-- A move leaves all tasks poised. -/
theorem AllPoised.move (h : w.AllPoised A) (hm : Move A D t w c w' c') : w'.AllPoised A := by
  intro t' a ha
  cases hw : w.activity? t' with
  | some b =>
    obtain rfl := Option.some.inj ((hm.frame.kept t' b hw).symm.trans ha)
    exact hm.poised hw (h t' b hw)
  | none =>
    rcases hm.activities with he | ⟨s, rfl⟩ | ⟨cr, hcr, rfl⟩
    · rw [he, hw] at ha
      cases ha
    · rcases activity?_spawn ha with ha | ⟨-, rfl⟩
      · cases hw.symm.trans ha
      · exact poised_of_idle rfl rfl rfl fun l v he => by cases he
    · obtain ⟨hr, b, v, hb, hv, rfl⟩ := (staffing_built w cr).fresh t' hw a ha
      exact poised_of_watcher hv hr fun d hd => allows_built hcr hb hv hd

theorem AllPoised.moves {x y : World × Option Engagement} (h : x.1.AllPoised A)
    (hm : Moves A D t x y) : y.1.AllPoised A := by
  induction hm with
  | refl => exact h
  | tail _ hm ih => exact ih.move hm

theorem AllPoised.quiet (h : w.AllPoised A) (hq : w.Quiet w') : w'.AllPoised A :=
  h.move (D := fun _ => True) (t := 0) (c := none) (.quiet hq)

/-! ### Turns -/

/-- A task ends its turn: it goes on with an activity, or has ended and those who wait for it are
woken. -/
def conclude (w : World) (t : TaskId) : Activity → World
  | .finished o => w.finish t o
  | a => w.setActivity t a

theorem quiet_conclude (t : TaskId) (a : Activity) :
    (w.setActivity t a).Quiet (w.conclude t a) := by
  cases a with
  | finished o => exact quiet_finish t o
  | running | watching | calling => exact .refl _

/-- The turn of a watcher. -/
theorem poll_eq_watching {v : Watcher} (h : w.activity? t = some (.watching l v)) :
    w.poll t = ((w.atTurn t).resumeWatcher t l v).1.conclude t
      (((w.atTurn t).resumeWatcher t l v).2.watching l) := by
  obtain ⟨b, ht⟩ := exists_task h
  unfold poll atTurn dismiss
  rw [ht]
  dsimp only
  split
  · next w' v' hy => rw [hy]; rfl
  · next w' hy => rw [hy]; rfl

/-- The turn of a script. -/
theorem poll_eq_calling {p : Progress} (h : w.tasks[t]? = some ⟨.calling p, false⟩) :
    w.poll t = ((w.atTurn t).resumeStep t p).1.conclude t
      ((w.atTurn t).resumeStep t p).2.calling := by
  unfold poll atTurn dismiss
  rw [h]
  dsimp only
  split
  · next ha => cases ha
  · split
    · next w' p' hy => rw [hy]; rfl
    · next w' o hy => rw [hy]; rfl

/-- The turn of a script that gives up. -/
theorem poll_eq_aborting {p : Progress} (h : w.tasks[t]? = some ⟨.calling p, true⟩) :
    w.poll t = ((w.atTurn t).abandonStep t p).conclude t (.finished .aborted) := by
  unfold poll
  rw [h]
  rfl

theorem activity?_conclude (t t' : TaskId) (a : Activity) :
    (w.conclude t a).activity? t' =
      if t = t' then (w.activity? t').map fun _ => a else w.activity? t' := by
  rw [(quiet_conclude t a).activity?, activity?_setActivity]

/-- A watcher that has not ended is still there after the turn of a task, unless it is that task and
has ended now. -/
theorem unfinished_conclude (hu : w.Unfinished l) (t : TaskId) (a : Activity) :
    (w.conclude t a).Unfinished l ∨ a.isFinished = true ∧ t ∈ w.watchersOf l := by
  obtain ⟨ws, t₁, a₁, hws, ht₁, ha₁, hf⟩ := hu
  have hws' : (w.conclude t a).rosters[l]? = some ws := by rwa [(quiet_conclude t a).rosters]
  have hact := activity?_conclude (w := w) t t₁ a
  rw [ha₁] at hact
  by_cases ht : t = t₁
  · subst ht
    rw [if_pos rfl] at hact
    cases hfa : a.isFinished with
    | true => exact .inr ⟨rfl, by rwa [watchersOf_eq, hws]⟩
    | false => exact .inl ⟨ws, t, a, hws', ht₁, hact, hfa⟩
  · rw [if_neg ht] at hact
    exact .inl ⟨ws, t₁, a₁, hws', ht₁, hact, hf⟩

/-- The end of a watcher wakes those who wait for it. -/
theorem runnable_finish (ha : w.activity? t' = some a) (hne : t ≠ t') (hj : a.joins? = some l)
    (ht : t ∈ w.watchersOf l) (o : Outcome) : (w.finish t o).Runnable t' := by
  obtain ⟨n, hx⟩ := Activity.mem_waits_finish (f := w.watchersOf) hj ht
  have ha' : (w.setActivity t (.finished o)).activity? t' = some a := by
    rwa [activity?_setActivity, if_neg hne]
  obtain ⟨b, htask⟩ := exists_task ha'
  exact runnable_wakeAll (w.setActivity t (.finished o)) htask hx (beq_self_eq_true _)

/-- When a task goes on or ends, it is poised, and so are all others. -/
theorem AllPoised.conclude (h : w.AllPoised A)
    (ha : a.isFinished = true ∨ w.Poised A False a) : (w.conclude t a).AllPoised A := by
  have hq := quiet_conclude (w := w) t a
  -- Nothing differs but the activity of the task and, if it has ended, who can run.
  have after : ∀ {b : Activity} {R R' : Prop}, w.Poised A R b → (R → R') →
      (∀ l, b.joins? = some l → w.Unfinished l → (w.conclude t a).Unfinished l ∨ R') →
      (w.conclude t a).Poised A R' b := by
    intro b R R' hp hR hj
    refine hp.mono (outlives_of_locks hq.locks) hq.clock (fun n r b hb => ?_) hR
      (fun l n _ hl => (hl.of_locks hq.locks).mono hR) hj
    rwa [ledger_congr hq.clock hq.locks hq.log]
  intro t' b hb
  rw [activity?_conclude] at hb
  split at hb
  · obtain ⟨b', -, rfl⟩ := Option.map_eq_some_iff.1 hb
    rcases ha with hf | hp
    · obtain ⟨o, rfl⟩ : ∃ o, a = .finished o := by
        cases a with
        | finished o => exact ⟨o, rfl⟩
        | running | watching | calling => cases hf
      exact poised_of_idle rfl rfl rfl fun l v he => by cases he
    · refine after hp False.elim fun l hj hu => ?_
      rcases unfinished_conclude hu t a with hu | ⟨hf, -⟩
      · exact .inl hu
      · cases a with
        | finished o => cases hj
        | running | watching | calling => cases hf
  · next hne =>
    refine after (h t' b hb) (hq.runnable t') fun l hj hu => ?_
    rcases unfinished_conclude hu t a with hu | ⟨hf, ht⟩
    · exact .inl hu
    · cases a with
      | finished o => exact .inr (runnable_finish hb hne hj ht o)
      | running | watching | calling => cases hf

theorem unfinished_atTurn (hu : w.Unfinished l) (t : TaskId) : (w.atTurn t).Unfinished l := by
  obtain ⟨ws, t₁, a₁, hws, ht₁, ha₁, hf⟩ := hu
  by_cases ht : t = t₁
  · subst ht
    exact ⟨ws, t, _, hws, ht₁, activity?_atTurn_self ha₁, rfl⟩
  · exact ⟨ws, t₁, a₁, hws, ht₁, by rwa [activity?_atTurn ht], hf⟩

/-- When a turn begins, all are poised but the task itself, which has not looked yet. -/
theorem AllPoised.atTurn (h : w.AllPoised A) (t : TaskId) :
    (w.atTurn t).AllPoised A ∧
      ∀ a, w.activity? t = some a → (w.atTurn t).Poised A True a := by
  have after : ∀ {b : Activity} {R R' : Prop}, w.Poised A R b → (R → R') →
      (w.atTurn t).Poised A R' b := fun hp hR =>
    hp.mono (outlives_of_locks rfl) rfl (fun _ _ _ hb => hb) hR
      (fun l n _ hl => (hl.of_locks rfl).mono hR) fun l _ hu => .inl (unfinished_atTurn hu t)
  refine ⟨fun t' a ha => ?_, fun a ha => after (h t a ha) fun _ => trivial⟩
  by_cases ht : t = t'
  · subst ht
    rw [World.atTurn, activity?_setActivity, if_pos rfl] at ha
    obtain ⟨b, -, rfl⟩ := Option.map_eq_some_iff.1 ha
    exact poised_of_idle rfl rfl rfl fun l v he => by cases he
  · rw [activity?_atTurn ht] at ha
    exact after (h t' a ha) (runnable_dismiss (Ne.symm ht))

/-- What is known of all tasks between two turns. -/
structure Waits (A : Step → Prop) (w : World) : Prop where
  labelled : w.Labelled A
  poised : w.AllPoised A

theorem labels_conclude (w : World) (t : TaskId) (a : Activity) :
    (w.conclude t a).labels = w.labels := by
  cases a with
  | finished o => exact labels_wakeAll _ _
  | running | watching | calling => rfl

/-- A turn that ended with a wait. -/
theorem Waits.conclude {α β : Type} {y : World × Poll α β} {S : World → α → Prop}
    (hm : y.1.AllPoised A) (hr : Rested A (w.atTurn t) S y) (hL : w.Labelled A)
    {f : Poll α β → Activity} (hd : ∀ b, (f (.done b)).isFinished = true)
    (hs : ∀ x, S y.1 x → y.1.Poised A False (f (.waiting x))) :
    (y.1.conclude t (f y.2)).Waits A where
  labelled := by
    have hL' : y.1.Labelled A :=
      hr.labelled (hL.of_eq rfl (outlives_of_locks rfl))
    exact hL'.of_eq (labels_conclude _ _ _) (outlives_of_locks (quiet_conclude t _).locks)
  poised := by
    refine hm.conclude ?_
    rcases hy : y.2 with x | b
    · exact .inr (hs x (hr.rests x hy))
    · exact .inl (hd b)

/-- A task that has nothing to do is passed over. -/
theorem Waits.dismiss (h : w.Waits A) (ha : w.activity? t = some a)
    (hi : ∀ (x : World) (R : Prop), x.Poised A R a) : (w.dismiss t).Waits A where
  labelled := h.labelled
  poised t' b hb := by
    by_cases ht : t = t'
    · subst ht
      obtain rfl := Option.some.inj (ha.symm.trans hb)
      exact hi _ _
    · exact (h.poised t' b hb).mono (outlives_of_locks rfl) rfl (fun _ _ _ hs => hs)
        (runnable_dismiss (Ne.symm ht))
        (fun l n _ hl => hl.mono (runnable_dismiss (Ne.symm ht))) fun l _ hu => .inl hu

/-- A turn leaves all tasks poised. -/
theorem Waits.poll (h : w.Waits A) (hw : w.Tame A) (t : TaskId) : (w.poll t).Waits A := by
  have hL : (w.atTurn t).Labelled A :=
    h.labelled.of_eq rfl (outlives_of_locks rfl)
  obtain ⟨hall, hself⟩ := h.poised.atTurn t
  cases ha : w.activity? t with
  | none =>
    have hp : w.poll t = w := by rw [World.poll, Option.map_eq_none_iff.1 ha]
    rwa [hp]
  | some a =>
    obtain ⟨b, ht⟩ := exists_task ha
    cases a with
    | running | finished o =>
      have hp : w.poll t = w.dismiss t := by rw [World.poll, ht]; rfl
      rw [hp]
      exact h.dismiss ha fun x R => poised_of_idle rfl rfl rfl fun l v he => by cases he
    | watching l v =>
      have hT := turn_watching (A := A) ha (hw t _ ha)
      rw [poll_eq_watching ha]
      refine Waits.conclude (hall.moves hT.stretch.moves)
        (rested_resumeWatcher (hself _ ha)) h.labelled (f := Poll.watching l) (fun _ => rfl) ?_
      exact fun v hv => hv
    | calling p =>
      obtain ⟨hp, hs⟩ := hw t _ ha
      cases b with
      | true =>
        have hm := abandonStep_stretch (A := A) (D := w.Deeds t) (t := t) p
          (fun l hr => ⟨p, true, ht, hr⟩) (w.atTurn t)
        have hf := follows_abandonStep (A := A) (t := t) (w := w.atTurn t) p
        rw [poll_eq_aborting ht]
        exact Waits.conclude (y := ((w.atTurn t).abandonStep t p, .done ()))
          (f := fun _ => .finished .aborted) (S := fun _ (_ : Unit) => True)
          (hall.moves hm.moves) (rested_done hf ()) h.labelled (fun _ => rfl)
          fun _ _ => poised_of_idle rfl rfl rfl fun l v he => by cases he
      | false =>
        have hT := turned_resumeStep (D := w.Deeds t) (t := t) p (w.atTurn t) hp hs
          fun l hd => ⟨p, false, ht, by rwa [if_neg (by decide)]⟩
        rw [poll_eq_calling ht]
        exact Waits.conclude (hall.moves hT.stretch.moves)
          (rested_resumeStep p _ hL hp (hself _ ha)) h.labelled (f := Poll.calling)
          (fun _ => rfl) fun p hp => hp

/-! ### The passage of time -/

theorem labels_advance (w : World) : w.advance.labels = w.labels := by
  unfold advance
  split
  · rfl
  · exact labels_wakeAll _ _

/-- The end of a deadline that has come wakes its task. -/
theorem Limited.advance {f : Flight} {limit : Timer} (h : w.Limited A R l f limit) (hR : ¬ R)
    (ha : w.activity? t = some a) (hv : a.visit? = some (l, .releasing f limit)) :
    w.advance.Limited A (w.advance.Runnable t) l f limit where
  sent := by
    obtain ⟨r, b, d, hs, hd, hle⟩ := h.sent
    have hl := later_advance w
    refine ⟨r, b, d, ?_, hd.outlives (outlives_of_locks hl.quiet.locks), hle⟩
    obtain ⟨rec, hrec, hr⟩ := hs
    refine ⟨rec, ?_, hr⟩
    show w.advance.log[f.record]? = _
    rw [hl.quiet.log]
    exact hrec
  ahead := by
    have hlt : w.clock < limit.due := h.ahead.resolve_right fun he => hR he.2
    have hx : (Wait.time limit.due, limit.ticket) ∈ a.waits w.watchersOf :=
      Activity.mem_waits hv (by simp [Entry.waits])
    rcases Nat.lt_or_eq_of_le (clock_advance_le (mem_dues ha hx) (Nat.le_of_lt hlt)) with hc | hc
    · exact .inl hc
    · exact .inr ⟨hc, runnable_advance ha hx (Nat.le_of_eq hc.symm)⟩

theorem not_runnable (hr : w.ready = []) (hy : w.yielded = []) (t : TaskId) : ¬ w.Runnable t := by
  rintro (hm | hm)
  · rw [hr] at hm; cases hm
  · rw [hy] at hm; cases hm

/-- The passage of time leaves all tasks poised: it does not pass over the end of a deadline. -/
theorem Waits.advance (h : w.Waits A) (hr : w.ready = []) (hy : w.yielded = []) :
    w.advance.Waits A where
  labelled :=
    h.labelled.of_eq (labels_advance w) (outlives_of_locks (later_advance w).quiet.locks)
  poised t a ha := by
    have hl := later_advance w
    rw [hl.activity?] at ha
    have hp := h.poised t a ha
    have hn : ¬ w.Runnable t := not_runnable hr hy t
    have ho : w.Outlives w.advance := outlives_of_locks hl.quiet.locks
    refine ⟨⟨fun l n hx => ?_, fun l e he => ?_, fun l d he => ?_, fun l f limit he => ?_⟩,
      fun l hj => ?_, fun l v d hv hd => ?_, fun l v hv hs => ?_⟩
    · have hx' := Activity.mem_waits_scope (g := w.watchersOf) hx
      exact ((hp.rests.live l n hx').of_locks hl.quiet.locks).mono fun h => absurd h hn
    · obtain ⟨k, hk⟩ := hp.rests.there l e he
      obtain ⟨k', hk', -⟩ := ho l k hk
      exact ⟨k', hk'⟩
    · exact (hp.rests.errand l d he).outlives ho
    · exact (hp.rests.limit l f limit he).advance hn ha he
    · obtain ⟨ws, t₁, a₁, hws, ht₁, ha₁, hf⟩ := (hp.joins l hj).resolve_right hn
      exact .inl ⟨ws, t₁, a₁, by rwa [hl.quiet.rosters], ht₁, by rwa [hl.activity?], hf⟩
    · exact (hp.grace l v d hv hd).outlives ho
    · exact absurd (hp.awake l v hv hs) hn

/-! ### Runs -/

/-- In every reachable world each label is that of a lock built under it, and every task that is
not about to have its turn waits for something that has not come. -/
theorem waits_reachable (h : Reachable A w) : w.Waits A := by
  induction h with
  | refl =>
    refine ⟨fun label l hm => ?_, fun t a ha => ?_⟩
    · cases hm
    · cases ha
  | @tail w w' hr hn ih =>
    cases hn with
    | spawn s hs =>
      exact ⟨ih.labelled.of_eq rfl (outlives_of_locks rfl),
        ih.poised.move (D := fun _ => True) (t := 0) (c := none) (.spawn s hs)⟩
    | poll t => exact ih.poll (Reachable.tame hr) t
    | draw ds =>
      have hq : w.Quiet { w with draws := ds } :=
        ⟨rfl, rfl, rfl, rfl, rfl, rfl, rfl, fun _ h => h⟩
      exact ⟨ih.labelled.of_eq rfl (outlives_of_locks rfl), ih.poised.quiet hq⟩
    | advance hr hy => exact ih.advance hr hy

/-- When time passes, nobody waits for the cancellation of a lock that is cancelled. -/
theorem not_mem_waits_scope (h : Reachable A w) (hr : w.ready = []) (hy : w.yielded = [])
    (hc : w.isCancelled l = true) (ha : w.activity? t = some a) (n : Nat) :
    (.scope l, n) ∉ a.waits w.watchersOf := by
  intro hx
  obtain ⟨k, hk, hlive⟩ := ((waits_reachable h).poised t a ha).rests.live l n hx
  rw [isCancelled_eq hk] at hc
  rcases hlive with hlive | hlive
  · cases hc.symm.trans hlive
  · exact not_runnable hr hy t hlive

end Leasehold.World
