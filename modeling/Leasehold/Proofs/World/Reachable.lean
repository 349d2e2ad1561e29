import Mathlib.Logic.Function.Iterate
import Leasehold.Proofs.World.Script

/-!
# Runs

A run starts with nothing and goes on by turns of tasks in any order, by new scripts from outside,
and by the passage of time when no task can run.

* `World.Next`, `World.Reachable`: one step of a run, and the worlds that runs lead to.
* `World.RunWhile`: runs in all of whose worlds something holds.
* `World.Drops`, `World.Deeds`: what the next turn of a task may do.
* `World.Frame`: what moves leave as it is.
* `World.poll_cases`: a turn of a task is a stretch of moves.
* `Kept.run`: what every move keeps is kept by runs.
-/

namespace Leasehold

/-- What a task does that has not had a turn: a script within its bounds, or a watcher. -/
def Activity.New (A : Step → Prop) : Activity → Prop
  | calling (.unstarted s) => s.Within A
  | watching _ v => ∃ b : Behavior, b.watcher? = some v
  | _ => False

theorem Activity.New.engagement {A : Step → Prop} {a : Activity} (h : a.New A) :
    a.engagement = none := by
  cases a with
  | running => cases h
  | watching l v =>
    obtain ⟨b, hb⟩ := h
    exact Behavior.engagement_of_watcher? hb l
  | calling p =>
    cases p with
    | unstarted s => rfl
    | _ => cases h
  | finished o => cases h

/-- What a watcher's task does after its turn. -/
def Poll.watching (l : LockId) : Poll Watcher Unit → Activity
  | .waiting v => .watching l v
  | .done _ => .finished .nothing

/-- What a script's task does after its turn. -/
def Poll.calling : Poll Progress Outcome → Activity
  | .waiting p => .calling p
  | .done o => .finished o

namespace World

variable {A : Step → Prop} {D : Deed → Prop} {t : TaskId} {w w' w'' : World}
  {c c' : Option Engagement} {l : LockId}

/-- What a task is doing, if there is one. -/
def activity? (w : World) (t : TaskId) : Option Activity := w.tasks[t]?.map (·.activity)

theorem engagements_eq (w : World) (t : TaskId) :
    w.engagements t = (w.activity? t).bind Activity.engagement := by
  unfold engagements activity?
  cases w.tasks[t]? <;> rfl

/-! ### What moves leave as it is -/

/-- Time stands still, no task is taken away or disturbed, and none that can run is forgotten. -/
structure Frame (A : Step → Prop) (w w' : World) : Prop where
  clock : w'.clock = w.clock
  kept : ∀ t a, w.activity? t = some a → w'.activity? t = some a
  new : ∀ t a, w'.activity? t = some a → w.activity? t = some a ∨ w.activity? t = none ∧ a.New A
  runnable : ∀ t, w.Runnable t → w'.Runnable t

namespace Frame

theorem of_eq (hc : w'.clock = w.clock) (ht : w'.tasks = w.tasks)
    (hr : ∀ t, w.Runnable t → w'.Runnable t) : Frame A w w' := by
  have ha : w'.activity? = w.activity? := by
    unfold activity?
    rw [ht]
  exact ⟨hc, fun t a h => by rw [ha]; exact h, fun t a h => .inl (by rw [← ha]; exact h), hr⟩

theorem refl (A : Step → Prop) (w : World) : Frame A w w := of_eq rfl rfl fun _ h => h

theorem trans (h : Frame A w w') (h' : Frame A w' w'') : Frame A w w'' where
  clock := h'.clock.trans h.clock
  kept t a ha := h'.kept t a (h.kept t a ha)
  new t a ha := by
    rcases h'.new t a ha with ha | ⟨hn, ha⟩
    · exact h.new t a ha
    · cases hw : w.activity? t with
      | none => exact .inr ⟨rfl, ha⟩
      | some b => rw [h.kept t b hw] at hn; cases hn
  runnable t ht := h'.runnable t (h.runnable t ht)

end Frame

theorem Quiet.activity? (h : w.Quiet w') : w'.activity? = w.activity? := by
  funext t
  have := congrArg (·[t]?) h.activities
  simpa only [World.activity?, List.getElem?_map] using this

theorem Quiet.frame (h : w.Quiet w') : Frame A w w' :=
  ⟨h.clock, fun t a ha => by rw [h.activity?]; exact ha,
    fun t a ha => .inl (by rw [← h.activity?]; exact ha), h.runnable⟩

theorem frame_updateLock (f : Lock → Lock) : Frame A w (w.updateLock l f) :=
  .of_eq rfl rfl fun _ h => h

theorem frame_leave (t : TaskId) : Frame A w (w.leave t l) :=
  (frame_updateLock _).trans (quiet_leave w t l).frame

theorem frame_cancelScope : Frame A w (w.cancelScope l) :=
  (frame_updateLock _).trans (quiet_cancelScope w l).frame

theorem frame_settleCall (r : Request) (p : Plan) : Frame A w (w.settleCall r p).1 := by
  unfold settleCall
  split
  · exact .refl A w
  · exact .of_eq rfl rfl fun _ h => h

theorem frame_takePlan (op : Operation) : Frame A w (w.takePlan op).1 := by
  unfold takePlan
  split
  · exact .of_eq rfl rfl fun _ h => h
  · exact .refl A w

theorem frame_sent (r : Request) : Frame A w (w.sent r) :=
  (frame_takePlan r.operation).trans (.of_eq rfl rfl fun _ h => h)

theorem frame_concluded (call : LeaseCall) (a : Answer) : Frame A w (w.concluded l call a) := by
  cases call with
  | acquire =>
    cases a with
    | ok u => exact frame_updateLock _
    | error e => exact .refl A w
  | renew => exact .refl A w
  | release => exact frame_cancelScope

/-- A new task. -/
theorem frame_append {tasks : List Task} (ht : w'.tasks = w.tasks ++ tasks)
    (hn : ∀ task ∈ tasks, task.activity.New A) (hc : w'.clock = w.clock)
    (hr : ∀ t, w.Runnable t → w'.Runnable t) : Frame A w w' where
  clock := hc
  kept t a ha := by
    unfold activity? at ha ⊢
    obtain ⟨task, htask, rfl⟩ := Option.map_eq_some_iff.1 ha
    rw [ht, List.getElem?_append_left (List.getElem?_eq_some_iff.1 htask).1, htask]
    rfl
  new t a ha := by
    unfold activity? at ha ⊢
    rw [ht] at ha
    obtain ⟨task, htask, rfl⟩ := Option.map_eq_some_iff.1 ha
    rcases Nat.lt_or_ge t w.tasks.length with hlt | hge
    · rw [List.getElem?_append_left hlt] at htask
      exact .inl (by rw [htask]; rfl)
    · rw [List.getElem?_append_right hge] at htask
      refine .inr ⟨?_, hn task (List.mem_of_getElem? htask)⟩
      rw [List.getElem?_eq_none hge]
      rfl
  runnable := hr

/-- Moves leave the frame as it is. -/
theorem Move.frame (h : Move A D t w c w' c') : Frame A w w' := by
  cases h with
  | quiet h => exact h.frame
  | own l f g => exact frame_updateLock _
  | cancel l => exact frame_cancelScope
  | lose l reason _ _ _ => exact (frame_updateLock _).trans (quiet_raiseLoss w l reason).frame
  | parent | foreign | revoke | inject | plan | told | forget => exact .of_eq rfl rfl fun _ h => h
  | spawn s hs =>
    refine frame_append (rfl : _ = w.tasks ++ [⟨.calling (.unstarted s), false⟩]) ?_ rfl ?_
    · intro task hm
      rw [List.mem_singleton.1 hm]
      exact hs
    · exact fun t ht => ht.imp_left (List.mem_append_left _)
  | build cr _ =>
    have hf := founding_built w cr
    obtain ⟨new, ht, hn⟩ := hf.tasks
    refine frame_append ht (fun task hm => ?_) hf.clock hf.runnable
    obtain ⟨b, v, -, hv, ha⟩ := hn task hm
    rw [ha]
    exact ⟨b, hv⟩
  | enqueue l errand _ => exact frame_updateLock _
  | leave l e _ _ => exact frame_leave t
  | abandon l e _ _ => exact frame_leave t
  | send l k errand call _ _ _ _ _ => exact (frame_updateLock _).trans (frame_sent _)
  | arrive l call r n p => exact frame_settleCall r p
  | receive l call r n a =>
    have ha : Frame A w (w.answered n a) := .of_eq rfl rfl fun _ h => h
    exact (ha.trans (frame_concluded call a)).trans (frame_leave t)
  | ask r _ => exact frame_sent r
  | provision r n p => exact frame_settleCall r p

theorem Move.now_eq (h : Move A D t w c w' c') : w'.now = w.now := by
  rw [World.now, h.frame.clock, World.now]

theorem Moves.frame {x y : World × Option Engagement} (h : Moves A D t x y) :
    Frame A x.1 y.1 := by
  induction h with
  | refl => exact .refl A _
  | tail _ hm ih => exact ih.trans hm.frame

/-! ### Turns -/

/-- A script under way keeps within its bounds, and the locks of its sections are begun; a watcher
is in a phase that fits. -/
def Orderly (A : Step → Prop) (w : World) : Activity → Prop
  | .calling p => p.Proper A ∧ ∀ l ∈ p.sections, w.Begun l
  | .watching l v => w.Fits l v
  | _ => True

/-- All that tasks do is within bounds. -/
def Tame (A : Step → Prop) (w : World) : Prop := ∀ t a, w.activity? t = some a → w.Orderly A a

/-- A task is taken off the lists of those that can run. -/
def dismiss (w : World) (t : TaskId) : World :=
  { w with ready := w.ready.erase t, yielded := w.yielded.erase t }

/-- The world in which a task's turn begins. -/
def atTurn (w : World) (t : TaskId) : World := (w.dismiss t).setActivity t .running

/-- Nothing that locks and calls depend on differs. -/
structure Unmoved (w w' : World) : Prop where
  clock : w'.clock = w.clock
  store : w'.store = w.store
  plans : w'.plans = w.plans
  log : w'.log = w.log
  locks : w'.locks = w.locks

theorem Quiet.unmoved (h : w.Quiet w') : w.Unmoved w' :=
  ⟨h.clock, h.store, h.plans, h.log, h.locks⟩

theorem activity?_setActivity (a : Activity) (t' : TaskId) :
    (w.setActivity t a).activity? t' =
      if t = t' then (w.activity? t').map fun _ => a else w.activity? t' := by
  show ((w.tasks.modify t _)[t']?).map _ = _
  unfold activity?
  rw [List.getElem?_modify]
  cases w.tasks[t']? with
  | none => split <;> rfl
  | some task => split <;> rfl

/-- The next turn of the task drops a release call of the lock: the task was told to give up, or a
loss ends the section that the call is made in. -/
def Drops (w : World) (t : TaskId) (l : LockId) : Prop :=
  ∃ p b, w.tasks[t]? = some ⟨.calling p, b⟩ ∧ if b then p.Releases l else p.Drops w.lossOf l

/-- What the next turn of the task may do. -/
def Deeds (w : World) (t : TaskId) : Deed → Prop
  | .drop l => w.Drops t l
  | .lose l => ∃ v : Watcher, w.activity? t = some (.watching l v) ∧ v.Loops

/-- A turn in which something happens. -/
structure Turn (A : Step → Prop) (t : TaskId) (w w' : World) (a a' : Activity) : Prop where
  before : w.activity? t = some a
  stretch : Stretch A (w.Deeds t) t (w.atTurn t) a.engagement w' a'.engagement
  proper : w'.Orderly A a'

/-- What a turn of a task comes to. -/
inductive PollCases (A : Step → Prop) (t : TaskId) (w w'' : World) : Prop
  | absent : w.activity? t = none → w'' = w → PollCases A t w w''
  | ended (a : Activity) : w.activity? t = some a → a.engagement = none → w'' = w.dismiss t →
      PollCases A t w w''
  | turn (w' : World) (a a' : Activity) : Turn A t w w' a a' →
      (w'.setActivity t a').Quiet w'' → PollCases A t w w''

theorem exists_task {a : Activity} (h : w.activity? t = some a) :
    ∃ b, w.tasks[t]? = some ⟨a, b⟩ := by
  obtain ⟨⟨a', b⟩, ht, rfl⟩ := Option.map_eq_some_iff.1 h
  exact ⟨b, ht⟩

theorem quiet_finish (t : TaskId) (o : Outcome) :
    (w.setActivity t (.finished o)).Quiet (w.finish t o) := quiet_wakeAll _ _

/-- The turn of a watcher. -/
theorem poll_watching {v : Watcher} (h : w.activity? t = some (.watching l v)) :
    (((w.atTurn t).resumeWatcher t l v).1.setActivity t
      (((w.atTurn t).resumeWatcher t l v).2.watching l)).Quiet (w.poll t) := by
  obtain ⟨b, ht⟩ := exists_task h
  unfold poll atTurn dismiss
  rw [ht]
  dsimp only
  split
  · next w' v' hy => rw [hy]; exact .refl _
  · next w' hy => rw [hy]; exact quiet_finish t _

/-- The turn of a script that was not told to give up. -/
theorem poll_calling {p : Progress} (h : w.tasks[t]? = some ⟨.calling p, false⟩) :
    (((w.atTurn t).resumeStep t p).1.setActivity t
      ((w.atTurn t).resumeStep t p).2.calling).Quiet (w.poll t) := by
  unfold poll atTurn dismiss
  rw [h]
  dsimp only
  split
  · next ha => cases ha
  · split
    · next w' p' hy => rw [hy]; exact .refl _
    · next w' o hy => rw [hy]; exact quiet_finish t o

/-- The turn of a script that was told to give up. -/
theorem poll_aborting {p : Progress} (h : w.tasks[t]? = some ⟨.calling p, true⟩) :
    (((w.atTurn t).abandonStep t p).setActivity t (.finished .aborted)).Quiet (w.poll t) := by
  unfold poll
  rw [h]
  exact quiet_finish t _

theorem engagement_watching (y : Poll Watcher Unit) :
    (y.watching l).engagement = y.engagement (Watcher.engagement l) := by
  cases y <;> rfl

theorem engagement_calling (y : Poll Progress Outcome) :
    y.calling.engagement = y.engagement Progress.engagement := by
  cases y <;> rfl

theorem turn_watching {v : Watcher} (h : w.activity? t = some (.watching l v)) (hv : w.Fits l v) :
    Turn A t w ((w.atTurn t).resumeWatcher t l v).1 (.watching l v)
      (((w.atTurn t).resumeWatcher t l v).2.watching l) where
  before := h
  stretch := by
    rw [engagement_watching]
    exact resumeWatcher_stretch (hv.outlives (outlives_of_locks rfl)) fun hl => ⟨v, h, hl⟩
  proper := by
    have hv' : (w.atTurn t).Fits l v := hv.outlives (outlives_of_locks rfl)
    have hf := fits_resumeWatcher (t := t) hv'
    rcases hy : ((w.atTurn t).resumeWatcher t l v).2 with v' | u
    · exact hf v' hy
    · trivial

theorem turn_calling {p : Progress} (h : w.tasks[t]? = some ⟨.calling p, false⟩)
    (hp : w.Orderly A (.calling p)) :
    Turn A t w ((w.atTurn t).resumeStep t p).1 (.calling p)
      ((w.atTurn t).resumeStep t p).2.calling := by
  have hT := turned_resumeStep (D := w.Deeds t) (t := t) p (w.atTurn t) hp.1 hp.2
    fun l hd => ⟨p, false, h, by rwa [if_neg (by decide)]⟩
  refine ⟨by rw [activity?, h]; rfl, ?_, ?_⟩
  · rw [engagement_calling]
    exact hT.stretch
  · rcases hy : ((w.atTurn t).resumeStep t p).2 with p' | o
    · exact ⟨hT.proper p' hy, hT.sections p' hy⟩
    · trivial

/-- A turn is a stretch of moves, unless there is nothing to do. -/
theorem poll_cases (hw : w.Tame A) (t : TaskId) : PollCases A t w (w.poll t) := by
  cases ha : w.activity? t with
  | none =>
    have hp : w.poll t = w := by rw [poll, Option.map_eq_none_iff.1 ha]
    exact .absent ha hp
  | some a =>
    obtain ⟨b, ht⟩ := exists_task ha
    cases a with
    | running =>
      have hp : w.poll t = w.dismiss t := by rw [poll, ht]; rfl
      exact .ended _ ha rfl hp
    | finished o =>
      have hp : w.poll t = w.dismiss t := by rw [poll, ht]; rfl
      exact .ended _ ha rfl hp
    | watching l v => exact .turn _ _ _ (turn_watching ha (hw t _ ha)) (poll_watching ha)
    | calling p =>
      obtain ⟨hp, hs⟩ := hw t _ ha
      cases b with
      | true =>
        have h := abandonStep_stretch (A := A) (D := w.Deeds t) (t := t) p
          (fun l hr => ⟨p, true, ht, hr⟩) (w.atTurn t)
        exact .turn _ _ (.finished .aborted) ⟨ha, h, trivial⟩ (poll_aborting ht)
      | false => exact .turn _ _ _ (turn_calling ht ⟨hp, hs⟩) (poll_calling ht)

/-! ### Engagements after a turn -/

/-- After a turn the task does what it ended with, and all others are as the moves left them. -/
theorem Turn.activity? {a a' : Activity} (h : Turn A t w w' a a')
    (hq : (w'.setActivity t a').Quiet w'') (t' : TaskId) :
    w''.activity? t' = if t = t' then some a' else w'.activity? t' := by
  rw [hq.activity?, activity?_setActivity]
  split
  · next ht =>
    subst ht
    have hr : (w.atTurn t).activity? t = some .running := by
      rw [atTurn, activity?_setActivity, if_pos rfl]
      show (w.activity? t).map _ = _
      rw [h.before]
      rfl
    rw [h.stretch.moves.frame.kept t _ hr]
    rfl
  · rfl

theorem activity?_atTurn {t' : TaskId} (h : t ≠ t') :
    (w.atTurn t).activity? t' = w.activity? t' := by
  rw [atTurn, activity?_setActivity, if_neg h]
  rfl

/-- New tasks are engaged in nothing. -/
theorem Frame.engagements (h : Frame A w w') : w'.engagements = w.engagements := by
  funext t
  rw [engagements_eq, engagements_eq]
  cases hb : w'.activity? t with
  | some b =>
    rcases h.new t b hb with hb' | ⟨hn, hb'⟩
    · rw [hb']
    · rw [hn]
      exact hb'.engagement
  | none =>
    cases hb' : w.activity? t with
    | none => rfl
    | some b => rw [h.kept t b hb'] at hb; cases hb

/-- After a turn the task is engaged in what it ended with, and all others as before. -/
theorem Turn.engagements {a a' : Activity} (h : Turn A t w w' a a')
    (hq : (w'.setActivity t a').Quiet w'') :
    w''.engagements = Function.update w.engagements t a'.engagement := by
  funext t'
  by_cases ht : t = t'
  · subst ht
    rw [engagements_eq, h.activity? hq, if_pos rfl, Function.update_self]
    rfl
  · have hf : Frame A (w.atTurn t) w' := h.stretch.moves.frame
    rw [engagements_eq, h.activity? hq, if_neg ht, Function.update_of_ne (Ne.symm ht),
      ← engagements_eq, hf.engagements, engagements_eq, activity?_atTurn ht, engagements_eq]

/-! ### Runs -/

/-- One step of a run whose scripts satisfy `A`. -/
inductive Next (A : Step → Prop) (w : World) : World → Prop
  /-- A new script begins. -/
  | spawn (s : Step) : s.Within A → Next A w (w.spawn (.calling (.unstarted s))).1
  /-- Some task has a turn. -/
  | poll (t : TaskId) : Next A w (w.poll t)
  /-- From now on random delays are drawn from a list. -/
  | draw (ds : List Draw) : Next A w { w with draws := ds }
  /-- Time passes when no task can run. -/
  | advance : w.ready = [] → w.yielded = [] → Next A w w.advance

/-- One step of a run, with the task whose turn it is. -/
inductive NextBy (A : Step → Prop) (w : World) : Option TaskId → World → Prop
  | spawn (s : Step) : s.Within A → NextBy A w none (w.spawn (.calling (.unstarted s))).1
  | poll (t : TaskId) : NextBy A w (some t) (w.poll t)
  | draw (ds : List Draw) : NextBy A w none { w with draws := ds }
  | advance : w.ready = [] → w.yielded = [] → NextBy A w none w.advance

theorem next_iff : Next A w w' ↔ ∃ o, NextBy A w o w' := by
  constructor
  · rintro (⟨s, hs⟩ | t | ds | ⟨hr, hy⟩)
    · exact ⟨_, .spawn s hs⟩
    · exact ⟨_, .poll t⟩
    · exact ⟨_, .draw ds⟩
    · exact ⟨_, .advance hr hy⟩
  · rintro ⟨o, ⟨s, hs⟩ | t | ds | ⟨hr, hy⟩⟩
    · exact .spawn s hs
    · exact .poll t
    · exact .draw ds
    · exact .advance hr hy

theorem NextBy.next {o : Option TaskId} (h : NextBy A w o w') : Next A w w' := next_iff.2 ⟨o, h⟩

/-- A run leads from one world to another. -/
def Run (A : Step → Prop) (w w' : World) : Prop := Relation.ReflTransGen (Next A) w w'

/-- A run leads to the world. -/
def Reachable (A : Step → Prop) (w : World) : Prop := Run A start w

/-- The scheduler's own moves are steps of a run. -/
theorem next_turn (w : World) : Next A w w.turn := by
  unfold turn
  split
  · exact .poll _
  · next hr =>
    split
    · exact .poll _
    · next hy => exact .advance hr hy

theorem run_iterate_turn (w : World) (n : Nat) : Run A w (turn^[n] w) := by
  induction n generalizing w with
  | zero => exact .refl
  | succ n ih => exact .head (next_turn w) (ih w.turn)

/-- A run in all of whose worlds `P` holds, the first and the last one included. -/
inductive RunWhile (A : Step → Prop) (P : World → Prop) (w₁ : World) : World → Prop
  | start : P w₁ → RunWhile A P w₁ w₁
  | step {w w' : World} : RunWhile A P w₁ w → Next A w w' → P w' → RunWhile A P w₁ w'

theorem RunWhile.run {P : World → Prop} (h : RunWhile A P w w') : Run A w w' := by
  induction h with
  | start => exact .refl
  | step _ hn _ ih => exact ih.tail hn

theorem RunWhile.last {P : World → Prop} (h : RunWhile A P w w') : P w' := by
  cases h <;> assumption

theorem RunWhile.mono {P Q : World → Prop} (h : RunWhile A P w w') (hPQ : ∀ x, P x → Q x) :
    RunWhile A Q w w' := by
  induction h with
  | start hp => exact .start (hPQ _ hp)
  | step _ hn hp ih => exact .step ih hn (hPQ _ hp)

theorem runWhile_iterate {P : World → Prop} {n : Nat} (hP : ∀ i ≤ n, P (turn^[i] w)) :
    RunWhile A P w (turn^[n] w) := by
  induction n with
  | zero => exact .start (hP 0 (Nat.le_refl 0))
  | succ n ih =>
    have h : RunWhile A P w (turn^[n] w) := ih fun i hi => hP i (Nat.le_succ_of_le hi)
    have hn : P (turn^[n + 1] w) := hP (n + 1) (Nat.le_refl _)
    rw [Function.iterate_succ_apply'] at hn ⊢
    exact h.step (next_turn _) hn

/-- A script within bounds leads to reachable worlds. -/
theorem reachable_ofScript {steps : List Step} (hs : (Step.steps steps).Within A) (n : Nat) :
    Reachable A (turn^[n] (ofScript steps)) :=
  .head (.spawn _ hs) (run_iterate_turn _ n)

theorem Orderly.outlives {a : Activity} (h : w.Orderly A a) (ho : w.Outlives w') :
    w'.Orderly A a := by
  cases a with
  | calling p => exact ⟨h.1, fun l hl => (h.2 l hl).outlives ho⟩
  | watching l v => exact Fits.outlives h ho
  | _ => trivial

/-- The phase of a watcher before its first turn says nothing. -/
theorem fits_of_watcher? {b : Behavior} {v : Watcher} (h : b.watcher? = some v) (w : World)
    (l : LockId) : w.Fits l v := by
  cases b <;> simp only [Behavior.watcher?, Option.some.injEq, reduceCtorEq] at h <;> subst h <;>
    trivial

theorem orderly_of_new {a : Activity} (h : a.New A) (w : World) : w.Orderly A a := by
  cases a with
  | calling p =>
    cases p with
    | unstarted s => exact ⟨h, by intro l hl; cases hl⟩
    | _ => cases h
  | watching l v =>
    obtain ⟨b, hb⟩ := h
    exact fits_of_watcher? hb w l
  | _ => trivial

theorem Tame.frame (hw : w.Tame A) (h : Frame A w w') (ho : w.Outlives w') : w'.Tame A := by
  intro t a ha
  rcases h.new t a ha with ha | ⟨-, ha⟩
  · exact (hw t a ha).outlives ho
  · exact orderly_of_new ha w'

theorem Tame.atTurn (hw : w.Tame A) (t : TaskId) : (w.atTurn t).Tame A := by
  intro t' a ha
  by_cases ht : t = t'
  · subst ht
    rw [World.atTurn, activity?_setActivity, if_pos rfl] at ha
    obtain ⟨b, -, rfl⟩ := Option.map_eq_some_iff.1 ha
    trivial
  · exact hw t' a (by rw [← activity?_atTurn ht]; exact ha)

/-- A turn keeps all tasks within bounds. -/
theorem Turn.tame {a a' : Activity} (h : Turn A t w w' a a')
    (hq : (w'.setActivity t a').Quiet w'') (hw : w.Tame A) : w''.Tame A := by
  have ho : w'.Outlives w'' := outlives_of_locks hq.locks
  have hw' : w'.Tame A :=
    (hw.atTurn t).frame h.stretch.moves.frame h.stretch.moves.outlives
  intro t' b hb
  rw [h.activity? hq] at hb
  split at hb
  · cases hb
    exact Orderly.outlives h.proper ho
  · exact (hw' t' b hb).outlives ho

theorem Tame.poll (hw : w.Tame A) (t : TaskId) : (w.poll t).Tame A := by
  cases poll_cases hw t with
  | absent _ he => rw [he]; exact hw
  | ended a _ _ he => rw [he]; exact hw
  | turn w' a a' h hq => exact h.tame hq hw

theorem frame_spawn {s : Step} (hs : s.Within A) :
    Frame A w (w.spawn (.calling (.unstarted s))).1 :=
  (Move.spawn (D := fun _ => True) (t := 0) (c := none) s hs).frame

/-- Time has passed, and the tasks whose timers have fired are woken. -/
structure Later (w w' : World) : Prop where
  le : w.clock ≤ w'.clock
  quiet : { w with clock := w'.clock }.Quiet w'

theorem quiet_advanceTo (w : World) (n : Nat) : { w with clock := n }.Quiet (w.advanceTo n) :=
  quiet_wakeAll _ _

theorem clock_advanceTo (w : World) (n : Nat) : (w.advanceTo n).clock = n :=
  (quiet_advanceTo w n).clock

theorem later_advanceTo {n : Nat} (h : w.clock ≤ n) : w.Later (w.advanceTo n) where
  le := by rw [clock_advanceTo]; exact h
  quiet := by rw [clock_advanceTo]; exact quiet_advanceTo w n

theorem later_advance (w : World) : w.Later w.advance := by
  unfold advance
  split
  · exact ⟨Nat.le_refl _, .refl w⟩
  · exact later_advanceTo (Nat.le_max_left _ _)

theorem Later.activity? (h : w.Later w') : w'.activity? = w.activity? := h.quiet.activity?

/-- Every step keeps all tasks within bounds. -/
theorem Tame.next (hw : w.Tame A) (h : Next A w w') : w'.Tame A := by
  cases h with
  | spawn s hs => exact hw.frame (frame_spawn hs) (outlives_of_locks rfl)
  | poll t => exact hw.poll t
  | draw ds => exact hw
  | advance _ _ =>
    have hl := later_advance w
    intro t a ha
    rw [hl.activity?] at ha
    exact (hw t a ha).outlives (outlives_of_locks hl.quiet.locks)

theorem Tame.run (hw : w.Tame A) (h : Run A w w') : w'.Tame A := by
  induction h with
  | refl => exact hw
  | tail _ hn ih => exact ih.next hn

/-- A turn of another task does not disturb what a task is doing. -/
theorem activity?_other (hw : w.Tame A) {o : Option TaskId} (h : NextBy A w o w') (ht : t ∉ o)
    {a : Activity} (ha : w.activity? t = some a) : w'.activity? t = some a := by
  cases h with
  | spawn s hs => exact (frame_spawn hs).kept t a ha
  | poll t' =>
    have hne : t' ≠ t := fun he => ht (congrArg some he)
    cases poll_cases hw t' with
    | absent _ he => rwa [he]
    | ended a' _ _ he => rwa [he]
    | turn w' a' a'' hT hq =>
      rw [hT.activity? hq, if_neg hne]
      exact hT.stretch.moves.frame.kept t a (by rw [activity?_atTurn hne]; exact ha)
  | draw ds => exact ha
  | advance _ _ =>
    rw [(later_advance w).activity?]
    exact ha

/-- What a task is doing after a turn of another one it was doing before, unless it is new. -/
theorem activity?_before (hw : w.Tame A) {o : Option TaskId} (h : NextBy A w o w') (ht : t ∉ o)
    {a : Activity} (ha : w'.activity? t = some a) : w.activity? t = some a ∨ a.New A := by
  cases h with
  | spawn s hs => exact ((frame_spawn hs).new t a ha).imp_right And.right
  | poll t' =>
    have hne : t' ≠ t := fun he => ht (congrArg some he)
    cases poll_cases hw t' with
    | absent _ he => exact .inl (by rwa [he] at ha)
    | ended a' _ _ he => exact .inl (by rwa [he] at ha)
    | turn w' a' a'' hT hq =>
      rw [hT.activity? hq, if_neg hne] at ha
      rcases hT.stretch.moves.frame.new t a ha with ha | ⟨-, ha⟩
      · exact .inl (by rwa [activity?_atTurn hne] at ha)
      · exact .inr ha
  | draw ds => exact .inl ha
  | advance _ _ =>
    rw [(later_advance w).activity?] at ha
    exact .inl ha

/-- The task has ended. -/
def Ended (w : World) (t : TaskId) : Prop := ∃ o, w.activity? t = some (.finished o)

theorem ended_of_isFinished (h : (w.activity? t).any Activity.isFinished = true) : w.Ended t := by
  unfold Ended
  cases ha : w.activity? t with
  | none => rw [ha] at h; cases h
  | some a =>
    rw [ha] at h
    cases a with
    | finished o => exact ⟨o, rfl⟩
    | running | watching | calling => cases h

/-- The activity is that of a watcher of the lock, one with the property. -/
def isWatching (l : LockId) (P : Watcher → Prop) [DecidablePred P] : Activity → Bool
  | .watching l' v => l' == l && decide (P v)
  | _ => false

theorem exists_watching {P : Watcher → Prop} [DecidablePred P]
    (h : (w.activity? t).any (isWatching l P) = true) :
    ∃ v, w.activity? t = some (.watching l v) ∧ P v := by
  cases ha : w.activity? t with
  | none => rw [ha] at h; cases h
  | some a =>
    rw [ha] at h
    cases a with
    | watching l' v =>
      obtain ⟨hl, hP⟩ := Bool.and_eq_true_iff.1 h
      obtain rfl := eq_of_beq hl
      exact ⟨v, rfl, of_decide_eq_true hP⟩
    | running | calling | finished => cases h

/-- A task that has ended does nothing more. -/
theorem Ended.next (h : w.Ended t) (hw : w.Tame A) {o : Option TaskId} (hn : NextBy A w o w') :
    w'.Ended t := by
  obtain ⟨u, ha⟩ := h
  by_cases ht : t ∈ o
  · cases hn with
    | poll t' =>
      cases ht
      obtain ⟨b, htask⟩ := exists_task ha
      refine ⟨u, ?_⟩
      rw [poll, htask]
      exact ha
    | spawn | draw | advance => cases ht
  · exact ⟨u, activity?_other hw hn ht ha⟩

/-- What a watcher is doing after its turn. -/
theorem activity?_poll_watching (hw : w.Tame A) {v : Watcher}
    (h : w.activity? t = some (.watching l v)) :
    (w.poll t).activity? t = some (((w.atTurn t).resumeWatcher t l v).2.watching l) := by
  have ha := (turn_watching (A := A) h (hw t _ h)).activity? (poll_watching h) t
  rwa [if_pos rfl] at ha

theorem tame_start (A : Step → Prop) : start.Tame A := by
  intro t a ha
  cases ha

theorem Reachable.tame (h : Reachable A w) : w.Tame A := (tame_start A).run h

/-! ### Invariants -/

section Invariant

variable {P : (Deed → Prop) → Prop} {I : World → (TaskId → Option Engagement) → Prop}

/-- What every move of a task keeps is kept by sequences of moves. -/
theorem Moves.keep {x y : World × Option Engagement} (h : Moves A D t x y)
    {J : World → (TaskId → Option Engagement) → Prop}
    (hJ : ∀ w E c' w', J w E → Move A D t w (E t) w' c' → J w' (Function.update E t c'))
    {E : TaskId → Option Engagement} (hx : J x.1 (Function.update E t x.2)) :
    J y.1 (Function.update E t y.2) := by
  induction h with
  | refl => exact hx
  | tail _ hm ih =>
    have := hJ _ _ _ _ ih (by rw [Function.update_self]; exact hm)
    rwa [Function.update_idem] at this

/-- What every move of tasks whose deeds satisfy `P` keeps, whatever the other tasks are engaged
in. -/
structure Moving (A : Step → Prop) (P : (Deed → Prop) → Prop)
    (I : World → (TaskId → Option Engagement) → Prop) : Prop where
  books : ∀ w w' E, w.Unmoved w' → I w E → I w' E
  move : ∀ D w w' E t c', P D → I w E → Move A D t w (E t) w' c' → I w' (Function.update E t c')

theorem Moving.moves (hI : Moving A P I) {x y : World × Option Engagement} (h : Moves A D t x y)
    (hD : P D) {E : TaskId → Option Engagement} (hx : I x.1 (Function.update E t x.2)) :
    I y.1 (Function.update E t y.2) :=
  h.keep (fun w E c' w' hw hm => hI.move D w w' E t c' hD hw hm) hx

theorem unmoved_atTurn (w : World) (t : TaskId) : w.Unmoved (w.atTurn t) :=
  ⟨rfl, rfl, rfl, rfl, rfl⟩

theorem unmoved_setActivity (w : World) (t : TaskId) (a : Activity) :
    w.Unmoved (w.setActivity t a) := ⟨rfl, rfl, rfl, rfl, rfl⟩

theorem Moving.turn (hI : Moving A P I) {a a' : Activity} (h : Turn A t w w' a a')
    (hq : (w'.setActivity t a').Quiet w'') (hP : P (w.Deeds t)) (hw : I w w.engagements) :
    I w'' w''.engagements := by
  have hb : I (w.atTurn t) (Function.update w.engagements t a.engagement) := by
    have he : w.engagements t = a.engagement := by rw [engagements_eq, h.before]; rfl
    rw [← he, Function.update_eq_self]
    exact hI.books _ _ _ (unmoved_atTurn w t) hw
  have hm := hI.moves h.stretch.moves hP hb
  rw [h.engagements hq]
  exact hI.books _ _ _ hq.unmoved (hI.books _ _ _ (unmoved_setActivity w' t a') hm)

theorem Moving.poll (hI : Moving A P I) (ht : w.Tame A) (hw : I w w.engagements)
    (hP : P (w.Deeds t)) : I (w.poll t) (w.poll t).engagements := by
  cases poll_cases ht t with
  | absent _ he => rw [he]; exact hw
  | ended a _ _ he =>
    rw [he]
    exact hI.books w (w.dismiss t) _ ⟨rfl, rfl, rfl, rfl, rfl⟩ hw
  | turn w' a a' h hq => exact hI.turn h hq hP hw

theorem Later.engagements (h : w.Later w') : w'.engagements = w.engagements := by
  funext t
  rw [engagements_eq, engagements_eq, h.activity?]

/-- What every move keeps is kept by the steps of runs, if it is by those that take time. -/
theorem Moving.next (hI : Moving A P I) (ht : w.Tame A) (hw : I w w.engagements)
    (hlater : w.ready = [] → w.yielded = [] →
      I { w with clock := w.advance.clock } w.engagements)
    {o : Option TaskId} (h : NextBy A w o w') (hP : ∀ t ∈ o, P (w.Deeds t)) :
    I w' w'.engagements := by
  cases h with
  | spawn s hs =>
    rw [(frame_spawn hs).engagements]
    exact hI.books w _ _ ⟨rfl, rfl, rfl, rfl, rfl⟩ hw
  | poll t => exact hI.poll ht hw (hP t rfl)
  | draw ds => exact hI.books w _ _ ⟨rfl, rfl, rfl, rfl, rfl⟩ hw
  | advance hr hy =>
    have hl := later_advance w
    rw [hl.engagements]
    exact hI.books _ _ _ hl.quiet.unmoved (hlater hr hy)

/-- What every move keeps and the passage of time as well. -/
structure Kept (A : Step → Prop) (P : (Deed → Prop) → Prop)
    (I : World → (TaskId → Option Engagement) → Prop) : Prop where
  books : ∀ w w' E, w.Unmoved w' → I w E → I w' E
  later : ∀ w n E, w.clock ≤ n → I w E → I { w with clock := n } E
  move : ∀ D w w' E t c', P D → I w E → Move A D t w (E t) w' c' → I w' (Function.update E t c')

theorem Kept.moving (hI : Kept A P I) : Moving A P I := ⟨hI.books, hI.move⟩

/-- What every move keeps is kept by the steps of runs. -/
theorem Kept.next (hI : Kept A P I) (ht : w.Tame A) (hw : I w w.engagements) {o : Option TaskId}
    (h : NextBy A w o w') (hP : ∀ t ∈ o, P (w.Deeds t)) : I w' w'.engagements :=
  hI.moving.next ht hw (fun _ _ => hI.later _ _ _ (later_advance w).le hw) h hP

/-- What every move keeps is kept by runs. -/
theorem Kept.run (hI : Kept A (fun _ => True) I) (ht : w.Tame A) (hw : I w w.engagements)
    (h : Run A w w') : I w' w'.engagements := by
  induction h with
  | refl => exact hw
  | tail hr hn ih =>
    obtain ⟨o, hn⟩ := next_iff.1 hn
    exact hI.next (ht.run hr) ih hn fun _ _ => trivial

end Invariant

/-- No run takes a lock away or undoes what it has gone through. -/
theorem outlives_run (h : Reachable A w) (hr : Run A w w') : w.Outlives w' := by
  refine Kept.run (I := fun w' _ => w.Outlives w') ⟨?_, ?_, ?_⟩ (Reachable.tame h) (.refl w) hr
  · exact fun w₁ w₂ _ hu ho => ho.trans (outlives_of_locks hu.locks)
  · exact fun w₁ n _ _ ho => ho.trans (outlives_of_locks rfl)
  · exact fun _ w₁ w₂ _ t c' _ ho hm => ho.trans hm.outlives

end World

end Leasehold
