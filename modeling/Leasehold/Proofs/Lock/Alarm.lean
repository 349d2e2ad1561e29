import Leasehold.Proofs.Lock.Discharge

/-!
# The alarm of a lock

The alarm waits for the end of its lock.  When it finds a loss then, it makes a release of its own
and acts.

* `World.alarmTurn`: the turn of an alarm up to its action.
* `World.handled`: the action that a task takes as an alarm in its next turn.
* `World.alarm_discipline`: an alarm acts at most once, on the loss of its lock and after the
  release; it never acts without a loss, and it never ends on a lost lock without having acted.
-/

namespace Leasehold

/-- The watcher is an alarm. -/
def Watcher.Alarms : Watcher → Prop
  | alarmStart .. | alarmWait .. | alarmRelease .. => True
  | _ => False

instance : DecidablePred Watcher.Alarms
  | .alarmStart .. | .alarmWait .. | .alarmRelease .. => isTrue trivial
  | .renewalStart | .renewalTick .. | .renewalLook .. | .renewalCall .. | .guardStart _
  | .guardWait .. | .guardRelease _ | .probeStart _ | .probeWait .. => isFalse not_false

namespace World

variable {A : Step → Prop} {t : TaskId} {w w' w₀ w₁ : World} {l : LockId} {k k₀ : Lock}
  {v : Watcher} {o : Option TaskId} {loss : Loss} {action : FatalAction}

/-! ### The turn of an alarm up to its action -/

/-- The alarm has found a loss and begins its release. -/
def prepareAction (w : World) (t : TaskId) (l : LockId) (grace : Span) (action : FatalAction)
    (loss : Loss) : World × Poll Watcher (Option (FatalAction × Loss)) :=
  match w.visit t l (.release grace) with
  | (w, .waiting e) => (w, .waiting (.alarmRelease action loss e))
  | (w, .done _) => (w, .done (some (action, loss)))

/-- The alarm looks at the loss and then at the cancellation. -/
def heedAlarm (w : World) (t : TaskId) (l : LockId) (grace : Span) (action : FatalAction)
    (n n' : Nat) : World × Poll Watcher (Option (FatalAction × Loss)) :=
  match w.lossOf l with
  | some loss => w.prepareAction t l grace action loss
  | none =>
    if w.isCancelled l then (w, .done none) else (w, .waiting (.alarmWait grace action n n'))

/-- The turn of an alarm up to its action: the world in which it acts, and on which loss. -/
def alarmTurn (w : World) (t : TaskId) (l : LockId) :
    Watcher → World × Poll Watcher (Option (FatalAction × Loss))
  | .alarmStart grace action => w.takeTicket.1.takeTicket.1.heedAlarm t l grace action
      w.takeTicket.2 w.takeTicket.1.takeTicket.2
  | .alarmWait grace action n n' => w.heedAlarm t l grace action n n'
  | .alarmRelease action loss e =>
    match w.resumeEntry t l e with
    | (w, .waiting e) => (w, .waiting (.alarmRelease action loss e))
    | (w, .done _) => (w, .done (some (action, loss)))
  | _ => (w, .done none)

/-- The alarm acts, if it has come to that. -/
def acted : World × Poll Watcher (Option (FatalAction × Loss)) → World × Poll Watcher Unit
  | (w, .waiting v) => (w, .waiting v)
  | (w, .done none) => (w, .done ())
  | (w, .done (some (action, loss))) => (w.actOnLoss action loss, .done ())

theorem startAlarmRelease_eq (grace : Span) (action : FatalAction) (loss : Loss) :
    w.startAlarmRelease t l grace action loss = acted (w.prepareAction t l grace action loss) := by
  unfold startAlarmRelease prepareAction
  rcases w.visit t l (.release grace) with ⟨w', e | r⟩ <;> rfl

theorem lookAlarm_eq (grace : Span) (action : FatalAction) (n n' : Nat) :
    w.lookAlarm t l grace action n n' = acted (w.heedAlarm t l grace action n n') := by
  unfold lookAlarm heedAlarm
  cases w.lossOf l with
  | some loss => exact startAlarmRelease_eq grace action loss
  | none =>
    dsimp only
    split <;> rfl

/-- The turn of an alarm is made of the part up to its action, and of the action. -/
theorem resumeWatcher_eq_acted (hk : w.locks[l]? = some k) (hv : v.Alarms) :
    w.resumeWatcher t l v = acted (w.alarmTurn t l v) := by
  unfold resumeWatcher
  rw [hk]
  cases v with
  | alarmStart grace action => exact lookAlarm_eq grace action _ _
  | alarmWait grace action n n' => exact lookAlarm_eq grace action n n'
  | alarmRelease action loss e =>
    unfold alarmTurn
    dsimp only
    rcases w.resumeEntry t l e with ⟨w', e' | r⟩ <;> rfl
  | _ => cases hv

theorem quiet_acted (y : World × Poll Watcher (Option (FatalAction × Loss))) :
    y.1.Quiet (acted y).1 := by
  obtain ⟨w, v | _ | ⟨action, loss⟩⟩ := y
  · exact .refl w
  · exact .refl w
  · exact quiet_actOnLoss w action loss

/-! ### What an alarm comes to -/

/-- What is known of the turn of an alarm that has come to `y`. -/
structure Heeded (w : World) (l : LockId)
    (y : World × Poll Watcher (Option (FatalAction × Loss))) : Prop where
  outlives : w.Outlives y.1
  alarms : ∀ v, y.2 = .waiting v → v.Alarms
  /-- The alarm acts on the loss of its lock, and after the release. -/
  acts : ∀ action loss, y.2 = .done (some (action, loss)) →
    y.1.lossOf l = some loss ∧ y.1.AtStage l .released
  /-- The alarm ends without an action only if the lock is cancelled without a loss. -/
  quits : y.2 = .done none → y.1.isCancelled l = true ∧ y.1.lossOf l = none

/-- A release that is over has left a begun lock released. -/
theorem atStage_released_of_discharged {y : World × Poll Entry Reply} {r : Reply}
    (h : Discharged t l k y) (hr : y.2 = .done r) (hb : y.1.Begun l) : y.1.AtStage l .released := by
  rcases h r hr with hs | ⟨⟨k', hk', hs⟩, -⟩
  · exact hs
  · obtain ⟨k'', hk'', hs'⟩ := hb
    obtain rfl := Option.some.inj (hk'.symm.trans hk'')
    exact absurd hs hs'

theorem heeded_prepareAction (hk : w.locks[l]? = some k) (hb : w.Begun l)
    (hl : w.lossOf l = some loss) (grace : Span) (action : FatalAction) :
    w.Heeded l (w.prepareAction t l grace action loss) := by
  have ho := outlives_visit (t := t) (w := w) (l := l) (.release grace)
  have hd := discharged_visit (t := t) hk grace
  unfold prepareAction
  rcases hy : w.visit t l (.release grace) with ⟨w', e | r⟩ <;> rw [hy] at ho hd
  · refine ⟨ho, fun v hv => ?_, fun _ _ h => (by cases h), fun h => (by cases h)⟩
    cases hv
    trivial
  · refine ⟨ho, fun v hv => (by cases hv), fun _ _ h => ?_, fun h => (by cases h)⟩
    cases h
    exact ⟨ho.lossOf hl, atStage_released_of_discharged hd rfl (hb.outlives ho)⟩

theorem heeded_heedAlarm (hk : w.locks[l]? = some k) (hs : w.LossesSettled) (grace : Span)
    (action : FatalAction) (n n' : Nat) : w.Heeded l (w.heedAlarm t l grace action n n') := by
  unfold heedAlarm
  cases hl : w.lossOf l with
  | some loss => exact heeded_prepareAction hk (hs l loss hl).2 hl grace action
  | none =>
    dsimp only
    split
    · next hc =>
      exact ⟨.refl w, fun v hv => (by cases hv), fun _ _ h => (by cases h), fun _ => ⟨hc, hl⟩⟩
    · refine ⟨.refl w, fun v hv => ?_, fun _ _ h => (by cases h), fun h => (by cases h)⟩
      cases hv
      trivial

theorem heeded_alarmTurn {E : TaskId → Option Engagement} (hk : w.locks[l]? = some k)
    (hs : w.LossesSettled) (hA : w.ledger.Answerable E) (he : E t = v.engagement l)
    (hf : w.Fits l v) (hv : v.Alarms) : w.Heeded l (w.alarmTurn t l v) := by
  cases v with
  | alarmStart grace action =>
    have hy : w.takeTicket.1.takeTicket.1.Heeded l (w.alarmTurn t l (.alarmStart grace action)) :=
      heeded_heedAlarm (w := w.takeTicket.1.takeTicket.1) hk hs grace action _ _
    exact ⟨hy.outlives, hy.alarms, hy.acts, hy.quits⟩
  | alarmWait grace action n n' => exact heeded_heedAlarm hk hs grace action n n'
  | alarmRelease action loss e =>
    have ho := outlives_resumeEntry (t := t) (w := w) (l := l) e
    have hd : Discharged t l k (w.resumeEntry t l e) := by
      refine discharged_resumeEntry hk hf.1 ?_
      rintro f limit rfl
      exact atStage_of_releasing hA he
    have hb := (hs l loss hf.2).2.outlives ho
    unfold alarmTurn
    dsimp only
    rcases hy : w.resumeEntry t l e with ⟨w', e' | r⟩ <;> rw [hy] at ho hd hb
    · refine ⟨ho, fun v hv => ?_, fun _ _ h => (by cases h), fun h => (by cases h)⟩
      cases hv
      trivial
    · refine ⟨ho, fun v hv => (by cases hv), fun _ _ h => ?_, fun h => (by cases h)⟩
      cases h
      exact ⟨ho.lossOf hf.2, atStage_released_of_discharged hd rfl hb⟩
  | _ => cases hv

/-! ### Runs -/

/-- The action that the task takes as an alarm in its next turn: the world in which it acts, and the
loss on which it does. -/
def handled (w : World) (t : TaskId) : List (World × Loss) :=
  match w.activity? t with
  | some (.watching l v) =>
    match (w.atTurn t).alarmTurn t l v with
    | (w₁, .done (some (_, loss))) => [(w₁, loss)]
    | _ => []
  | _ => []

/-- A run from one world to another, with the actions that the task has taken as an alarm. -/
inductive RunWith (A : Step → Prop) (t : TaskId) (w₀ : World) : List (World × Loss) → World → Prop
  | refl : RunWith A t w₀ [] w₀
  | own {hs w w'} : RunWith A t w₀ hs w → NextBy A w (some t) w' →
      RunWith A t w₀ (hs ++ w.handled t) w'
  | other {hs w w' o} : RunWith A t w₀ hs w → NextBy A w o w' → t ∉ o → RunWith A t w₀ hs w'

theorem RunWith.run {hs : List (World × Loss)} (h : RunWith A t w₀ hs w) : Run A w₀ w := by
  induction h with
  | refl => exact .refl
  | own _ hn ih => exact ih.tail hn.next
  | other _ hn _ ih => exact ih.tail hn.next

/-- Every run comes with the actions of a task. -/
theorem exists_runWith (t : TaskId) (h : Run A w₀ w) : ∃ hs, RunWith A t w₀ hs w := by
  induction h with
  | refl => exact ⟨[], .refl⟩
  | tail _ hn ih =>
    obtain ⟨hs, hr⟩ := ih
    obtain ⟨o, hn⟩ := next_iff.1 hn
    by_cases ht : o = some t
    · subst ht
      exact ⟨_, hr.own hn⟩
    · exact ⟨hs, hr.other hn ht⟩

/-- An alarm acts in the right way: on the loss of its lock, when the lock is released and the one
release call of the instance has been sent. -/
structure Proper (w₁ : World) (l : LockId) (loss : Loss) : Prop where
  loss : w₁.lossOf l = some loss
  released : ∃ k, w₁.locks[l]? = some k ∧ k.stage = .released ∧
    (w₁.Sole l k → w₁.requests.count (k.request .release) = 1)

/-- What has become of an alarm, and what it has done. -/
inductive Vigil (t : TaskId) (l : LockId) : List (World × Loss) → World → Prop
  | working {w : World} (v : Watcher) : w.activity? t = some (.watching l v) → v.Alarms →
      Vigil t l [] w
  | acted {w w₁ : World} {loss : Loss} : w.Ended t → w₁.Proper l loss → w.lossOf l = some loss →
      Vigil t l [(w₁, loss)] w
  | idle {w : World} : w.Ended t → w.isCancelled l = true → w.lossOf l = none → Vigil t l [] w

theorem handled_eq_nil (h : w.Ended t) : w.handled t = [] := by
  obtain ⟨u, ha⟩ := h
  rw [handled, ha]

/-- The alarm's own turn. -/
theorem vigil_poll (h : Reachable A w) (hk : w.locks[l]? = some k)
    (ha : w.activity? t = some (.watching l v)) (hv : v.Alarms) :
    Vigil t l (w.handled t) (w.poll t) := by
  have hw := Reachable.tame h
  have hA : (w.atTurn t).ledger.Answerable w.engagements := answerable_reachable h
  have he : w.engagements t = v.engagement l := by rw [engagements_eq, ha]; rfl
  have hs : (w.atTurn t).LossesSettled := (lost_reachable h).of_locks rfl
  have hy : (w.atTurn t).Heeded l ((w.atTurn t).alarmTurn t l v) :=
    heeded_alarmTurn hk hs hA he (hw t _ ha) hv
  have hact := activity?_poll_watching hw ha
  have hq := poll_watching ha
  rw [resumeWatcher_eq_acted (w := w.atTurn t) hk hv] at hact hq
  have hq₁ := quiet_acted ((w.atTurn t).alarmTurn t l v)
  rw [handled, ha]
  dsimp only
  rcases hr : (w.atTurn t).alarmTurn t l v with ⟨w₁, v' | _ | ⟨action, loss⟩⟩ <;>
    rw [hr] at hy hact hq hq₁
  · exact .working v' hact (hy.alarms v' rfl)
  · have hl : (w.poll t).locks = w₁.locks := hq.locks
    obtain ⟨hc, hn⟩ := hy.quits rfl
    refine .idle ⟨_, hact⟩ ?_ ((lossOf_of_locks hl).trans hn)
    rw [isCancelled, hl]
    exact hc
  · have hl : (w.poll t).locks = w₁.locks := hq.locks.trans hq₁.locks
    have hg : (w.poll t).requests = w₁.requests := requests_of_log (hq.log.trans hq₁.log)
    obtain ⟨hloss, k₁, hk₁, hs⟩ := hy.acts action loss rfl
    refine .acted ⟨_, hact⟩ ⟨hloss, k₁, hk₁, hs, fun hsole => ?_⟩ ((lossOf_of_locks hl).trans hloss)
    have hp : Reachable A (w.poll t) := h.tail (.poll t)
    have hcount := count_release hp (l := l) (k := k₁) (by rw [hl]; exact hk₁)
      (by unfold Sole at hsole ⊢; rwa [hl])
    rwa [hg, if_pos hs] at hcount

/-- What has become of an alarm is kept by the steps of others. -/
theorem Vigil.other {hs : List (World × Loss)} (hv : Vigil t l hs w) (h : Reachable A w)
    (hn : NextBy A w o w') (ht : t ∉ o) : Vigil t l hs w' := by
  have ho : w.Outlives w' := outlives_run h (.single hn.next)
  cases hv with
  | working v ha hv => exact .working v (activity?_other (Reachable.tame h) hn ht ha) hv
  | acted he hp hl => exact .acted (he.next (Reachable.tame h) hn) hp (ho.lossOf hl)
  | idle he hc hl =>
    exact .idle (he.next (Reachable.tame h) hn) (ho.isCancelled hc)
      ((lossOf_run h hc (.single hn.next)).trans hl)

theorem Vigil.own {hs : List (World × Loss)} (hv : Vigil t l hs w) (h : Reachable A w)
    (hk : w.locks[l]? = some k) (hn : NextBy A w (some t) w') :
    Vigil t l (hs ++ w.handled t) w' := by
  have ho : w.Outlives w' := outlives_run h (.single hn.next)
  cases hv with
  | working v ha hv =>
    cases hn with
    | poll => exact vigil_poll h hk ha hv
  | acted he hp hl =>
    rw [handled_eq_nil he, List.append_nil]
    exact .acted (he.next (Reachable.tame h) hn) hp (ho.lossOf hl)
  | idle he hc hl =>
    rw [handled_eq_nil he, List.append_nil]
    exact .idle (he.next (Reachable.tame h) hn) (ho.isCancelled hc)
      ((lossOf_run h hc (.single hn.next)).trans hl)

theorem vigil_run {hs : List (World × Loss)} (h : Reachable A w₀) (hk : w₀.locks[l]? = some k₀)
    (ha : w₀.activity? t = some (.watching l v)) (hv : v.Alarms) (hr : RunWith A t w₀ hs w) :
    Vigil t l hs w := by
  induction hr with
  | refl => exact .working v ha hv
  | own hr hn ih =>
    obtain ⟨k, hk, -⟩ := outlives_run h hr.run l k₀ hk
    exact ih.own (h.trans hr.run) hk hn
  | other hr hn ht ih => exact ih.other (h.trans hr.run) hn ht

/-- In a run every turn of an alarm is made of the part up to its action, and of the action. -/
theorem resumeWatcher_run {v' : Watcher} (h₀ : Reachable A w₀) (hk₀ : w₀.locks[l]? = some k₀)
    (ha : w₀.activity? t = some (.watching l v)) (hv : v.Alarms) (hr : Run A w₀ w)
    (ha' : w.activity? t = some (.watching l v')) :
    (w.atTurn t).resumeWatcher t l v' = acted ((w.atTurn t).alarmTurn t l v') := by
  obtain ⟨k, hk, -⟩ := outlives_run h₀ hr l k₀ hk₀
  obtain ⟨hs, hrun⟩ := exists_runWith t hr
  have hnot (he : w.Ended t) : False := by
    obtain ⟨u, hu⟩ := he
    cases hu.symm.trans ha'
  refine resumeWatcher_eq_acted (w := w.atTurn t) hk ?_
  cases vigil_run h₀ hk₀ ha hv hrun with
  | working v'' ha'' hv'' =>
    cases ha'.symm.trans ha''
    exact hv''
  | acted he => exact (hnot he).elim
  | idle he => exact (hnot he).elim

/-- A task has been at work as an alarm of a lock.  It acts at most once.  Whenever it acts, it does
so on the loss that the lock has and keeps, the lock is released then, and the one release call of
the instance has been sent.  As long as there is no loss it has not acted; when there is one and the
alarm has ended, it has acted once.  What is counted are the actions themselves: every turn of the
task as an alarm is `alarmTurn`, followed by the action that it has come to. -/
theorem alarm_discipline {hs : List (World × Loss)} (h₀ : Reachable A w₀)
    (hk₀ : w₀.locks[l]? = some k₀) (ha : w₀.activity? t = some (.watching l v)) (hv : v.Alarms)
    (hr : RunWith A t w₀ hs w) :
    hs.length ≤ 1 ∧ (∀ w₁ loss, (w₁, loss) ∈ hs → w₁.Proper l loss ∧ w.lossOf l = some loss) ∧
    (w.lossOf l = none → hs = []) ∧ ((w.lossOf l).isSome → w.Ended t → hs.length = 1) ∧
    ∀ u v', Run A w₀ u → u.activity? t = some (.watching l v') →
      (u.atTurn t).resumeWatcher t l v' = acted ((u.atTurn t).alarmTurn t l v') := by
  have hturns (u : World) (v' : Watcher) (hu : Run A w₀ u)
      (ha' : u.activity? t = some (.watching l v')) :
      (u.atTurn t).resumeWatcher t l v' = acted ((u.atTurn t).alarmTurn t l v') :=
    resumeWatcher_run h₀ hk₀ ha hv hu ha'
  cases vigil_run h₀ hk₀ ha hv hr with
  | working v' ha' _ =>
    refine ⟨Nat.zero_le _, fun _ _ hm => (by cases hm), fun _ => rfl, fun _ he => ?_, hturns⟩
    obtain ⟨u, hu⟩ := he
    cases hu.symm.trans ha'
  | acted he hp hl =>
    refine ⟨Nat.le_refl _, fun _ _ hm => ?_, fun hn => ?_, fun _ _ => rfl, hturns⟩
    · cases List.mem_singleton.1 hm
      exact ⟨hp, hl⟩
    · cases hl.symm.trans hn
  | idle he hc hl =>
    refine ⟨Nat.zero_le _, fun _ _ hm => (by cases hm), fun _ => rfl, fun hsome _ => ?_, hturns⟩
    rw [hl] at hsome
    cases hsome

/-! ### An alarm that acts -/

/-- A lock with a renewal loop and an alarm has just been built; its first renewal will fail. -/
def alarmed : World :=
  turn (ofScript [.create "a" "alpha" (.ofSeconds 15) [.renewal, .alarm (.ofSeconds 5) .record] "p"
    ⟨"i"⟩, .acquireOnce "a", .inject .renew 1, .sleep (.ofSeconds 10)])

/-- The alarm acts once, in a world in which the lock is lost and released. -/
theorem alarm_discipline_alarmed : (turn^[8] alarmed).clock = 7500 ∧
    ∃ w₁ loss, RunWith (fun _ => True) 2 alarmed [(w₁, loss)] (turn^[8] alarmed) ∧
      w₁.Proper 0 loss := by
  have hr : Reachable (fun _ => True) alarmed :=
    reachable_ofScript (by simp [Step.Within, Step.AllWithin]) 1
  obtain ⟨v, ha, hv⟩ : ∃ v, alarmed.activity? 2 = some (.watching 0 v) ∧ v.Alarms :=
    exists_watching (by decide +kernel)
  obtain ⟨k₀, hk₀⟩ : ∃ k₀, alarmed.locks[0]? = some k₀ :=
    Option.isSome_iff_exists.1 (by decide +kernel)
  obtain ⟨hs, hrun⟩ := exists_runWith 2 (run_iterate_turn (A := fun _ => True) alarmed 8)
  obtain ⟨-, hp, -, hone, -⟩ := alarm_discipline hr hk₀ ha hv hrun
  have hend : (turn^[8] alarmed).Ended 2 := ended_of_isFinished (by decide +kernel)
  obtain ⟨⟨w₁, loss⟩, rfl⟩ := List.length_eq_one_iff.1 (hone (by decide +kernel) hend)
  exact ⟨by decide +kernel, w₁, loss, hrun, (hp w₁ loss List.mem_cons_self).1⟩

end World

end Leasehold
