import Leasehold.Proofs.Lock.LifeCycle
import Leasehold.Proofs.Lock.Turnover

/-!
# One instance from beginning to end

What a user of one lock sees of the order that `LifeCycle` describes, in every run of any tasks,
watchers and delays.

* `World.enter_forbidden`: an operation that the stage forbids is answered without a call.
* `World.refused_visit`, `World.refused_resumeEntry`: such an operation changes nothing.
* `World.steady_visit`, `World.steady_resumeEntry`: an acquisition or a renewal that does not
  succeed changes no stage.
* `World.life_of_instance`: the life of an instance.
-/

namespace Leasehold

/-- Why a stage forbids a lease call. -/
def LeaseCall.misuse? : LeaseCall → Stage → Option Misuse
  | acquire, .acquired => some .alreadyAcquired
  | renew, .idle | release, .idle => some .notAcquired
  | _, .released => some .released
  | _, _ => none

namespace World

variable {A : Step → Prop} {t : TaskId} {w w' : World} {l : LockId} {k : Lock}
  {errand : Errand} {call : LeaseCall}

/-- The lease calls that an instance has made, the earliest first. -/
def callsBy (w : World) (id : LeaseId) : List CallRecord :=
  w.log.filter fun rec => rec.request.holder? == some id

/-- The requests that have been sent so far, the earliest first. -/
def requests (w : World) : List Request := w.log.map (·.request)

/-- No other lock has the id of the lock. -/
def Sole (w : World) (l : LockId) (k : Lock) : Prop :=
  ∀ (l' : LockId) (k' : Lock), w.locks[l']? = some k' → k'.id = k.id → l' = l

/-- The stages of all locks. -/
def stages (w : World) : List Stage := w.locks.map (·.stage)

/-! ### Operations that the stage forbids -/

theorem stages_of_locks (h : w'.locks = w.locks) : w'.stages = w.stages := by
  rw [stages, stages, h]

theorem stages_updateLock {f : Lock → Lock} (hf : ∀ k, (f k).stage = k.stage) :
    (w.updateLock l f).stages = w.stages := by
  have h := map_modify_of (·.stage) f id hf w.locks l
  rw [List.modify_id] at h
  exact h

theorem stages_leave (t : TaskId) : (w.leave t l).stages = w.stages :=
  (stages_of_locks (quiet_leave w t l).locks).trans (stages_updateLock fun _ => rfl)

/-- Nothing but queues has changed: no call was made, and no stage is another one. -/
structure Silent (w w' : World) : Prop where
  log : w'.log = w.log
  store : w'.store = w.store
  stages : w'.stages = w.stages

theorem Silent.trans {w'' : World} (h : w.Silent w') (h' : w'.Silent w'') : w.Silent w'' :=
  ⟨h'.log.trans h.log, h'.store.trans h.store, h'.stages.trans h.stages⟩

theorem silent_leave (t : TaskId) : w.Silent (w.leave t l) :=
  have h := quiet_leave w t l
  ⟨h.log, h.store, stages_leave t⟩

theorem silent_push (t : TaskId) :
    w.Silent (w.updateLock l fun k => { k with queue := k.queue ++ [t] }) :=
  ⟨rfl, rfl, stages_updateLock fun _ => rfl⟩

/-- What the stage forbids the lock does not do. -/
theorem refusal_of_misuse {m : Misuse} (hm : call.misuse? k.stage = some m) :
    k.refusal call = some (.misuse m) := by
  unfold Lock.refusal
  revert hm
  cases call <;> cases k.stage <;> simp [LeaseCall.misuse?, notFree, notHeld]

/-- Inside the critical section an operation that the stage forbids is answered at once. -/
theorem enter_forbidden {m : Misuse} (hk : w.locks[l]? = some k)
    (he : errand.leaseCall? = some call) (hm : call.misuse? k.stage = some m) :
    w.enter t l errand = (w.leave t l, .done (.error (.misuse m))) := by
  have hr := refusal_of_misuse hm
  have hmade {call' y} : ¬ w.Sends l k errand call' y := fun hs => by
    cases he.symm.trans hs.errand
    cases hr.symm.trans hs.granted
  have hl := letIn_enter (t := t) hk errand
  generalize w.enter t l errand = y at hl ⊢
  cases hl with
  | observed he' => cases he.symm.trans he'
  | refused call' he' hr' =>
    cases he.symm.trans he'
    cases hr.symm.trans hr'
    rfl
  | answered hs | waiting hs | releasing _ hs | timeout _ hs => exact absurd hs hmade

/-- The visit is answered with a misuse, and nothing happens. -/
def Refused (w : World) (m : Misuse) (y : World × Poll Entry Reply) : Prop :=
  y.2 = .done (.error (.misuse m)) ∧ w.Silent y.1

/-- A visit that finds nobody at the critical section is refused at once. -/
theorem refused_visit {m : Misuse} (hk : w.locks[l]? = some k) (hq : k.queue = [])
    (he : errand.leaseCall? = some call) (hm : call.misuse? k.stage = some m) :
    w.Refused m (w.visit t l errand) := by
  rcases visit_cases (t := t) hk errand with ⟨-, hv⟩ | ⟨hn, -⟩
  · rw [hv, enter_forbidden (getElem?_enqueued hk t) he hm]
    exact ⟨rfl, (silent_push t).trans (silent_leave t)⟩
  · exact absurd hq hn

/-- A visit that has waited for its turn is refused as soon as it is let in. -/
theorem refused_resumeEntry {m : Misuse} (hk : w.locks[l]? = some k)
    (hq : k.queue.head? = some t) (he : errand.leaseCall? = some call)
    (hm : call.misuse? k.stage = some m) : w.Refused m (w.resumeEntry t l (.queued errand)) := by
  rcases resumeQueued_cases (t := t) hk errand with ⟨-, hv⟩ | ⟨hn, -⟩
  · rw [hv, enter_forbidden hk he hm]
    exact ⟨rfl, silent_leave t⟩
  · exact absurd hq hn

/-! ### Operations that fail -/

/-- The visit has left all stages as they are, unless it has succeeded. -/
def Steady (w : World) (y : World × Poll Entry Reply) : Prop :=
  (∀ s, y.2 ≠ .done (.ok s)) → y.1.stages = w.stages

theorem steady_reply (hs : w'.stages = w.stages) (r : Reply) : w.Steady (w'.reply t l r) :=
  fun _ => (stages_leave t).trans hs

theorem steady_waiting (hs : w'.stages = w.stages) (e : Entry) : w.Steady (w', .waiting e) :=
  fun _ => hs

theorem steady_takeAnswer (hs : w'.stages = w.stages) (hc : call ≠ .release) (a : Answer) :
    w.Steady (w'.takeAnswer t l k call a) := by
  cases call with
  | acquire =>
    cases a with
    | ok u => exact fun h => absurd rfl (h _)
    | error e => exact steady_reply hs _
  | renew => exact steady_reply hs _
  | release => exact absurd rfl hc

theorem steady_letIn (hk : w.locks[l]? = some k) (he : errand.leaseCall? = some call)
    (hc : call ≠ .release) {y : World × Poll Entry Reply} (hy : w.LetIn t l k errand y) :
    w.Steady y := by
  have hstages {w' p} (hs : w.Sends l k errand call (w', p)) : w'.stages = w.stages :=
    stages_of_locks (hs.locks_staying hk hc)
  cases hy with
  | observed | refused => exact steady_reply rfl _
  | answered hs =>
    cases he.symm.trans hs.errand
    exact steady_takeAnswer (hstages hs) hc _
  | waiting hs =>
    cases he.symm.trans hs.errand
    exact steady_waiting (hstages hs) _
  | releasing _ hs | timeout _ hs =>
    cases he.symm.trans hs.errand
    exact absurd rfl hc

/-- An acquisition or a renewal that begins changes no stage unless it succeeds. -/
theorem steady_visit (he : errand.leaseCall? = some call) (hc : call ≠ .release) :
    w.Steady (w.visit t l errand) := by
  cases hk : w.locks[l]? with
  | none =>
    rw [visit_of_none hk]
    exact fun _ => rfl
  | some k =>
    have hp := (silent_push (w := w) (l := l) t).stages
    rcases visit_cases (t := t) hk errand with ⟨-, hv⟩ | ⟨-, hv⟩ <;> rw [hv]
    · have hk' := getElem?_enqueued hk t
      exact fun h => (steady_letIn hk' he hc (letIn_enter hk' errand) h).trans hp
    · exact steady_waiting hp _

/-- An acquisition or a renewal that goes on changes no stage unless it succeeds. -/
theorem steady_resumeEntry {e : Entry} (he : e.call? = some call) (hc : call ≠ .release) :
    w.Steady (w.resumeEntry t l e) := by
  have hfly {f y} (hy : w.fly f = y) : y.1.stages = w.stages := by
    rw [← hy]
    exact stages_of_locks (locks_fly w f)
  cases hk : w.locks[l]? with
  | none =>
    rw [resumeEntry_of_none hk]
    exact fun _ => rfl
  | some k =>
    have hr := goesOn_resumeEntry (t := t) hk e
    generalize w.resumeEntry t l e = y at hr ⊢
    cases hr with
    | admitted _ hy => exact steady_letIn hk he hc hy
    | behind => exact steady_waiting rfl _
    | answered ha hy =>
      cases he.symm.trans ha.call?
      exact steady_takeAnswer (hfly hy) hc _
    | waiting _ _ hy => exact steady_waiting (hfly hy) _
    | interrupted _ _ hy => exact steady_reply (hfly hy) _
    | releasing | timeout =>
      cases he
      exact absurd rfl hc

/-! ### The life of an instance -/

/-- At most one task is inside the critical section of a lock. -/
theorem inFlight_unique (h : Reachable A w) {t' : TaskId} (ht : w.InFlight l t)
    (ht' : w.InFlight l t') : t = t' := by
  obtain ⟨call, r, n, co, he⟩ := ht
  obtain ⟨call', r', n', co', he'⟩ := ht'
  obtain ⟨k, hk, hq, -⟩ := (answerable_reachable h).inside t l call r n co he
  obtain ⟨k', hk', hq', -⟩ := (answerable_reachable h).inside t' l call' r' n' co' he'
  rw [hk] at hk'
  cases hk'
  exact Option.some.inj (hq.symm.trans hq')

theorem core_request (k : Lock) : k.core.request = k.request := funext k.request_core

theorem Sole.ledger (h : w.Sole l k) : w.ledger.Sole l k.id := by
  intro l' c hc hid
  obtain ⟨k', hk', rfl⟩ := exists_lock_of_core hc
  exact h l' k' hk' hid

/-- The calls of an instance are those of its stage. -/
theorem lifeCycle_reachable (h : Reachable A w) (hk : w.locks[l]? = some k) (hs : w.Sole l k) :
    LifeCycle k.request k.stage (w.callsBy k.id) := by
  have hc := (chronicled_reachable h).cycle l k.core (core?_ledger hk) hs.ledger
  rwa [core_request] at hc

theorem request_injective (k : Lock) : Function.Injective k.request := by
  rw [← core_request]
  exact k.core.request_injective

/-- The requests of an instance are those of its lease calls. -/
theorem count_callsBy (w : World) (k : Lock) (call : LeaseCall) :
    ((w.callsBy k.id).map (·.request)).count (k.request call) =
      w.requests.count (k.request call) := by
  have hf : (w.callsBy k.id).map (·.request) =
      w.requests.filter fun r => r.holder? == some k.id := by
    rw [callsBy, requests, List.filter_map]
    rfl
  rw [hf, List.count_filter (by simp [k.holder?_request call])]

/-- An instance has sent its release call once if it is released, and not at all before. -/
theorem count_release (h : Reachable A w) (hk : w.locks[l]? = some k) (hs : w.Sole l k) :
    w.requests.count (k.request .release) = if k.stage = .released then 1 else 0 := by
  rw [← count_callsBy]
  exact lifeCycle_releases (request_injective k) (lifeCycle_reachable h hk hs)

/-- The lease of the lock was granted to it by an acquisition. -/
def WasGranted (w : World) (k : Lock) : Prop :=
  ∃ rec ∈ w.callsBy k.id, rec.request = k.request .acquire ∧ rec.answer = some (.ok ())

theorem wasGranted_iff (h : Reachable A w) (hk : w.locks[l]? = some k) (hs : w.Sole l k) :
    w.WasGranted k ↔ k.stage ≠ .idle :=
  (lifeCycle_granted (lifeCycle_reachable h hk hs)).symm

/-- The stage only goes on, and no request is taken back. -/
theorem lasting_run (h : Reachable A w) (hk : w.locks[l]? = some k) (hr : Run A w w') :
    ∃ k', w'.locks[l]? = some k' ∧ k'.request = k.request ∧ k.stage.rank ≤ k'.stage.rank ∧
      w.requests <+: w'.requests := by
  obtain ⟨hst, hq⟩ := since_run h hr
  obtain ⟨c, hc, ha, hrank⟩ := hst l k.core (core?_ledger hk)
  obtain ⟨k', hk', rfl⟩ := exists_lock_of_core hc
  have hreq := ha.request
  rw [core_request, core_request] at hreq
  exact ⟨k', hk', hreq, hrank, hq⟩

/-- The life of an instance.  Of its lease calls at most one is on its way at a time.  They are
applications of which only the last can be granted, then renewals, then at most one release, all of
them for the instance's own object, id and term, and the stage says how far they have come; it never
goes back.  An acquisition or a renewal that does not succeed changes no stage, and an operation
that the stage forbids is answered with its misuse and makes no call. -/
theorem life_of_instance (h : Reachable A w) (hk : w.locks[l]? = some k) (hs : w.Sole l k) :
    (∀ t t', w.InFlight l t → w.InFlight l t' → t = t') ∧
    LifeCycle k.request k.stage (w.callsBy k.id) ∧
    (∀ w', Run A w w' → ∃ k', w'.locks[l]? = some k' ∧ k'.request = k.request ∧
      k.stage.rank ≤ k'.stage.rank ∧ w.requests <+: w'.requests) ∧
    (∀ t errand call, errand.leaseCall? = some call → call ≠ .release →
      w.Steady (w.visit t l errand)) ∧
    (∀ t e call, e.call? = some call → call ≠ .release → w.Steady (w.resumeEntry t l e)) ∧
    (∀ t errand call m, errand.leaseCall? = some call → call.misuse? k.stage = some m →
      (k.queue = [] → w.Refused m (w.visit t l errand)) ∧
      (k.queue.head? = some t → w.Refused m (w.resumeEntry t l (.queued errand)))) :=
  ⟨fun _ _ ht ht' => inFlight_unique h ht ht', lifeCycle_reachable h hk hs,
    fun _ hr => lasting_run h hk hr, fun _ _ _ he hc => steady_visit he hc,
    fun _ _ _ he hc => steady_resumeEntry he hc,
    fun _ _ _ _ he hm => ⟨fun hq => refused_visit hk hq he hm,
      fun hq => refused_resumeEntry hk hq he hm⟩⟩

/-- The only lock is the only one with its id. -/
theorem sole_of_single (h : w.locks.length = 1) : w.Sole 0 k := fun l' k' hk' _ => by
  have hlt : l' < w.locks.length := (List.getElem?_eq_some_iff.1 hk').1
  rw [h] at hlt
  exact Nat.lt_one_iff.1 hlt

/-- A world in which a script has taken a lease and renewed it. -/
def renewedOnce : World :=
  turn^[3] (ofScript [.create "a" "alpha" (.ofSeconds 15) [] "p" ⟨"i"⟩, .acquireOnce "a",
    .handleRenew "a"])

theorem length_locks_renewedOnce : renewedOnce.locks.length = 1 := by decide +kernel

/-- The life of an instance that has renewed its lease once. -/
theorem life_of_renewed_instance :
    ∃ k, renewedOnce.locks[0]? = some k ∧ k.stage = .acquired ∧
      LifeCycle k.request k.stage (renewedOnce.callsBy k.id) ∧
      (renewedOnce.callsBy k.id).length = 2 := by
  have hr : Reachable (fun _ => True) renewedOnce :=
    reachable_ofScript (by simp [Step.Within, Step.AllWithin]) 3
  obtain ⟨k, hk, hst, hn⟩ : ∃ k, renewedOnce.locks[0]? = some k ∧ k.stage = .acquired ∧
      (renewedOnce.callsBy k.id).length = 2 :=
    ⟨renewedOnce.locks.get ⟨0, by decide +kernel⟩, by simp, by decide +kernel, by decide +kernel⟩
  have hs : renewedOnce.Sole 0 k := fun l' k' hk' _ => by
    have hlt : l' < renewedOnce.locks.length := (List.getElem?_eq_some_iff.1 hk').1
    rw [length_locks_renewedOnce] at hlt
    exact Nat.lt_one_iff.1 hlt
  exact ⟨k, hk, hst, (life_of_instance hr hk hs).2.1, hn⟩

end World

end Leasehold
