import Mathlib.Tactic.Common
import Leasehold.Proofs.World.Stretch

/-!
# Inside a critical section

All that a visit to a critical section can come to in one turn.  What the proofs about visits say of
the world, the log or the reply is read off here, and nothing else unfolds what happens inside.

* `Lock.refusal`, `Lock.replyTo`: why a lock does not make a lease call, and what the answer means.
* `World.visit_cases`: a task enters when it is the first, and waits otherwise.
* `World.LetIn`, `World.letIn_enter`: what becomes of a visit that is let in.
* `World.GoesOn`, `World.goesOn_resumeEntry`: what becomes of a visit that goes on after a wait.
-/

namespace Leasehold

/-- Why a lock does not make a lease call. -/
def Lock.refusal (k : Lock) : LeaseCall → Option LockFailure
  | .acquire =>
    match World.notFree k.stage with
    | some m => some (.misuse m)
    | none => if k.cancelled then some .cancelled else none
  | .renew =>
    match World.notHeld k.stage with
    | some m => some (.misuse m)
    | none => if k.cancelled then some .cancelled else none
  | .release => (World.notHeld k.stage).map .misuse

/-- What the answer to a lease call means for whoever has asked for it. -/
def Lock.replyTo (k : Lock) (call : LeaseCall) : Answer → Reply
  | .ok () => .ok (if call = .release then .released else .acquired)
  | .error e => .error (World.failureFor k e)

namespace Entry

/-- The lease call that a visit is for. -/
def call? : Entry → Option LeaseCall
  | queued errand => errand.leaseCall?
  | acquiring .. => some .acquire
  | renewing .. => some .renew
  | releasing .. => some .release

/-- The visit waits inside for the answer to its call. -/
inductive Awaits : Entry → LeaseCall → Flight → Prop
  | acquiring (f : Flight) (n : Nat) : Awaits (acquiring f n) .acquire f
  | renewing (f : Flight) (n : Nat) : Awaits (renewing f n) .renew f
  | releasing (f : Flight) (limit : Timer) : Awaits (releasing f limit) .release f

variable {e : Entry} {call : LeaseCall} {f : Flight}

theorem Awaits.call? (h : e.Awaits call f) : e.call? = some call := by
  cases h <;> rfl

theorem Awaits.engagement (h : e.Awaits call f) (l : LockId) :
    e.engagement l = .calling l call f.request f.record f.leg.course := by
  cases h <;> rfl

theorem Awaits.ne_queued (h : e.Awaits call f) (errand : Errand) : e ≠ .queued errand := by
  rintro rfl
  cases h

end Entry

namespace World

variable {t : TaskId} {w w' : World} {l : LockId} {k : Lock} {errand : Errand} {call : LeaseCall}

/-! ### The way in -/

theorem getElem?_enqueued (hk : w.locks[l]? = some k) (t : TaskId) :
    (w.updateLock l fun k => { k with queue := k.queue ++ [t] }).locks[l]? =
      some { k with queue := k.queue ++ [t] } := by
  rw [getElem?_updateLock, if_pos rfl, hk]
  rfl

theorem visit_of_none (hk : w.locks[l]? = none) (errand : Errand) :
    w.visit t l errand = (w, .done (.error .cancelled)) := by
  rw [visit, hk]

theorem enter_of_none (hk : w.locks[l]? = none) (errand : Errand) :
    w.enter t l errand = (w, .done (.error .cancelled)) := by
  rw [enter, hk]

theorem resumeEntry_of_none (hk : w.locks[l]? = none) (e : Entry) :
    w.resumeEntry t l e = (w, .done (.error .cancelled)) := by
  rw [resumeEntry, hk]

/-- A visit enters at once if nobody is at the critical section, and waits for its turn
otherwise. -/
theorem visit_cases (hk : w.locks[l]? = some k) (errand : Errand) :
    k.queue = [] ∧ w.visit t l errand =
        (w.updateLock l fun k => { k with queue := k.queue ++ [t] }).enter t l errand ∨
      k.queue ≠ [] ∧ w.visit t l errand =
        (w.updateLock l fun k => { k with queue := k.queue ++ [t] },
          .waiting (.queued errand)) := by
  unfold visit
  rw [hk]
  dsimp only
  by_cases hq : k.queue.isEmpty = true
  · exact .inl ⟨List.isEmpty_iff.1 hq, if_pos hq⟩
  · exact .inr ⟨fun hn => hq (List.isEmpty_iff.2 hn), if_neg hq⟩

theorem isAdmitted_iff (hk : w.locks[l]? = some k) :
    w.isAdmitted t l = true ↔ k.queue.head? = some t := by
  rw [isAdmitted, hk]
  exact beq_iff_eq

/-- A task that waits for its turn enters when it is the first. -/
theorem resumeQueued_cases (hk : w.locks[l]? = some k) (errand : Errand) :
    k.queue.head? = some t ∧ w.resumeEntry t l (.queued errand) = w.enter t l errand ∨
      k.queue.head? ≠ some t ∧
        w.resumeEntry t l (.queued errand) = (w, .waiting (.queued errand)) := by
  unfold resumeEntry
  rw [hk]
  dsimp only
  by_cases ha : w.isAdmitted t l = true
  · exact .inl ⟨(isAdmitted_iff hk).1 ha, if_pos ha⟩
  · exact .inr ⟨fun hh => ha ((isAdmitted_iff hk).2 hh), if_neg ha⟩

/-! ### Calls -/

theorem locks_arrive (w : World) (n : Nat) (r : Request) (p : Plan) :
    (w.arrive n r p).1.locks = w.locks := by
  unfold arrive
  dsimp only
  split <;> exact locks_settleCall w r p

theorem locks_issue (w : World) (r : Request) : (w.issue r).1.locks = w.locks := by
  unfold issue
  dsimp only
  split
  · exact (locks_arrive _ _ _ _).trans (locks_takePlan _)
  · exact locks_takePlan _

theorem locks_fly (w : World) (f : Flight) : (w.fly f).1.locks = w.locks := by
  unfold fly
  split
  · split
    · exact locks_arrive _ _ _ _
    · rfl
  · rfl

theorem clock_arrive (w : World) (n : Nat) (r : Request) (p : Plan) :
    (w.arrive n r p).1.clock = w.clock := by
  have hc : (w.settleCall r p).1.clock = w.clock := by
    unfold settleCall
    split <;> rfl
  unfold arrive
  dsimp only
  split <;> exact hc

theorem clock_issue (w : World) (r : Request) : (w.issue r).1.clock = w.clock := by
  unfold issue
  dsimp only
  split
  · exact (clock_arrive _ _ _ _).trans (clock_takePlan r.operation)
  · exact clock_takePlan r.operation

theorem clock_fly (w : World) (f : Flight) : (w.fly f).1.clock = w.clock := by
  unfold fly
  split
  · split
    · exact clock_arrive _ _ _ _
    · rfl
  · rfl

theorem now_issue (w : World) (r : Request) : (w.issue r).1.now = w.now := by
  rw [now, clock_issue, now]

theorem flight_arrive {n : Nat} {r : Request} {p : Plan} {f : Flight}
    (h : (w.arrive n r p).2 = .waiting f) : f.record = n ∧ f.request = r := by
  unfold arrive at h
  dsimp only at h
  split at h
  · cases h
  · cases h
    exact ⟨rfl, rfl⟩

theorem flight_issue {r : Request} {f : Flight} (h : (w.issue r).2 = .waiting f) :
    f.record = w.log.length ∧ f.request = r := by
  unfold issue at h
  dsimp only at h
  rw [log_takePlan] at h
  split at h
  · exact flight_arrive h
  · cases h
    exact ⟨rfl, rfl⟩

/-- A call on its way keeps its record and its request. -/
theorem flight_fly {f f' : Flight} (h : (w.fly f).2 = .waiting f') :
    f'.record = f.record ∧ f'.request = f.request := by
  unfold fly at h
  split at h
  · split at h
    · exact flight_arrive h
    · cases h
  · cases h
    exact ⟨rfl, rfl⟩

/-- A lock makes the calls that its stage allows, and only a release after its cancellation. -/
theorem refusal_eq_none_iff : k.refusal call = none ↔
    k.stage = call.allowed ∧ (call ≠ .release → k.cancelled = false) := by
  unfold Lock.refusal
  cases call <;> cases k.stage <;> cases k.cancelled <;> simp [notFree, notHeld, LeaseCall.allowed]

/-- An acquisition and a renewal leave the stage alone while the call is on its way. -/
theorem setStage_during (hk : w.locks[l]? = some k) (hr : k.refusal call = none)
    (hc : call ≠ .release) : w.setStage l call.during = w := by
  refine setStage_eq_self w hk ((refusal_eq_none_iff.1 hr).1.trans ?_)
  cases call with
  | acquire | renew => rfl
  | release => exact absurd rfl hc

/-- The errand is for a lease call that the lock makes, and the call has come to `y`. -/
structure Sends (w : World) (l : LockId) (k : Lock) (errand : Errand) (call : LeaseCall)
    (y : World × Poll Flight Answer) : Prop where
  errand : errand.leaseCall? = some call
  granted : k.refusal call = none
  issued : (w.setStage l call.during).issue (k.request call) = y

theorem sends_staying (hk : w.locks[l]? = some k) (he : errand.leaseCall? = some call)
    (hr : k.refusal call = none) (hc : call ≠ .release) :
    w.Sends l k errand call (w.issue (k.request call)) :=
  ⟨he, hr, by rw [setStage_during hk hr hc]⟩

namespace Sends

variable {p : Poll Flight Answer} (h : w.Sends l k errand call (w', p))
include h

theorem allowed : k.stage = call.allowed := (refusal_eq_none_iff.1 h.granted).1

theorem live (hc : call ≠ .release) : k.cancelled = false :=
  (refusal_eq_none_iff.1 h.granted).2 hc

theorem locks : w'.locks = (w.setStage l call.during).locks := by
  rw [← locks_issue (w.setStage l call.during) (k.request call), h.issued]

theorem now : w'.now = w.now := by
  have hn := now_issue (w.setStage l call.during) (k.request call)
  rwa [h.issued] at hn

theorem lock (hk : w.locks[l]? = some k) :
    w'.locks[l]? = some { k with stage := call.during } := by
  rw [h.locks, setStage, getElem?_updateLock, if_pos rfl, hk]
  rfl

theorem locks_staying (hk : w.locks[l]? = some k) (hc : call ≠ .release) :
    w'.locks = w.locks := by
  rw [h.locks, setStage_during hk h.granted hc]

theorem issued_staying (hk : w.locks[l]? = some k) (hc : call ≠ .release) :
    w.issue (k.request call) = (w', p) := by
  rw [← h.issued, setStage_during hk h.granted hc]

end Sends

/-- The answer to its call ends a visit. -/
def takeAnswer (w : World) (t : TaskId) (l : LockId) (k : Lock) (call : LeaseCall) (a : Answer) :
    World × Poll Entry Reply :=
  (w.concluded l call a).reply t l (k.replyTo call a)

theorem acquired_eq (a : Answer) : w.acquired t l k a = w.takeAnswer t l k .acquire a := by
  cases a <;> rfl

theorem renewed_eq (a : Answer) : w.renewed t l k a = w.takeAnswer t l k .renew a := by
  cases a <;> rfl

theorem released_eq (a : Answer) : w.released t l k a = w.takeAnswer t l k .release a := by
  cases a <;> rfl

/-! ### Visits that are let in -/

/-- What becomes of the visit of a task that has the critical section for itself. -/
inductive LetIn (w : World) (t : TaskId) (l : LockId) (k : Lock) (errand : Errand) :
    World × Poll Entry Reply → Prop
  | observed : errand.leaseCall? = none → LetIn w t l k errand (w.reply t l (.ok k.stage))
  | refused (call : LeaseCall) {e} : errand.leaseCall? = some call → k.refusal call = some e →
      LetIn w t l k errand (w.reply t l (.error e))
  | answered {call w' a} : w.Sends l k errand call (w', .done a) →
      LetIn w t l k errand (w'.takeAnswer t l k call a)
  /-- An acquisition or a renewal waits, and can be interrupted. -/
  | waiting {call w' f e} : w.Sends l k errand call (w', .waiting f) → call ≠ .release →
      e.Awaits call f → LetIn w t l k errand (w'.takeTicket.1, .waiting e)
  /-- A release waits until its deadline. -/
  | releasing {w' f d} : errand = .release d → w.Sends l k errand .release (w', .waiting f) →
      (w'.timer d).1.hasFired (w'.timer d).2 = false →
      LetIn w t l k errand ((w'.timer d).1, .waiting (.releasing f (w'.timer d).2))
  | timeout {w' f d} : errand = .release d → w.Sends l k errand .release (w', .waiting f) →
      (w'.timer d).1.hasFired (w'.timer d).2 = true →
      LetIn w t l k errand ((w'.timer d).1.takeAnswer t l k .release (.error .timeout))

section LetIn

variable {y : World × Poll Flight Answer}

theorem letIn_awaitAcquired (h : w.Sends l k errand .acquire y) :
    w.LetIn t l k errand (awaitAcquired t l k y) := by
  obtain ⟨w', f | a⟩ := y
  · exact .waiting h (by decide) (.acquiring f _)
  · rw [awaitAcquired, acquired_eq]
    exact .answered h

theorem letIn_awaitRenewed (h : w.Sends l k errand .renew y) :
    w.LetIn t l k errand (awaitRenewed t l k y) := by
  obtain ⟨w', f | a⟩ := y
  · exact .waiting h (by decide) (.renewing f _)
  · rw [awaitRenewed, renewed_eq]
    exact .answered h

theorem letIn_awaitReleased {d : Span} (h : w.Sends l k (.release d) .release y) :
    w.LetIn t l k (.release d) (awaitReleased t l k d y) := by
  obtain ⟨w', f | a⟩ := y
  · unfold awaitReleased
    dsimp only
    cases hx : (w'.timer d).1.hasFired (w'.timer d).2 with
    | true =>
      rw [if_pos rfl, released_eq]
      exact .timeout rfl h hx
    | false => exact .releasing rfl h hx
  · rw [awaitReleased, released_eq]
    exact .answered h

/-- What happens inside the critical section. -/
theorem letIn_enter (hk : w.locks[l]? = some k) (errand : Errand) :
    w.LetIn t l k errand (w.enter t l errand) := by
  unfold enter
  rw [hk]
  cases errand with
  | observe => exact .observed rfl
  | acquire =>
    dsimp only
    cases hs : notFree k.stage with
    | some m => exact .refused .acquire rfl (by rw [Lock.refusal, hs])
    | none =>
      cases hc : k.cancelled with
      | true => exact .refused .acquire rfl (by rw [Lock.refusal, hs, hc]; rfl)
      | false =>
        have hr : k.refusal .acquire = none := by rw [Lock.refusal, hs, hc]; rfl
        rw [if_neg Bool.false_ne_true]
        exact letIn_awaitAcquired (sends_staying hk rfl hr (by decide))
  | renew =>
    dsimp only
    cases hs : notHeld k.stage with
    | some m => exact .refused .renew rfl (by rw [Lock.refusal, hs])
    | none =>
      cases hc : k.cancelled with
      | true => exact .refused .renew rfl (by rw [Lock.refusal, hs, hc]; rfl)
      | false =>
        have hr : k.refusal .renew = none := by rw [Lock.refusal, hs, hc]; rfl
        rw [if_neg Bool.false_ne_true]
        exact letIn_awaitRenewed (sends_staying hk rfl hr (by decide))
  | release d =>
    dsimp only
    cases hs : notHeld k.stage with
    | some m => exact .refused .release rfl (by rw [Lock.refusal, hs]; rfl)
    | none => exact letIn_awaitReleased ⟨rfl, by rw [Lock.refusal, hs]; rfl, rfl⟩

end LetIn

theorem enter_observe (hk : w.locks[l]? = some k) :
    w.enter t l .observe = (w.leave t l, .done (.ok k.stage)) := by
  unfold enter
  rw [hk]
  rfl

/-! ### Visits that go on -/

/-- What becomes of a visit that goes on after a wait. -/
inductive GoesOn (w : World) (t : TaskId) (l : LockId) (k : Lock) :
    Entry → World × Poll Entry Reply → Prop
  | admitted {errand : Errand} {y} : k.queue.head? = some t → w.LetIn t l k errand y →
      GoesOn w t l k (.queued errand) y
  | behind {errand : Errand} : k.queue.head? ≠ some t →
      GoesOn w t l k (.queued errand) (w, .waiting (.queued errand))
  | answered {e call f w' a} : e.Awaits call f → w.fly f = (w', .done a) →
      GoesOn w t l k e (w'.takeAnswer t l k call a)
  | waiting {e e' call f f' w'} : e.Awaits call f → call ≠ .release →
      w.fly f = (w', .waiting f') → w'.isCancelled l = false → e'.Awaits call f' →
      GoesOn w t l k e (w', .waiting e')
  | interrupted {e call f f' w'} : e.Awaits call f → call ≠ .release →
      w.fly f = (w', .waiting f') → w'.isCancelled l = true →
      GoesOn w t l k e (w'.reply t l (.error .cancelled))
  | releasing {f f' w' limit} : w.fly f = (w', .waiting f') → w'.hasFired limit = false →
      GoesOn w t l k (.releasing f limit) (w', .waiting (.releasing f' limit))
  | timeout {f f' w' limit} : w.fly f = (w', .waiting f') → w'.hasFired limit = true →
      GoesOn w t l k (.releasing f limit) (w'.takeAnswer t l k .release (.error .timeout))

/-- What a task comes to that goes on with its visit. -/
theorem goesOn_resumeEntry (hk : w.locks[l]? = some k) (e : Entry) :
    w.GoesOn t l k e (w.resumeEntry t l e) := by
  cases e with
  | queued errand =>
    rcases resumeQueued_cases (t := t) hk errand with ⟨hh, he⟩ | ⟨hh, he⟩ <;> rw [he]
    · exact .admitted hh (letIn_enter hk errand)
    · exact .behind hh
  | acquiring f n =>
    unfold resumeEntry
    rw [hk]
    dsimp only
    rcases hy : w.fly f with ⟨w', f' | a⟩
    · dsimp only
      cases hc : w'.isCancelled l with
      | true => exact .interrupted (.acquiring f n) (by decide) hy hc
      | false => exact .waiting (.acquiring f n) (by decide) hy hc (.acquiring f' n)
    · dsimp only
      rw [acquired_eq]
      exact .answered (.acquiring f n) hy
  | renewing f n =>
    unfold resumeEntry
    rw [hk]
    dsimp only
    rcases hy : w.fly f with ⟨w', f' | a⟩
    · dsimp only
      cases hc : w'.isCancelled l with
      | true => exact .interrupted (.renewing f n) (by decide) hy hc
      | false => exact .waiting (.renewing f n) (by decide) hy hc (.renewing f' n)
    · dsimp only
      rw [renewed_eq]
      exact .answered (.renewing f n) hy
  | releasing f limit =>
    unfold resumeEntry
    rw [hk]
    dsimp only
    rcases hy : w.fly f with ⟨w', f' | a⟩
    · dsimp only
      cases hx : w'.hasFired limit with
      | true =>
        rw [if_pos rfl, released_eq]
        exact .timeout hy hx
      | false => exact .releasing hy hx
    · dsimp only
      rw [released_eq]
      exact .answered (.releasing f limit) hy

end World

end Leasehold
