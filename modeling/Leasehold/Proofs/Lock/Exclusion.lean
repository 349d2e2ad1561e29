import Leasehold.Proofs.Lock.Cancellation
import Leasehold.Proofs.Lock.Renewal

/-!
# Mutual exclusion

When calls are answered at once, nobody revokes leases, and nobody else speaks for the instance, a
lock with a renewal loop that is in use has the lease of its object.

* `World.Backs`: the lease record of the store that backs a lock.
* `World.Secure`: what the moves of a turn keep.
* `Secure.move`: every move keeps it.
* `World.Sound`: what holds between two turns, and `sound_reachable`.
* `World.mutual_exclusion`: locks in use hold their leases, and there is one for each name.
-/

namespace Leasehold.World

variable {A : Step → Prop} {D : Deed → Prop} {t : TaskId} {w w' w'' : World}
  {c c' : Option Engagement} {l : LockId} {k k' : Lock} {lease : Lease}

/-! ### Moves without delays -/

theorem plans_concluded (call : LeaseCall) (a : Answer) :
    (w.concluded l call a).plans = w.plans := by
  cases call with
  | acquire => cases a <;> rfl
  | renew => rfl
  | release => exact plans_cancelScope

/-- A move makes no plans if no step does. -/
theorem Move.plans_nil (h : Move A D t w c w' c') (hA : ∀ op p n, ¬ A (.plan op p n))
    (hp : w.plans = []) : w'.plans = [] := by
  cases h with
  | quiet h => exact h.plans.trans hp
  | own | parent | foreign | revoke | inject | spawn | enqueue | told | forget => exact hp
  | cancel l => exact plans_cancelScope.trans hp
  | lose l reason _ _ _ => exact (quiet_raiseLoss w l reason).plans.trans hp
  | plan op p n h => exact absurd h (hA op p n)
  | build cr _ => exact (founding_built w cr).plans.trans hp
  | leave l e _ _ => exact (quiet_leave w t l).plans.trans hp
  | abandon l e _ _ => exact (quiet_leave w t l).plans.trans hp
  | send l k errand call _ _ _ _ _ =>
    rw [sent_of_plans_nil (w := w.setStage l call.during) hp]
    exact hp
  | arrive l call r n p => exact (plans_settleCall r p).trans hp
  | receive l call r n a =>
    exact ((quiet_leave _ t l).plans.trans (plans_concluded call a)).trans hp
  | ask r _ =>
    rw [sent_of_plans_nil hp]
    exact hp
  | provision r n p => exact (plans_settleCall r p).trans hp

/-- Without plans a call goes out on the direct way. -/
theorem Move.outbound {call : LeaseCall} {r : Request} {n : Nat} {p : Plan}
    (h : Move A D t w c w' c') (hp : w.plans = [])
    (hc' : c' = some (.calling l call r n (.outbound p))) : c = c' ∨ p = .immediate := by
  cases h with
  | quiet | own | cancel | lose | parent | foreign | revoke | inject | plan | spawn =>
    exact .inl rfl
  | send l k errand call _ _ _ _ _ =>
    right
    rw [courseOf, plans_takePlan _ hp] at hc'
    cases hc'
    rfl
  | arrive => cases hc'
  | build | enqueue | leave | abandon | receive | ask | provision | told | forget => cases hc'

/-- An answer that is on its way back has been so before, or the call has just arrived. -/
theorem Move.inbound {call : LeaseCall} {r : Request} {n : Nat} {a : Answer}
    (h : Move A D t w c w' c') (hc' : c' = some (.calling l call r n (.inbound a))) :
    c = c' ∨ ∃ p, c = some (.calling l call r n (.outbound p)) ∧ w' = (w.settleCall r p).1 ∧
      a = p.replacement.getD (w.settleCall r p).2 := by
  cases h with
  | quiet | own | cancel | lose | parent | foreign | revoke | inject | plan | spawn =>
    exact .inl rfl
  | arrive l call r n p =>
    cases hc'
    exact .inr ⟨p, rfl, rfl, rfl⟩
  | send => cases hc'
  | build | enqueue | leave | abandon | receive | ask | provision | told | forget => cases hc'

/-! ### Locks in use -/

/-- The lock is there and in use. -/
def Uses (w : World) (l : LockId) : Prop := ∃ k, w.locks[l]? = some k ∧ k.InUse

theorem uses_of_locks (h : w'.locks = w.locks) (hu : w'.Uses l) : w.Uses l := by
  rwa [Uses, h] at hu

theorem uses_updateLock {l' : LockId} {f : Lock → Lock} (hf : ∀ k, (f k).InUse → k.InUse)
    (hu : (w.updateLock l' f).Uses l) : w.Uses l := by
  obtain ⟨k, hk, hu⟩ := hu
  rw [getElem?_updateLock] at hk
  split at hk
  · obtain ⟨k₀, hk₀, rfl⟩ := Option.map_eq_some_iff.1 hk
    exact ⟨k₀, hk₀, hf k₀ hu⟩
  · exact ⟨k, hk, hu⟩

theorem uses_leave {l' : LockId} (hu : (w.leave t l').Uses l) : w.Uses l :=
  uses_updateLock (f := fun k => { k with queue := k.queue.erase t }) (fun _ hu => hu)
    (uses_of_locks (quiet_leave w t l').locks hu)

theorem uses_cancelScope {l' : LockId} (hu : (w.cancelScope l').Uses l) : w.Uses l := by
  refine uses_updateLock (fun _ hu => ?_) (uses_of_locks (quiet_cancelScope w l').locks hu)
  cases hu.2

theorem uses_concluded {l' : LockId} {call : LeaseCall} {a : Answer}
    (hu : (w.concluded l' call a).Uses l) :
    w.Uses l ∨ l' = l ∧ call = .acquire ∧ a = .ok () := by
  cases call with
  | acquire =>
    cases a with
    | ok u =>
      by_cases hl : l' = l
      · exact .inr ⟨hl, rfl, rfl⟩
      · obtain ⟨k, hk, hu⟩ := hu
        rw [concluded, setStage, getElem?_updateLock, if_neg hl] at hk
        exact .inl ⟨k, hk, hu⟩
    | error e => exact .inl hu
  | renew => exact .inl hu
  | release => exact .inl (uses_cancelScope hu)

/-- A lock comes into use only when an acquisition is granted. -/
theorem Move.uses (h : Move A D t w c w' c') (hu : w'.Uses l) :
    w.Uses l ∨ ∃ r n, c = some (.calling l .acquire r n (.inbound (.ok ()))) := by
  cases h with
  | quiet h => exact .inl (uses_of_locks h.locks hu)
  | own l' f g =>
    exact .inl (uses_updateLock (f := fun k => { k with shares := f k, listed := g k })
      (fun _ hu => hu) hu)
  | cancel l' => exact .inl (uses_cancelScope hu)
  | lose l' reason _ _ _ =>
    refine .inl (uses_updateLock (fun _ hu => ?_)
      (uses_of_locks (quiet_raiseLoss w l' reason).locks hu))
    cases hu.2
  | parent | foreign | revoke | inject | plan | spawn | told | forget => exact .inl hu
  | build cr _ =>
    obtain ⟨k, hk, hs, hc⟩ := hu
    obtain ⟨s, ws, hl⟩ := (founding_built w cr).locks
    rw [hl] at hk
    rcases getElem?_concat_cases hk with hk | ⟨-, rfl⟩
    · exact .inl ⟨k, hk, hs, hc⟩
    · cases hs
  | enqueue l' errand _ =>
    exact .inl (uses_updateLock (f := fun k => { k with queue := k.queue ++ [t] })
      (fun _ hu => hu) hu)
  | leave l' e _ _ => exact .inl (uses_leave hu)
  | abandon l' e _ _ => exact .inl (uses_leave hu)
  | send l' k errand call hk _ _ hs _ =>
    have hu := uses_of_locks (locks_sent _) hu
    cases call with
    | renew =>
      have he : w.setStage l' (LeaseCall.during .renew) = w := setStage_eq_self w hk hs
      exact .inl (by rwa [he] at hu)
    | acquire => exact .inl (uses_updateLock (fun _ hu => by cases hu.1) hu)
    | release => exact .inl (uses_updateLock (fun _ hu => by cases hu.1) hu)
  | arrive l' call r n p => exact .inl (uses_of_locks (locks_settleCall w r p) hu)
  | receive l' call r n a =>
    rcases uses_concluded (uses_leave hu) with hu | ⟨rfl, rfl, rfl⟩
    · exact .inl hu
    · exact .inr ⟨r, n, rfl⟩
  | ask r _ => exact .inl (uses_of_locks (locks_sent r) hu)
  | provision r n p => exact .inl (uses_of_locks (locks_settleCall w r p) hu)

/-! ### Leases that back a lock -/

/-- Nobody outside makes calls with the id. -/
def Apart (A : Step → Prop) (id : LeaseId) : Prop := ∀ r, A (.foreign r) → r.holder? ≠ some id

/-- The store has a lease for the lock, which covers every grant of it. -/
structure Backs (w : World) (k : Lock) (lease : Lease) : Prop where
  slot : w.store.slot? k.name.backing = some (some lease)
  holder : lease.holder = k.id
  length : lease.length = .ofSeconds k.term.wholeSeconds
  covers : ∀ rec ∈ w.log, k.core.Grants rec → rec.time + lease.length ≤ lease.expires

theorem store_takePlan (op : Operation) : (w.takePlan op).1.store = w.store := by
  unfold takePlan
  split <;> rfl

theorem store_sent (r : Request) : (w.sent r).store = w.store := store_takePlan _

theorem store_concluded (call : LeaseCall) (a : Answer) :
    (w.concluded l call a).store = w.store := by
  cases call with
  | acquire => cases a <;> rfl
  | renew => rfl
  | release => exact (quiet_cancelScope w l).store

theorem slot?_settleCall_other {o : ObjectPath} {r : Request} {p : Plan}
    (hs : w.store.slot? o = some (some lease)) (ha : w.now < lease.expires)
    (hr : r.holder? ≠ some lease.holder) :
    (w.settleCall r p).1.store.slot? o = some (some lease) := by
  unfold settleCall
  split
  · exact hs
  · exact Store.slot?_serve_other hs ha hr

/-- The active lease of a lock outlasts every move, unless a call of the lock's own arrives. -/
theorem Move.slot {E : TaskId → Option Engagement} {o : ObjectPath} (h : Move A D t w (E t) w' c')
    (hA : w.ledger.Answerable E) (hrevoke : ∀ o, ¬ A (.revoke o)) (hsole : w.Sole l k)
    (hap : Apart A k.id) (hs : w.store.slot? o = some (some lease)) (hid : lease.holder = k.id)
    (ha : w.now < lease.expires) : w'.store.slot? o = some (some lease) ∨
      ∃ call r n p, E t = some (.calling l call r n (.outbound p)) ∧ w' = (w.settleCall r p).1 := by
  have same : ∀ {w₁ : World}, w₁.store = w.store → w₁.store.slot? o = some (some lease) :=
    fun he => by rw [he]; exact hs
  generalize hc : E t = c at h
  cases h with
  | quiet h => exact .inl (same h.store)
  | own | parent | plan | spawn | enqueue | told | forget => exact .inl hs
  | inject op n _ => exact .inl hs
  | cancel l' => exact .inl (same (quiet_cancelScope w l').store)
  | lose l' reason _ _ _ => exact .inl (same (quiet_raiseLoss w l' reason).store)
  | foreign r hr =>
    exact .inl (Store.slot?_serve_other hs ha (by rw [hid]; exact hap r hr))
  | revoke o' hr => exact absurd hr (hrevoke o')
  | build cr _ => exact .inl (same (founding_built w cr).store)
  | leave l' e _ _ => exact .inl (same (quiet_leave w t l').store)
  | abandon l' e _ _ => exact .inl (same (quiet_leave w t l').store)
  | send l' k' errand call _ _ _ _ _ => exact .inl (same (store_sent _))
  | arrive l' call r n p =>
    by_cases hl : l' = l
    · subst hl
      exact .inr ⟨call, r, n, p, rfl, rfl⟩
    · -- the call of another lock speaks for another instance
      obtain ⟨k', hk', -, -, rfl⟩ := hA.inside t l' call r n _ hc
      obtain ⟨k₁, hk₁, rfl⟩ := exists_lock_of_core hk'
      refine .inl (slot?_settleCall_other hs ha fun he => hl ?_)
      rw [Core.holder?_request, hid] at he
      exact hsole l' k₁ hk₁ (Option.some.inj he)
  | receive l' call r n a =>
    exact .inl (same ((quiet_leave _ t l').store.trans (store_concluded call a)))
  | ask r _ => exact .inl (same (store_sent r))
  | provision r n p =>
    refine .inl (slot?_settleCall_other hs ha ?_)
    rw [hA.outside t r n _ hc]
    simp

theorem mem_answered {n : Nat} {a : Answer} {rec : CallRecord} (hm : rec ∈ (w.answered n a).log) :
    rec ∈ w.log ∨ ∃ rec', w.log[n]? = some rec' ∧ rec = { rec' with answer := some a } := by
  obtain ⟨m, hm⟩ := List.mem_iff_getElem?.1 hm
  have hm' : (w.log.modify n fun rec => { rec with answer := some a })[m]? = some rec := hm
  by_cases hn : n = m
  · subst hn
    rw [List.getElem?_modify_eq] at hm'
    obtain ⟨rec', hm', he⟩ := Option.map_eq_some_iff.1 hm'
    exact .inr ⟨rec', hm', he.symm⟩
  · rw [List.getElem?_modify_ne _ _ hn] at hm'
    exact .inl (List.mem_of_getElem? hm')

/-- The answered call of a lock is a grant of an instance only if it is the instance's own, was
answered well, and is not its release. -/
theorem grants_received {E : TaskId → Option Engagement} {l' : LockId} {call : LeaseCall}
    {r : Request} {n : Nat} {a : Answer} {rec : CallRecord} (hA : w.ledger.Answerable E)
    (hk : w.locks[l]? = some k) (hsole : w.Sole l k)
    (hc : E t = some (.calling l' call r n (.inbound a))) (hn : w.log[n]? = some rec)
    (hg : k.core.Grants { rec with answer := some a }) :
    l' = l ∧ call ≠ .release ∧ a = .ok () := by
  obtain ⟨k', hk', -, -, hreq⟩ := hA.inside t l' call r n _ hc
  obtain ⟨k₁, hk₁, rfl⟩ := exists_lock_of_core hk'
  obtain ⟨rec₁, hn₁, -, hr₁⟩ := hA.pending t _ n hc rfl
  obtain rfl := Option.some.inj (hn₁.symm.trans hn)
  obtain ⟨ha, hr⟩ := hg
  have hr₁ : rec₁.request = k₁.core.request call := (Option.some.inj hr₁).symm.trans hreq.symm
  have hreq' : k₁.core.request call = k.core.request .acquire ∨
      k₁.core.request call = k.core.request .renew := by
    rw [← hr₁]
    exact hr
  have hid : k₁.id = k.id := by
    rcases hreq' with he | he <;>
    · have := congrArg Request.holder? he
      rw [Core.holder?_request, Core.holder?_request] at this
      exact Option.some.inj this
  obtain rfl := hsole l' k₁ hk₁ hid
  obtain rfl := Option.some.inj (hk₁.symm.trans hk)
  refine ⟨rfl, ?_, Option.some.inj ha⟩
  rintro rfl
  rcases hreq' with he | he <;> cases k₁.core.request_injective he

/-- The answered call of a construction is no grant. -/
theorem not_grants_told {E : TaskId → Option Engagement} {r : Request} {n : Nat} {co : Course}
    {a : Answer} {rec : CallRecord} (hA : w.ledger.Answerable E)
    (hc : E t = some (.provisioning r n co)) (hn : w.log[n]? = some rec) :
    ¬ k.core.Grants { rec with answer := some a } := by
  intro hg
  obtain ⟨rec₁, hn₁, -, hr₁⟩ := hA.pending t _ n hc rfl
  obtain rfl := Option.some.inj (hn₁.symm.trans hn)
  have hnone := hA.outside t r n _ hc
  rw [show r = rec₁.request from Option.some.inj hr₁] at hnone
  rcases hg.2 with he | he <;>
  · have he : rec₁.request = _ := he
    rw [he, Core.holder?_request] at hnone
    cases hnone

/-- A grant is recorded when its call is answered, and not before. -/
theorem Move.grants {E : TaskId → Option Engagement} {rec : CallRecord}
    (h : Move A D t w (E t) w' c') (hA : w.ledger.Answerable E) (hk : w.locks[l]? = some k)
    (hsole : w.Sole l k) (hm : rec ∈ w'.log) (hg : k.core.Grants rec) : rec ∈ w.log ∨
      ∃ call r n, call ≠ .release ∧ E t = some (.calling l call r n (.inbound (.ok ()))) := by
  have same : ∀ {w₁ : World}, w₁.log = w.log → rec ∈ w₁.log → rec ∈ w.log :=
    fun he hm => by rwa [he] at hm
  have sent : ∀ (x : World) {r : Request}, x.log = w.log → rec ∈ (x.sent r).log →
      rec ∈ w.log := fun x _ he hm => by
    rw [log_sent, he] at hm
    rcases List.mem_append.1 hm with hm | hm
    · exact hm
    · rw [List.mem_singleton.1 hm] at hg
      cases hg.1
  generalize hc : E t = c at h
  cases h with
  | quiet h => exact .inl (same h.log hm)
  | own | parent | foreign | revoke | inject | plan | spawn | enqueue | forget => exact .inl hm
  | cancel l' => exact .inl (same (quiet_cancelScope w l').log hm)
  | lose l' reason _ _ _ => exact .inl (same (quiet_raiseLoss w l' reason).log hm)
  | build cr _ => exact .inl (same (founding_built w cr).log hm)
  | leave l' e _ _ => exact .inl (same (log_leave t) hm)
  | abandon l' e _ _ => exact .inl (same (log_leave t) hm)
  | send l' k' errand call _ _ _ _ _ => exact .inl (sent (w.setStage l' call.during) rfl hm)
  | arrive l' call r n p => exact .inl (same (log_settleCall r p) hm)
  | ask r _ => exact .inl (sent w rfl hm)
  | provision r n p => exact .inl (same (log_settleCall r p) hm)
  | receive l' call r n a =>
    rw [log_leave, log_concluded] at hm
    rcases mem_answered hm with hm | ⟨rec', hn, rfl⟩
    · exact .inl hm
    · obtain ⟨rfl, hcall, rfl⟩ := grants_received hA hk hsole hc hn hg
      exact .inr ⟨call, r, n, hcall, rfl⟩
  | told r n a =>
    rcases mem_answered hm with hm | ⟨rec', hn, rfl⟩
    · exact .inl hm
    · exact absurd hg (not_grants_told hA hc hn)

/-! ### Turns -/

/-- The instance is the only one with its id, nobody outside uses that, and it is built with a
renewal loop. -/
structure Reliable (A : Step → Prop) (w : World) (l : LockId) (k : Lock) : Prop where
  sole : w.Sole l k
  apart : Apart A k.id
  renewed : Renewed A k.id

theorem Reliable.before (h : Reliable A w' l k') (ho : w.Outlives w') (he : Evolves k k') :
    Reliable A w l k where
  sole := h.sole.of_outlives ho he.id
  apart := by rw [← he.id]; exact h.apart
  renewed := by rw [← he.id]; exact h.renewed

/-- In the course of a turn of task `t`, which is engaged in `c`: the leases of all locks in use are
active, and a grant on its way back has left a lease of full length. -/
structure Secure (A : Step → Prop) (t : TaskId) (w : World) (c : Option Engagement) : Prop where
  answerable : w.ledger.Answerable (Function.update (fun _ => none) t c)
  plans : w.plans = []
  direct : ∀ l call r n p, c = some (.calling l call r n (.outbound p)) → p = .immediate
  past : ∀ rec ∈ w.log, rec.time ≤ w.now
  held : ∀ (l : LockId) (k : Lock), w.locks[l]? = some k → Reliable A w l k → k.InUse →
    ∃ lease, w.Backs k lease ∧ w.now < lease.expires
  granted : ∀ (l : LockId) (k : Lock) call r n, w.locks[l]? = some k → Reliable A w l k →
    k.cancelled = false → call ≠ .release → c = some (.calling l call r n (.inbound (.ok ()))) →
    ∃ lease, w.Backs k lease ∧ w.now + lease.length ≤ lease.expires

theorem Backs.unique {lease' : Lease} (h : w.Backs k lease) (h' : w.Backs k lease') :
    lease' = lease :=
  Option.some.inj (Option.some.inj (h'.slot.symm.trans h.slot))

theorem core_evolves (he : Evolves k k') : k'.core.Grants = k.core.Grants := by
  unfold Core.Grants
  rw [core_request, core_request, he.request]

/-- A lease that backs a lock still does so if it is the same one and covers the new grants. -/
theorem Backs.evolves (h : w.Backs k lease) (he : Evolves k k')
    (hs : w'.store.slot? k.name.backing = some (some lease))
    (hg : ∀ rec ∈ w'.log, k.core.Grants rec → rec ∈ w.log ∨
      rec.time + lease.length ≤ lease.expires) : w'.Backs k' lease where
  slot := by rw [he.name]; exact hs
  holder := h.holder.trans he.id.symm
  length := by rw [he.term]; exact h.length
  covers rec hm hgr := by
    rw [core_evolves he] at hgr
    exact (hg rec hm hgr).elim (fun hm => h.covers rec hm hgr) id

theorem Backs.unmoved (h : w.Backs k lease) (hu : w.Unmoved w') : w'.Backs k lease where
  slot := by rw [hu.store]; exact h.slot
  holder := h.holder
  length := h.length
  covers := by rw [hu.log]; exact h.covers

/-- A lease of full length from now on covers all grants so far. -/
theorem backs_of_slot (hp : ∀ rec ∈ w.log, rec.time ≤ w.now)
    (hs : w.store.slot? k.name.backing =
      some (some ⟨k.id, .ofSeconds k.term.wholeSeconds, w.now + .ofSeconds k.term.wholeSeconds⟩)) :
    w.Backs k ⟨k.id, .ofSeconds k.term.wholeSeconds, w.now + .ofSeconds k.term.wholeSeconds⟩ where
  slot := hs
  holder := rfl
  length := rfl
  covers rec hm _ := Nat.add_le_add_right (hp rec hm) _

theorem lt_add_length (h : w.Backs k lease) (he : w.now + lease.length ≤ lease.expires) :
    w.now < lease.expires := by
  have hp := k.term.renewalPeriod_lt
  rw [h.length] at he
  rw [Span.le_def, Span.nanos_add] at he
  rw [Span.lt_def]
  simp only [Span.perMilli] at hp
  omega

/-- A renewal arrives for a lock that has a lease: a fault refuses it, or the lease is of full
length from now on. -/
theorem backs_renewed (hp : ∀ rec ∈ w.log, rec.time ≤ w.now) (h : w.Backs k lease) :
    (w.serve (k.request .renew)).1.Backs k lease ∧
        (w.serve (k.request .renew)).2 = .error Store.injectedFailure ∨
      (w.serve (k.request .renew)).1.Backs k { lease with expires := w.now + lease.length } := by
  rcases Store.serve_renew w.now h.slot h.holder with ⟨hs, he⟩ | hs
  · exact .inl ⟨⟨hs, h.holder, h.length, h.covers⟩, he⟩
  · exact .inr ⟨hs, h.holder, h.length, fun rec hm _ => Nat.add_le_add_right (hp rec hm) _⟩

section Turn

variable (hplan : ∀ op p n, ¬ A (.plan op p n)) (hrevoke : ∀ o, ¬ A (.revoke o))

/-- The task's call for a lock speaks for it. -/
theorem Secure.inside (h : Secure A t w c) {call : LeaseCall} {r : Request} {n : Nat} {co : Course}
    (hc : c = some (.calling l call r n co)) :
    ∃ k, w.locks[l]? = some k ∧ k.stage = call.during ∧ k.request call = r := by
  obtain ⟨kc, hkc, -, hs, hr⟩ := h.answerable.inside t l call r n co
    ((Function.update_self ..).trans hc)
  obtain ⟨k, hk, rfl⟩ := exists_lock_of_core hkc
  exact ⟨k, hk, hs, (k.request_core call).symm.trans hr⟩

include hrevoke in
/-- A lease that backs a lock and is active does so after a move, unless a call of the lock's own
arrives. -/
theorem Secure.backs_move (h : Secure A t w c) (hm : Move A D t w c w' c')
    (hp : ∀ rec ∈ w'.log, rec.time ≤ w'.now) (hk : w.locks[l]? = some k)
    (hrel : Reliable A w l k) (he : Evolves k k') (hcancel : k.cancelled = false)
    (hb : w.Backs k lease) (ha : w.now < lease.expires) : w'.Backs k' lease ∨
      ∃ call r n p, c = some (.calling l call r n (.outbound p)) ∧ w' = (w.settleCall r p).1 := by
  have hcE : Function.update (fun _ => none) t c t = c := Function.update_self ..
  have hmE : Move A D t w (Function.update (fun _ => none) t c t) w' c' := by rwa [hcE]
  have hnow := hm.now_eq
  rcases hmE.slot h.answerable hrevoke hrel.sole hrel.apart hb.slot hb.holder ha with hs | harr
  · refine .inl (hb.evolves he hs fun rec hrec hg => ?_)
    rcases hmE.grants h.answerable hk hrel.sole hrec hg with hrec' | ⟨call, r, n, hcall, hc⟩
    · exact .inl hrec'
    · -- the grant was on its way back, and the lease is of full length from now on
      obtain ⟨lease', hb', hexp⟩ := h.granted l k call r n hk hrel hcancel hcall (hcE.symm.trans hc)
      obtain rfl := hb.unique hb'
      have := hp rec hrec
      rw [hnow] at this
      exact .inr (Nat.le_trans (Nat.add_le_add_right this _) hexp)
  · rw [hcE] at harr
    exact .inr harr

theorem cancelled_before (he : Evolves k k') (hc : k'.cancelled = false) : k.cancelled = false := by
  cases h : k.cancelled with
  | false => rfl
  | true => exact (he.cancelled h).symm.trans hc

/-- A lock that is in use after a move had an active lease before. -/
theorem Secure.held_before (h : Secure A t w c) (hm : Move A D t w c w' c')
    (hk' : w'.locks[l]? = some k') (hrel : Reliable A w' l k') (hu : k'.InUse) :
    ∃ k lease, w.locks[l]? = some k ∧ Evolves k k' ∧ w.Backs k lease ∧ w.now < lease.expires ∧
      (k.InUse ∨ ∃ r n, c = some (.calling l .acquire r n (.inbound (.ok ())))) := by
  have old : ∀ k, w.locks[l]? = some k → Evolves k k' := fun k hk => by
    obtain ⟨k₁, hk₁, he⟩ := hm.outlives l k hk
    obtain rfl := Option.some.inj (hk₁.symm.trans hk')
    exact he
  rcases hm.uses ⟨k', hk', hu⟩ with ⟨k, hk, hku⟩ | ⟨r, n, hc⟩
  · have he := old k hk
    obtain ⟨lease, hb, ha⟩ := h.held l k hk (hrel.before hm.outlives he) hku
    exact ⟨k, lease, hk, he, hb, ha, .inl hku⟩
  · obtain ⟨k, hk, -⟩ := h.inside hc
    have he := old k hk
    obtain ⟨lease, hb, hexp⟩ := h.granted l k .acquire r n hk (hrel.before hm.outlives he)
      (cancelled_before he hu.2) (by decide) hc
    exact ⟨k, lease, hk, he, hb, lt_add_length hb hexp, .inr ⟨r, n, hc⟩⟩

include hrevoke in
theorem Secure.held_move (h : Secure A t w c) (hm : Move A D t w c w' c')
    (hp : ∀ rec ∈ w'.log, rec.time ≤ w'.now) (hk' : w'.locks[l]? = some k')
    (hrel : Reliable A w' l k') (hu : k'.InUse) :
    ∃ lease, w'.Backs k' lease ∧ w'.now < lease.expires := by
  obtain ⟨k, lease, hk, he, hb, ha, hwas⟩ := h.held_before hm hk' hrel hu
  have hnow := hm.now_eq
  rcases h.backs_move hrevoke hm hp hk (hrel.before hm.outlives he) he
    (cancelled_before he hu.2) hb ha with hb' | ⟨call, r, n, p, hc, rfl⟩
  · exact ⟨lease, hb', by rwa [hnow]⟩
  · -- a call of the lock's own arrives, and since the lock is in use it is a renewal
    obtain ⟨k₁, hk₁, hst, rfl⟩ := h.inside hc
    obtain rfl := Option.some.inj (hk₁.symm.trans hk)
    obtain rfl := h.direct l call _ n p hc
    obtain rfl : k' = k₁ := by
      rw [locks_settleCall] at hk'
      exact Option.some.inj (hk'.symm.trans hk)
    obtain rfl : call = .renew := by
      rw [hu.1] at hst
      cases call with
      | renew => rfl
      | acquire | release => cases hst
    rcases backs_renewed h.past hb with ⟨hb', -⟩ | hb'
    · exact ⟨lease, hb', ha⟩
    · exact ⟨_, hb', lt_add_length hb' (Nat.le_refl _)⟩

include hrevoke in
theorem Secure.granted_move (h : Secure A t w c) (hm : Move A D t w c w' c')
    (hp : ∀ rec ∈ w'.log, rec.time ≤ w'.now) {call : LeaseCall} {r : Request} {n : Nat}
    (hk' : w'.locks[l]? = some k') (hrel : Reliable A w' l k') (hcancel : k'.cancelled = false)
    (hcall : call ≠ .release) (hc' : c' = some (.calling l call r n (.inbound (.ok ())))) :
    ∃ lease, w'.Backs k' lease ∧ w'.now + lease.length ≤ lease.expires := by
  have hnow := hm.now_eq
  rcases hm.inbound hc' with hc | ⟨p, hc, rfl, ha⟩
  · -- the answer has been on its way back before
    rw [hc'] at hc
    obtain ⟨k, hk, -⟩ := h.inside hc
    obtain ⟨k₁, hk₁, he⟩ := hm.outlives l k hk
    obtain rfl := Option.some.inj (hk₁.symm.trans hk')
    have hrel' := hrel.before hm.outlives he
    have hcancel' := cancelled_before he hcancel
    obtain ⟨lease, hb, hexp⟩ := h.granted l k call r n hk hrel' hcancel' hcall hc
    rcases h.backs_move hrevoke hm hp hk hrel' he hcancel' hb (lt_add_length hb hexp) with
      hb' | ⟨call', r', n', p, hout, -⟩
    · exact ⟨lease, hb', by rwa [hnow]⟩
    · cases hc.symm.trans hout
  · -- the call has just arrived, and the store has granted it
    obtain ⟨k, hk, hst, rfl⟩ := h.inside hc
    obtain rfl := h.direct l call _ n p hc
    obtain rfl : k' = k := by
      rw [locks_settleCall] at hk'
      exact Option.some.inj (hk'.symm.trans hk)
    have ha : (w.serve (k'.request call)).2 = .ok () := ha.symm
    cases call with
    | acquire =>
      exact ⟨_, backs_of_slot (w := (w.serve (k'.request .acquire)).1) hp
        (Store.slot?_serve_acquire ha), Nat.le_refl _⟩
    | renew =>
      obtain ⟨lease, hb, -⟩ := h.held l k' hk (hrel.before hm.outlives (.refl k')) ⟨hst, hcancel⟩
      rcases backs_renewed h.past hb with ⟨-, he⟩ | hb'
      · cases ha.symm.trans he
      · exact ⟨_, hb', Nat.le_refl _⟩
    | release => exact absurd rfl hcall

include hplan hrevoke in
/-- Every move keeps the leases of the locks in use. -/
theorem Secure.move (h : Secure A t w c) (hm : Move A D t w c w' c') : Secure A t w' c' := by
  have hstep : w.ledger.Step t (Function.update (fun _ => none) t c t) w'.ledger c' := by
    rw [Function.update_self]
    exact hm.ledger
  have hp : ∀ rec ∈ w'.log, rec.time ≤ w'.now := hm.ledger.past h.past
  refine ⟨?_, hm.plans_nil hplan h.plans, fun l call r n p hc' => ?_, hp,
    fun l k' hk' hrel hu => h.held_move hrevoke hm hp hk' hrel hu,
    fun l k' call r n hk' hrel hcancel hcall hc' =>
      h.granted_move hrevoke hm hp hk' hrel hcancel hcall hc'⟩
  · have hA := h.answerable.step hstep
    rwa [Function.update_idem] at hA
  · rcases hm.outbound h.plans hc' with hc | hp
    · exact h.direct l call r n p (hc.trans hc')
    · exact hp

include hplan hrevoke in
theorem Secure.moves (h : Secure A t w c) (hm : Moves A D t (w, c) (w', c')) :
    Secure A t w' c' := by
  suffices hy : ∀ y, Moves A D t (w, c) y → Secure A t y.1 y.2 from hy _ hm
  intro y hy
  induction hy with
  | refl => exact h
  | tail _ hm ih => exact ih.move hplan hrevoke hm

end Turn

/-! ### Runs -/

/-- What holds between two turns: nobody is in the middle of a visit or a call, and every lock in
use has a lease that covers its grants. -/
structure Sound (A : Step → Prop) (w : World) : Prop where
  prompt : w.Prompt
  idle : w.engagements = fun _ => none
  past : ∀ rec ∈ w.log, rec.time ≤ w.now
  backed : ∀ (l : LockId) (k : Lock), w.locks[l]? = some k → Reliable A w l k → k.InUse →
    ∃ lease, w.Backs k lease

/-- The lease of a lock in use is active: its renewal loop has kept up with the time. -/
theorem Sound.active (h : Sound A w) (hr : Reachable A w) (hk : w.locks[l]? = some k)
    (hrel : Reliable A w l k) (hu : k.InUse) :
    ∃ lease, w.Backs k lease ∧ w.now < lease.expires := by
  obtain ⟨lease, hb⟩ := h.backed l k hk hrel hu
  refine ⟨lease, hb, ?_⟩
  rcases lease_age hr hk hrel.renewed hu with ⟨rec, hm, hg, hy⟩ | ⟨t, hf, -⟩
  · have hc := hb.covers rec hm hg
    rw [hb.length] at hc
    exact Nat.lt_of_lt_of_le hy hc
  · -- nobody is at a critical section between two turns
    obtain ⟨k', hk', hq⟩ := first_iff.1 hf
    rw [h.prompt.2 k' (List.mem_of_getElem? hk')] at hq
    cases hq

theorem Sound.secure (h : Sound A w) (hr : Reachable A w) (t : TaskId) :
    Secure A t (w.atTurn t) none where
  answerable := by
    have hA := answerable_reachable hr
    rw [h.idle, ← Function.update_eq_self t (fun _ => none)] at hA
    exact hA
  plans := h.prompt.1
  direct l call r n p hc := by cases hc
  past := h.past
  held l k hk hrel hu := by
    have hrel' : Reliable A w l k := hrel.before (outlives_of_locks rfl) (.refl k)
    obtain ⟨lease, hb, ha⟩ := h.active hr hk hrel' hu
    exact ⟨lease, hb.unmoved (unmoved_atTurn w t), ha⟩
  granted l k call r n _ _ _ _ hc := by cases hc

/-- At the end of a turn nobody is engaged, and the leases back their locks. -/
theorem Secure.sound (h : Secure A t w none) (hp : w.Prompt) (hu : w.Unmoved w')
    (he : w'.engagements = fun _ => none) : Sound A w' where
  prompt := hp.congr hu.plans (queues_of_locks hu.locks)
  idle := he
  past := by
    rw [hu.log, now, hu.clock]
    exact h.past
  backed l k hk hrel hiu := by
    rw [hu.locks] at hk
    obtain ⟨lease, hb, -⟩ := h.held l k hk
      (hrel.before (outlives_of_locks hu.locks) (.refl k)) hiu
    exact ⟨lease, hb.unmoved hu⟩

theorem Sound.unmoved (h : Sound A w) (hu : w.Unmoved w') (he : w'.engagements = w.engagements) :
    Sound A w' where
  prompt := h.prompt.congr hu.plans (queues_of_locks hu.locks)
  idle := he.trans h.idle
  past := by
    rw [hu.log, now, hu.clock]
    exact h.past
  backed l k hk hrel hiu := by
    rw [hu.locks] at hk
    obtain ⟨lease, hb⟩ := h.backed l k hk
      (hrel.before (outlives_of_locks hu.locks) (.refl k)) hiu
    exact ⟨lease, hb.unmoved hu⟩

/-- Time passes. -/
theorem Sound.later (h : Sound A w) (hl : w.Later w') : Sound A w' := by
  have hn : ∀ rec ∈ w.log, rec.time ≤ Span.ofMillis w'.clock := fun rec hm =>
    Nat.le_trans (h.past rec hm) (Nat.mul_le_mul_right _ hl.le)
  have hs : Sound A { w with clock := w'.clock } :=
    ⟨h.prompt, h.idle, hn, fun l k hk hrel hiu => by
      obtain ⟨lease, hb⟩ := h.backed l k hk
        (hrel.before (outlives_of_locks (w := w) rfl) (.refl k)) hiu
      exact ⟨lease, hb.slot, hb.holder, hb.length, hb.covers⟩⟩
  exact hs.unmoved hl.quiet.unmoved hl.engagements

theorem sound_start (A : Step → Prop) : Sound A start where
  prompt := ⟨rfl, fun k hk => by cases hk⟩
  idle := rfl
  past rec hm := by cases hm
  backed l k hk := by cases hk

section Run

variable (hplan : ∀ op p n, ¬ A (.plan op p n)) (hrevoke : ∀ o, ¬ A (.revoke o))
include hplan hrevoke

theorem Sound.turn (h : Sound A w) (hr : Reachable A w) {a a' : Activity} (hT : Turn A t w w' a a')
    (hq : (w'.setActivity t a').Quiet w'') : Sound A w'' := by
  have ha : a.engagement = none := by
    have := congrFun h.idle t
    rw [engagements_eq, hT.before] at this
    exact this
  have hp : (w.atTurn t).Prompt := h.prompt
  obtain ⟨ha', hp'⟩ := hT.stretch.prompt hplan ha hp
  have hm := hT.stretch.moves
  rw [ha, ha'] at hm
  refine ((h.secure hr t).moves hplan hrevoke hm).sound hp' ?_ ?_
  · exact ⟨hq.clock, hq.store, hq.plans, hq.log, hq.locks⟩
  · rw [hT.engagements hq, ha', h.idle]
    exact Function.update_eq_self t _

theorem Sound.poll (h : Sound A w) (hr : Reachable A w) (t : TaskId) : Sound A (w.poll t) := by
  cases poll_cases (Reachable.tame hr) t with
  | absent _ he => rw [he]; exact h
  | ended a _ _ he =>
    rw [he]
    exact h.unmoved ⟨rfl, rfl, rfl, rfl, rfl⟩ rfl
  | turn w' a a' hT hq => exact h.turn hplan hrevoke hr hT hq

/-- Between two turns of any run, every lock in use has a lease that covers its grants. -/
theorem sound_reachable (h : Reachable A w) : Sound A w := by
  induction h with
  | refl => exact sound_start A
  | @tail w w' hr hn ih =>
    cases hn with
    | spawn s hs =>
      exact ih.unmoved ⟨rfl, rfl, rfl, rfl, rfl⟩ (frame_spawn (A := A) hs).engagements
    | poll t => exact ih.poll hplan hrevoke hr t
    | draw ds => exact ih.unmoved ⟨rfl, rfl, rfl, rfl, rfl⟩ rfl
    | advance _ _ => exact ih.later (later_advance w)

/-- When calls are answered at once and nobody revokes leases, a lock with a renewal loop whose id
nobody else uses is the holder of its object as long as it is in use, and no other lock of the same
name is in use then. -/
theorem mutual_exclusion (h : Reachable A w) (hk : w.locks[l]? = some k)
    (hrel : Reliable A w l k) (hu : k.InUse) :
    w.store.holder w.now k.name.backing = some k.id ∧
    ∀ l' k', w.locks[l']? = some k' → Reliable A w l' k' → k'.InUse → k'.name = k.name →
      l' = l := by
  have hs := sound_reachable hplan hrevoke h
  have holds : ∀ {l : LockId} {k : Lock}, w.locks[l]? = some k → Reliable A w l k → k.InUse →
      w.store.holder w.now k.name.backing = some k.id := fun hk hrel hu => by
    obtain ⟨lease, hb, ha⟩ := hs.active h hk hrel hu
    rw [Store.holder_eq hb.slot ha, hb.holder]
  refine ⟨holds hk hrel hu, fun l' k' hk' hrel' hu' hname => ?_⟩
  have hh := holds hk' hrel' hu'
  rw [hname, holds hk hrel hu] at hh
  exact hrel.sole l' k' hk' (Option.some.inj hh).symm

end Run

/-! ### Two locks of one name -/

/-- Locks with pairwise different ids. -/
theorem sole_of_nodup (h : (w.locks.map (·.id)).Nodup) (hk : w.locks[l]? = some k) :
    w.Sole l k := by
  intro l' k' hk' hid
  have hl : (w.locks.map (·.id))[l']? = (w.locks.map (·.id))[l]? := by
    rw [List.getElem?_map, List.getElem?_map, hk, hk', Option.map_some, Option.map_some, hid]
  have hlt : l' < (w.locks.map (·.id)).length := by
    rw [List.length_map]
    exact (List.getElem?_eq_some_iff.1 hk').1
  exact (List.getElem?_inj hlt h).1 hl

/-- The scripts that build every lock with a renewal loop, delay no call and revoke no lease, and
speak from outside for one other instance only. -/
def Contending : Step → Prop
  | .create _ _ _ behaviors _ _ => .renewal ∈ behaviors
  | .plan .. | .revoke _ => False
  | .foreign r => r.holder? = some ⟨"x"⟩
  | _ => True

/-- Of two locks of one name the first has been in use for almost two terms; the other one and a
stranger have applied for the lease in vain. -/
def contended : World :=
  turn^[19] (ofScript [.create "a" "alpha" (.ofMillis 15500) [.renewal] "p" ⟨"i"⟩,
    .create "b" "alpha" (.ofSeconds 20) [.renewal] "p" ⟨"j"⟩, .lock "a", .acquireOnce "b",
    .foreign (.acquire ⟨sharedContainer, "azlk-alpha"⟩ ⟨"x"⟩ 15), .sleep (.ofSeconds 29)])

theorem reachable_contended : Reachable Contending contended :=
  reachable_ofScript (by simp [Step.Within, Step.AllWithin, Contending, Request.holder?]) 19

/-- The lock in use holds its object. -/
theorem mutual_exclusion_contended : contended.clock = 29000 ∧
    contended.stages = [.acquired, .idle] ∧
    ∃ k, contended.locks[0]? = some k ∧ k.InUse ∧
      contended.store.holder contended.now k.name.backing = some k.id := by
  obtain ⟨k, hk, hu⟩ := exists_inUse (w := contended) (by decide +kernel)
  have hid : (contended.locks[0]?.map (·.id)) = some ⟨"i"⟩ := by decide +kernel
  rw [hk] at hid
  have hrel : Reliable Contending contended 0 k := by
    refine ⟨sole_of_nodup (by decide +kernel) hk, fun r hr he => ?_, fun _ _ _ _ _ h => h⟩
    rw [show k.id = ⟨"i"⟩ from Option.some.inj hid, hr] at he
    exact absurd he (by decide)
  exact ⟨by decide +kernel, by decide +kernel, k, hk, hu,
    (mutual_exclusion (fun _ _ _ h => h) (fun _ h => h) reachable_contended hk hrel hu).1⟩

end Leasehold.World
