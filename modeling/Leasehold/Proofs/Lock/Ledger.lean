import Leasehold.Proofs.Lease.Slots
import Leasehold.Proofs.World.Reachable

/-!
# The ledger of lease calls

What the life of a lock depends on is little: who is at which critical section, the stages, and the
log of calls.  A `Ledger` is just that, and every move of a run is one of the few steps of
`Ledger.Step`.

* `Move.ledger`: the move of a run as a step of its ledger.
* `Ledger.Attended`: the queues of the critical sections are the tasks that have come to them.
* `Ledger.Answerable`: every call on its way is the last one of the task that waits for it.
* `attended_reachable`, `answerable_reachable`: both hold in every reachable world.
-/

namespace Leasehold

/-- What the life of a lock depends on. -/
structure Core where
  name : LockName
  term : Term
  id : LeaseId
  stage : Stage
  queue : List TaskId

/-- What the life of a lock depends on. -/
def Lock.core (k : Lock) : Core := ⟨k.name, k.term, k.id, k.stage, k.queue⟩

namespace Core

/-- The request of a lease call. -/
def request (k : Core) : LeaseCall → Request
  | .acquire => .acquire k.name.backing k.id k.term.wholeSeconds
  | .renew => .renew k.name.backing k.id
  | .release => .release k.name.backing k.id

/-- The same lock in another stage. -/
def staged (s : Stage) (k : Core) : Core := { k with stage := s }

/-- A task comes to the critical section. -/
def push (t : TaskId) (k : Core) : Core := { k with queue := k.queue ++ [t] }

/-- A task leaves the critical section. -/
def drop (t : TaskId) (k : Core) : Core := { k with queue := k.queue.erase t }

/-- A lease call is answered. -/
def settled (call : LeaseCall) (a : Answer) (k : Core) : Core :=
  match call, a with
  | .acquire, .ok _ => k.staged .acquired
  | _, _ => k

/-- The answer to a lease call is received, and the task leaves the critical section. -/
def received (t : TaskId) (call : LeaseCall) (a : Answer) (k : Core) : Core :=
  (k.settled call a).drop t

@[simp] theorem queue_settled (call : LeaseCall) (a : Answer) (k : Core) :
    (k.settled call a).queue = k.queue := by
  cases call <;> cases a <;> rfl

@[simp] theorem queue_received (t : TaskId) (call : LeaseCall) (a : Answer) (k : Core) :
    (k.received t call a).queue = k.queue.erase t := by
  show (k.settled call a).queue.erase t = _
  rw [queue_settled]

@[simp] theorem holder?_request (k : Core) (call : LeaseCall) :
    (k.request call).holder? = some k.id := by
  cases call <;> rfl

/-- The three lease calls differ. -/
theorem request_injective (k : Core) : Function.Injective k.request := by
  intro call call' h
  cases call <;> cases call' <;> first | rfl | cases h

end Core

theorem Lock.request_core (k : Lock) (call : LeaseCall) : k.core.request call = k.request call := by
  cases call <;> rfl

theorem Lock.holder?_request (k : Lock) (call : LeaseCall) :
    (k.request call).holder? = some k.id := by
  rw [← k.request_core, Core.holder?_request]
  rfl

/-- The locks as far as their lives depend on it, and the log of calls. -/
structure Ledger where
  now : Span
  cores : List Core
  log : List CallRecord

/-- The ledger of a world. -/
def World.ledger (w : World) : Ledger := ⟨w.now, w.locks.map Lock.core, w.log⟩

/-- The request of the call that is on its way. -/
def Engagement.request? : Engagement → Option Request
  | queued .. => none
  | calling _ _ r _ _ | provisioning r _ _ => some r

namespace Ledger

/-- Changes one lock. -/
def set (g : Ledger) (l : LockId) (f : Core → Core) : Ledger :=
  { g with cores := g.cores.modify l f }

theorem set_set (g : Ledger) (l : LockId) (f f' : Core → Core) :
    (g.set l f).set l f' = g.set l fun k => f' (f k) := by
  simp only [set, List.modify_modify_eq]
  rfl

/-- Writes a request into the log. -/
def record (g : Ledger) (r : Request) : Ledger := { g with log := g.log ++ [⟨g.now, r, none⟩] }

/-- Writes the answer of a call into its record. -/
def answered (g : Ledger) (n : Nat) (a : Answer) : Ledger :=
  { g with log := g.log.modify n fun rec => { rec with answer := some a } }

/-- One step of task `t`. -/
inductive Step (t : TaskId) (g : Ledger) : Option Engagement → Ledger → Option Engagement → Prop
  | stay (c) : Step t g c g c
  /-- A new lock. -/
  | found (k : Core) : k.stage = .idle → k.queue = [] →
      Step t g none { g with cores := g.cores ++ [k] } none
  | enqueue (l errand k) : g.cores[l]? = some k →
      Step t g none (g.set l (.push t)) (some (.queued l errand))
  | leave (l) (e : Engagement) : e.lock? = some l → Step t g (some e) (g.set l (.drop t)) none
  | send (l k errand call co) : g.cores[l]? = some k → k.queue.head? = some t →
      k.stage = LeaseCall.allowed call →
      Step t g (some (.queued l errand))
        ((g.set l (.staged call.during)).record (k.request call))
        (some (.calling l call (k.request call) g.log.length co))
  | arrive (l call r n co co') :
      Step t g (some (.calling l call r n co)) g (some (.calling l call r n co'))
  | receive (l call r n a co) :
      Step t g (some (.calling l call r n co))
        ((g.answered n a).set l (.received t call a)) none
  | ask (r co) : r.holder? = none →
      Step t g none (g.record r) (some (.provisioning r g.log.length co))
  | provision (r n co co') :
      Step t g (some (.provisioning r n co)) g (some (.provisioning r n co'))
  | told (r n a co) : Step t g (some (.provisioning r n co)) (g.answered n a) none
  | forget (r n co) : Step t g (some (.provisioning r n co)) g none

end Ledger

namespace World

variable {A : Step → Prop} {D : Deed → Prop} {t : TaskId} {w w' : World}
  {c c' : Option Engagement} {l : LockId}

theorem ledger_congr (hc : w'.clock = w.clock) (hl : w'.locks = w.locks) (hg : w'.log = w.log) :
    w'.ledger = w.ledger := by
  rw [ledger, ledger, now, now, hc, hl, hg]

theorem Quiet.ledger (h : w.Quiet w') : w'.ledger = w.ledger := ledger_congr h.clock h.locks h.log

theorem ledger_updateLock {f : Lock → Lock} {g : Core → Core}
    (hf : ∀ k, (f k).core = g k.core) : (w.updateLock l f).ledger = w.ledger.set l g := by
  have h : (w.locks.modify l f).map Lock.core = (w.locks.map Lock.core).modify l g :=
    map_modify_of Lock.core f g hf _ _
  rw [ledger, Ledger.set, ledger, ← h]
  rfl

theorem ledger_updateLock_of_core {f : Lock → Lock} (hf : ∀ k, (f k).core = k.core) :
    (w.updateLock l f).ledger = w.ledger := by
  rw [ledger_updateLock (g := id) hf, Ledger.set, List.modify_id]

theorem ledger_leave (t : TaskId) : (w.leave t l).ledger = w.ledger.set l (.drop t) := by
  rw [(quiet_leave w t l).ledger]
  exact ledger_updateLock fun _ => rfl

theorem ledger_cancelScope : (w.cancelScope l).ledger = w.ledger := by
  rw [(quiet_cancelScope w l).ledger]
  exact ledger_updateLock_of_core fun _ => rfl

theorem ledger_setStage (s : Stage) : (w.setStage l s).ledger = w.ledger.set l (.staged s) :=
  ledger_updateLock fun _ => rfl

theorem ledger_sent (r : Request) : (w.sent r).ledger = w.ledger.record r := by
  rw [ledger, locks_sent, log_sent, now, clock_sent]
  rfl

theorem ledger_settleCall (r : Request) (p : Plan) : (w.settleCall r p).1.ledger = w.ledger := by
  unfold settleCall
  split <;> rfl

theorem ledger_received (call : LeaseCall) (a : Answer) :
    ((w.concluded l call a).leave t l).ledger = w.ledger.set l (.received t call a) := by
  rw [ledger_leave]
  cases call with
  | acquire =>
    cases a with
    | ok u =>
      show (w.setStage l .acquired).ledger.set l (.drop t) = _
      rw [ledger_setStage, Ledger.set_set]
      rfl
    | error e => rfl
  | renew => rfl
  | release =>
    show (w.cancelScope l).ledger.set l (.drop t) = _
    rw [ledger_cancelScope]
    rfl

theorem core?_ledger {k : Lock} (hk : w.locks[l]? = some k) :
    w.ledger.cores[l]? = some k.core := by
  show (w.locks.map Lock.core)[l]? = _
  rw [List.getElem?_map, hk]
  rfl

theorem exists_lock_of_core {kc : Core} (h : w.ledger.cores[l]? = some kc) :
    ∃ k, w.locks[l]? = some k ∧ k.core = kc :=
  Option.map_eq_some_iff.1 ((List.getElem?_map ..).symm.trans h)

/-- Every move of a run is a step of its ledger. -/
theorem Move.ledger (h : Move A D t w c w' c') : w.ledger.Step t c w'.ledger c' := by
  cases h with
  | quiet h => rw [h.ledger]; exact .stay c
  | own l f g => rw [ledger_updateLock_of_core (by intro k; rfl)]; exact .stay c
  | cancel l => rw [ledger_cancelScope]; exact .stay c
  | lose l reason _ _ _ =>
    rw [(quiet_raiseLoss w l reason).ledger, ledger_updateLock_of_core (by intro k; rfl)]
    exact .stay c
  | parent | foreign | revoke | inject | plan | spawn => exact .stay c
  | build cr _ =>
    have hf := founding_built w cr
    obtain ⟨s, ws, hl⟩ := hf.locks
    have hg : (w.built cr).ledger =
        { w.ledger with cores := w.ledger.cores ++ [(w.newLock cr).core] } := by
      rw [ledger, hl, hf.log, now, hf.clock, List.map_append]
      rfl
    rw [hg]
    exact .found _ rfl rfl
  | enqueue l errand hl =>
    rw [ledger_updateLock (g := Core.push t) (by intro k; rfl)]
    exact .enqueue l errand _ (core?_ledger (List.getElem?_eq_getElem hl))
  | leave l e he _ => rw [ledger_leave]; exact .leave l e he
  | abandon l e he _ => rw [ledger_leave]; exact .leave l e he
  | send l k errand call hk hq _ hs _ =>
    rw [ledger_sent, ledger_setStage, ← k.request_core]
    exact .send l k.core errand call _ (core?_ledger hk) hq hs
  | arrive l call r n p => rw [ledger_settleCall]; exact .arrive l call r n _ _
  | receive l call r n a =>
    rw [ledger_received]
    exact .receive l call r n a _
  | ask r hr =>
    rw [ledger_sent]
    refine .ask r _ ?_
    rcases hr with rfl | ⟨o, rfl⟩ <;> rfl
  | provision r n p => rw [ledger_settleCall]; exact .provision r n _ _
  | told r n a => exact .told r n a _
  | forget r n co => exact .forget r n co

end World

/-! ### Who is at the critical sections -/

namespace Ledger

variable {t : TaskId} {g g' : Ledger} {c c' : Option Engagement} {l : LockId}
  {E : TaskId → Option Engagement}

/-- The tasks at a critical section. -/
def queue (g : Ledger) (l : LockId) : List TaskId := (g.cores[l]?.map Core.queue).getD []

theorem queue_eq {k : Core} (hk : g.cores[l]? = some k) : g.queue l = k.queue := by
  rw [queue, hk]
  rfl

theorem getElem?_set (l' : LockId) (f : Core → Core) :
    (g.set l f).cores[l']? = if l = l' then g.cores[l']?.map f else g.cores[l']? := by
  show (g.cores.modify l f)[l']? = _
  rw [List.getElem?_modify]
  split <;> simp

theorem queue_set {f : Core → Core} {q : List TaskId → List TaskId}
    (hf : ∀ k, (f k).queue = q k.queue) (hq : l < g.cores.length ∨ q [] = []) (l' : LockId) :
    (g.set l f).queue l' = if l = l' then q (g.queue l') else g.queue l' := by
  unfold queue
  rw [getElem?_set]
  by_cases hl : l = l'
  · subst hl
    rw [if_pos rfl, if_pos rfl]
    cases hk : g.cores[l]? with
    | none =>
      rcases hq with hq | hq
      · rw [List.getElem?_eq_getElem hq] at hk; cases hk
      · exact hq.symm
    | some k => exact hf k
  · rw [if_neg hl, if_neg hl]

theorem queue_found {k : Core} (hk : k.queue = []) (l' : LockId) :
    ({ g with cores := g.cores ++ [k] } : Ledger).queue l' = g.queue l' := by
  unfold queue
  rcases Nat.lt_or_ge l' g.cores.length with hlt | hge
  · rw [List.getElem?_append_left hlt]
  · rw [List.getElem?_append_right hge, List.getElem?_eq_none hge, List.getElem?_singleton]
    split
    · exact hk
    · rfl

theorem queue_staged (s : Stage) (l' : LockId) : (g.set l (.staged s)).queue l' = g.queue l' := by
  rw [queue_set (f := .staged s) (q := id) (fun _ => rfl) (.inr rfl)]
  split <;> rfl

theorem queue_drop (l' : LockId) :
    (g.set l (.drop t)).queue l' = if l = l' then (g.queue l').erase t else g.queue l' :=
  queue_set (f := .drop t) (q := (·.erase t)) (fun _ => rfl) (.inr rfl) l'

theorem queue_receive (n : Nat) (call : LeaseCall) (a : Answer) (l' : LockId) :
    ((g.answered n a).set l (.received t call a)).queue l' =
      if l = l' then (g.queue l').erase t else g.queue l' :=
  queue_set (g := g.answered n a) (f := .received t call a) (q := (·.erase t))
    (Core.queue_received t call a) (.inr rfl) l'

/-- The queue of each critical section are the tasks that have come to it, each of them once. -/
structure Attended (g : Ledger) (E : TaskId → Option Engagement) : Prop where
  nodup : ∀ l, (g.queue l).Nodup
  mem_iff : ∀ t l, t ∈ g.queue l ↔ (E t).bind Engagement.lock? = some l

/-- The task neither comes nor goes. -/
theorem Attended.stay (h : g.Attended E) (hq : ∀ l, g'.queue l = g.queue l)
    (hc : c'.bind Engagement.lock? = (E t).bind Engagement.lock?) :
    g'.Attended (Function.update E t c') where
  nodup l := by rw [hq]; exact h.nodup l
  mem_iff t' l := by
    rw [hq, h.mem_iff]
    by_cases ht : t' = t
    · subst ht
      rw [Function.update_self, hc]
    · rw [Function.update_of_ne ht]

/-- The task comes. -/
theorem Attended.push (h : g.Attended E)
    (hq : ∀ l', g'.queue l' = if l = l' then g.queue l' ++ [t] else g.queue l')
    (hc : (E t).bind Engagement.lock? = none) (hc' : c'.bind Engagement.lock? = some l) :
    g'.Attended (Function.update E t c') := by
  have hn : ∀ l', t ∉ g.queue l' := fun l' hm => by
    rw [h.mem_iff, hc] at hm
    cases hm
  refine ⟨fun l' => ?_, fun t' l' => ?_⟩
  · rw [hq]
    split
    · exact List.nodup_append.2 ⟨h.nodup l', by simp, fun a ha b hb hab => by
        rw [List.mem_singleton.1 hb] at hab
        exact hn l' (hab ▸ ha)⟩
    · exact h.nodup l'
  · by_cases ht : t' = t
    · subst ht
      rw [Function.update_self, hc', hq]
      split
      · next hl => simp [hl]
      · next hl => simpa [hl] using hn l'
    · rw [Function.update_of_ne ht, ← h.mem_iff, hq]
      split <;> simp [ht]

/-- The task goes. -/
theorem Attended.drop (h : g.Attended E)
    (hq : ∀ l', g'.queue l' = if l = l' then (g.queue l').erase t else g.queue l')
    (hc : (E t).bind Engagement.lock? = some l) (hc' : c'.bind Engagement.lock? = none) :
    g'.Attended (Function.update E t c') := by
  refine ⟨fun l' => ?_, fun t' l' => ?_⟩
  · rw [hq]
    split
    · exact (h.nodup l').erase t
    · exact h.nodup l'
  · by_cases ht : t' = t
    · subst ht
      rw [Function.update_self, hc', hq]
      have hn : ¬ (t' ∈ if l = l' then (g.queue l').erase t' else g.queue l') := by
        split
        · exact List.Nodup.not_mem_erase (h.nodup l')
        · next hl =>
          rw [h.mem_iff, hc]
          exact fun he => hl (Option.some.inj he)
      simpa using hn
    · rw [Function.update_of_ne ht, ← h.mem_iff, hq]
      split
      · exact List.mem_erase_of_ne ht
      · exact Iff.rfl

/-- Every step keeps the queues in order. -/
theorem Attended.step (h : g.Attended E) (hs : g.Step t (E t) g' c') :
    g'.Attended (Function.update E t c') := by
  generalize hc : E t = c at hs
  cases hs with
  | stay => exact h.stay (fun _ => rfl) (by rw [hc])
  | found k _ hk => exact h.stay (queue_found hk) (by rw [hc])
  | enqueue l errand k hk =>
    refine h.push (fun l' => ?_) (by rw [hc]; rfl) rfl
    exact queue_set (f := .push t) (q := (· ++ [t])) (fun _ => rfl)
      (.inl (List.getElem?_eq_some_iff.1 hk).1) l'
  | leave l e he => exact h.drop queue_drop (by rw [hc]; exact he) rfl
  | send l k errand call co _ _ _ => exact h.stay (queue_staged _) (by rw [hc]; rfl)
  | receive l call r n a co =>
    exact h.drop (queue_receive n call a) (by rw [hc]; rfl) rfl
  | arrive | ask | provision | told | forget =>
    exact h.stay (fun _ => rfl) (by rw [hc]; rfl)

/-! ### Calls on their way -/

/-- Every call on its way is recorded and unanswered, its task is alone with the record, and if it
is a lease call the task is inside the critical section of the lock that the call speaks for. -/
structure Answerable (g : Ledger) (E : TaskId → Option Engagement) : Prop where
  inside : ∀ t l call r n co, E t = some (.calling l call r n co) → ∃ k, g.cores[l]? = some k ∧
    k.queue.head? = some t ∧ k.stage = call.during ∧ k.request call = r
  pending : ∀ t e n, E t = some e → e.record? = some n → ∃ rec, g.log[n]? = some rec ∧
    rec.answer = none ∧ e.request? = some rec.request
  apart : ∀ t t' e e' n, E t = some e → E t' = some e' → e.record? = some n →
    e'.record? = some n → t = t'
  outside : ∀ t r n co, E t = some (.provisioning r n co) → r.holder? = none

theorem head?_erase {t' : TaskId} {q : List TaskId} (hq : q.head? = some t') (ht : t' ≠ t) :
    (q.erase t).head? = some t' := by
  cases q with
  | nil => cases hq
  | cons a q =>
    cases hq
    rw [List.erase_cons_tail (by simpa using ht)]
    rfl

/-- What a step of task `t` leaves of a lock that another task is inside of. -/
theorem Step.inside_kept {t' : TaskId} {k : Core} (hs : g.Step t c g' c') (ht : t' ≠ t)
    (hc : ∀ l call r n co, c = some (.calling l call r n co) → ∃ k, g.cores[l]? = some k ∧
      k.queue.head? = some t)
    (hk : g.cores[l]? = some k) (hq : k.queue.head? = some t') :
    ∃ k', g'.cores[l]? = some k' ∧ k'.queue.head? = some t' ∧ k'.stage = k.stage ∧
      k'.request = k.request := by
  have same : ∃ k', g.cores[l]? = some k' ∧ k'.queue.head? = some t' ∧ k'.stage = k.stage ∧
      k'.request = k.request := ⟨k, hk, hq, rfl, rfl⟩
  -- a task that is inside keeps all others from changing the stage
  have apart : ∀ {k'}, g.cores[l]? = some k' → k'.queue.head? ≠ some t := fun hk' hh => by
    rw [hk] at hk'
    cases hk'
    rw [hq] at hh
    exact ht (Option.some.inj hh)
  cases hs with
  | stay | arrive | ask | provision | told | forget => exact same
  | found k' _ _ =>
    exact ⟨k, getElem?_concat_of_some hk, hq, rfl, rfl⟩
  | enqueue l' errand k' _ =>
    rw [getElem?_set, hk]
    split
    · exact ⟨_, rfl, by simp [Core.push, hq], rfl, rfl⟩
    · exact ⟨k, rfl, hq, rfl, rfl⟩
  | leave l' e _ =>
    rw [getElem?_set, hk]
    split
    · exact ⟨_, rfl, head?_erase hq ht, rfl, rfl⟩
    · exact ⟨k, rfl, hq, rfl, rfl⟩
  | send l' k' errand call co hk' hh _ =>
    have hl : l' ≠ l := fun hl => apart (hl ▸ hk') hh
    show ∃ k', (g.set l' (.staged call.during)).cores[l]? = some k' ∧ _
    rw [getElem?_set, if_neg hl]
    exact same
  | receive l' call r n a co =>
    obtain ⟨k', hk', hh⟩ := hc l' call r n co rfl
    have hl : l' ≠ l := fun hl => apart (hl ▸ hk') hh
    rw [getElem?_set, if_neg hl]
    exact same

/-- What a step leaves of a record that is not the one of its own call. -/
theorem Step.log_kept {n : Nat} {rec : CallRecord} (hs : g.Step t c g' c')
    (hn : ∀ e, c = some e → e.record? ≠ some n) (hr : g.log[n]? = some rec) :
    g'.log[n]? = some rec := by
  cases hs with
  | stay | arrive | provision | forget | found | enqueue | leave => exact hr
  | send l k errand call co _ _ _ => exact getElem?_concat_of_some hr
  | ask r co _ => exact getElem?_concat_of_some hr
  | receive l call r n' a co =>
    have hne : n' ≠ n := fun he => hn _ rfl (congrArg some he)
    exact (List.getElem?_modify_ne _ _ hne).trans hr
  | told r n' a co =>
    have hne : n' ≠ n := fun he => hn _ rfl (congrArg some he)
    exact (List.getElem?_modify_ne _ _ hne).trans hr

/-- After a step a task's own record is the one from before or a new one. -/
theorem Step.record_cases {n : Nat} {e : Engagement} (hs : g.Step t c g' c') (he : c' = some e)
    (hn : e.record? = some n) : (∃ e', c = some e' ∧ e'.record? = some n) ∨ n = g.log.length := by
  subst he
  cases hs with
  | stay => exact .inl ⟨e, rfl, hn⟩
  | enqueue => cases hn
  | send | ask => exact .inr (Option.some.inj hn).symm
  | arrive | provision => exact .inl ⟨_, rfl, hn⟩

section Own

variable (h : g.Answerable E) (hs : g.Step t (E t) g' c')
include h hs

/-- After its own step the task is inside the critical section that its call speaks for. -/
theorem Answerable.inside_own {call : LeaseCall} {r : Request} {n : Nat} {co : Course}
    (hc' : c' = some (.calling l call r n co)) : ∃ k, g'.cores[l]? = some k ∧
      k.queue.head? = some t ∧ k.stage = call.during ∧ k.request call = r := by
  generalize hc : E t = c at hs
  cases hs with
  | stay => exact h.inside t l call r n co (hc.trans hc')
  | send l k errand call co hk hq hk' =>
    cases hc'
    refine ⟨k.staged call.during, ?_, hq, rfl, rfl⟩
    show (g.set l _).cores[l]? = _
    rw [getElem?_set, if_pos rfl, hk]
    rfl
  | arrive l call r n co co' =>
    cases hc'
    exact h.inside t l call r n co hc
  | found | enqueue | leave | receive | ask | provision | told | forget => cases hc'

/-- After its own step the record of the task's call is there and unanswered. -/
theorem Answerable.pending_own {e : Engagement} {n : Nat} (hc' : c' = some e)
    (hn : e.record? = some n) : ∃ rec, g'.log[n]? = some rec ∧ rec.answer = none ∧
      e.request? = some rec.request := by
  generalize hc : E t = c at hs
  cases hs with
  | stay => exact h.pending t e n (hc.trans hc') hn
  | send l k errand call co _ _ _ =>
    cases hc'
    cases hn
    exact ⟨_, List.getElem?_concat_length, rfl, rfl⟩
  | ask r co _ =>
    cases hc'
    cases hn
    exact ⟨_, List.getElem?_concat_length, rfl, rfl⟩
  | arrive l call r m co co' =>
    cases hc'
    exact h.pending t (.calling l call r m co) n hc hn
  | provision r m co co' =>
    cases hc'
    exact h.pending t (.provisioning r m co) n hc hn
  | enqueue l errand k _ =>
    cases hc'
    cases hn
  | found | leave | receive | told | forget => cases hc'

/-- After its own step no other task waits for the record of the task's call. -/
theorem Answerable.apart_own {e e' : Engagement} {n : Nat} {t' : TaskId} (hc' : c' = some e)
    (hn : e.record? = some n) (he : E t' = some e') (hn' : e'.record? = some n) : t = t' := by
  -- a call that is sent just now has a record that was not there before
  have new : n ≠ g.log.length := fun hl => by
    obtain ⟨rec, hr, -⟩ := h.pending t' e' n he hn'
    have := (List.getElem?_eq_some_iff.1 hr).1
    omega
  generalize hc : E t = c at hs
  cases hs with
  | stay => exact h.apart t t' e e' n (hc.trans hc') he hn hn'
  | send l k errand call co _ _ _ =>
    cases hc'
    exact absurd (Option.some.inj hn).symm new
  | ask r co _ =>
    cases hc'
    exact absurd (Option.some.inj hn).symm new
  | arrive l call r n co co' =>
    cases hc'
    exact h.apart t t' _ e' _ hc he hn hn'
  | provision r n co co' =>
    cases hc'
    exact h.apart t t' _ e' _ hc he hn hn'
  | enqueue l errand k _ =>
    cases hc'
    cases hn
  | found | leave | receive | told | forget => cases hc'

theorem Answerable.outside_own {r : Request} {n : Nat} {co : Course}
    (hc' : c' = some (.provisioning r n co)) : r.holder? = none := by
  generalize hc : E t = c at hs
  cases hs with
  | stay => exact h.outside t r n co (hc.trans hc')
  | ask r co hr =>
    cases hc'
    exact hr
  | provision r n co co' =>
    cases hc'
    exact h.outside t r n co hc
  | found | enqueue | leave | send | arrive | receive | told | forget => cases hc'

/-- Every step keeps all calls answerable. -/
theorem Answerable.step : g'.Answerable (Function.update E t c') where
  inside t' l call r n co he := by
    by_cases ht : t' = t
    · subst ht
      rw [Function.update_self] at he
      exact h.inside_own hs he
    · rw [Function.update_of_ne ht] at he
      obtain ⟨k, hk, hq, hk', hr⟩ := h.inside t' l call r n co he
      obtain ⟨k', hk₁, hq', hs', hr'⟩ := hs.inside_kept ht
        (fun l call r n co hc => by
          obtain ⟨k, hk, hq, -⟩ := h.inside t l call r n co hc
          exact ⟨k, hk, hq⟩) hk hq
      exact ⟨k', hk₁, hq', hs'.trans hk', hr' ▸ hr⟩
  pending t' e n he hn := by
    by_cases ht : t' = t
    · subst ht
      rw [Function.update_self] at he
      exact h.pending_own hs he hn
    · rw [Function.update_of_ne ht] at he
      obtain ⟨rec, hr, ha, hq⟩ := h.pending t' e n he hn
      exact ⟨rec, hs.log_kept (fun e' he' hn' => ht (h.apart t' t e e' n he he' hn hn')) hr, ha, hq⟩
  apart t₁ t₂ e e' n he he' hn hn' := by
    by_cases h₁ : t₁ = t
    · by_cases h₂ : t₂ = t
      · exact h₁.trans h₂.symm
      · rw [h₁, Function.update_self] at he
        rw [Function.update_of_ne h₂] at he'
        exact h₁.trans (h.apart_own hs he hn he' hn')
    · rw [Function.update_of_ne h₁] at he
      by_cases h₂ : t₂ = t
      · rw [h₂, Function.update_self] at he'
        exact (h.apart_own hs he' hn' he hn).symm.trans h₂.symm
      · rw [Function.update_of_ne h₂] at he'
        exact h.apart t₁ t₂ e e' n he he' hn hn'
  outside t' r n co he := by
    by_cases ht : t' = t
    · subst ht
      rw [Function.update_self] at he
      exact h.outside_own hs he
    · rw [Function.update_of_ne ht] at he
      exact h.outside t' r n co he

end Own

end Ledger

/-! ### Runs -/

namespace World

variable {A : Step → Prop} {w w' : World} {I : Ledger → (TaskId → Option Engagement) → Prop}

/-- In the course of moves the records of other tasks stay as they are. -/
theorem Moves.log_kept {D : Deed → Prop} {t : TaskId} {c c' : Option Engagement} {n : Nat}
    {rec : CallRecord} (h : Moves A D t (w, c) (w', c')) (hn : w.log[n]? = some rec)
    (hc : ∀ e, c = some e → e.record? ≠ some n) :
    w'.log[n]? = some rec ∧ ∀ e, c' = some e → e.record? ≠ some n := by
  suffices hy : ∀ y, Moves A D t (w, c) y →
      y.1.log[n]? = some rec ∧ ∀ e, y.2 = some e → e.record? ≠ some n from hy _ h
  intro y hy
  induction hy with
  | refl => exact ⟨hn, hc⟩
  | tail _ hm ih =>
    refine ⟨hm.ledger.log_kept ih.2 ih.1, fun e he hr => ?_⟩
    rcases hm.ledger.record_cases he hr with ⟨e', he', hr'⟩ | hlen
    · exact ih.2 e' he' hr'
    · have hlt := (List.getElem?_eq_some_iff.1 ih.1).1
      rw [hlen] at hlt
      exact Nat.lt_irrefl _ hlt

/-- What the steps of the ledger and the passage of time keep is kept by runs. -/
theorem ledger_run
    (hstep : ∀ t g E g' c', I g E → g.Step t (E t) g' c' → I g' (Function.update E t c'))
    (hlater : ∀ g n E, g.now ≤ n → I g E → I { g with now := n } E) (ht : w.Tame A)
    (hw : I w.ledger w.engagements) (h : Run A w w') : I w'.ledger w'.engagements := by
  refine Kept.run (I := fun w E => I w.ledger E) ⟨?_, ?_, ?_⟩ ht hw h
  · intro w w' E hu hI
    rwa [ledger_congr hu.clock hu.locks hu.log]
  · intro w n E hn hI
    exact hlater w.ledger (.ofMillis n) E (Nat.mul_le_mul_right _ hn) hI
  · exact fun _ w w' E t c' _ hI hm => hstep t _ E _ c' hI hm.ledger

/-- In every reachable world the queues are the tasks that have come to the critical sections. -/
theorem attended_reachable (h : Reachable A w) : w.ledger.Attended w.engagements := by
  refine ledger_run (fun t g E g' c' hI hs => hI.step hs) ?_ (tame_start A) ?_ h
  · exact fun g n E _ hI => ⟨hI.nodup, hI.mem_iff⟩
  · exact ⟨fun l => List.nodup_nil, fun t l => by simp [Ledger.queue, ledger, start, engagements]⟩

/-- In every reachable world all calls on their way are answerable. -/
theorem answerable_reachable (h : Reachable A w) : w.ledger.Answerable w.engagements := by
  refine ledger_run (fun t g E g' c' hI hs => hI.step hs) ?_ (tame_start A) ?_ h
  · exact fun g n E _ hI => ⟨hI.inside, hI.pending, hI.apart, hI.outside⟩
  · constructor <;> (intros; contradiction)

end World

end Leasehold
