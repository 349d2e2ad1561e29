import Leasehold.Proofs.Lock.Instance

/-!
# What is over with the cancellation of a lock

A loss is raised together with a cancellation, and nothing that a lock can still do after its
cancellation gives it a lease.

* `World.lost_reachable`: a lost lock is cancelled, and it was acquired before.
* `World.lossOf_run`: the loss of a cancelled lock never changes.
* `World.count_requests_run`: a cancelled instance neither applies for the lease nor renews it.
* `World.Settled`: a lock that is cancelled and not acquired, and will never be.
-/

namespace Leasehold.World

variable {A : Step → Prop} {D : Deed → Prop} {t : TaskId} {w w' : World}
  {c c' : Option Engagement} {l : LockId} {k : Lock} {E : TaskId → Option Engagement}

/-! ### Losses -/

theorem lossOf_of_locks (h : w'.locks = w.locks) : w'.lossOf l = w.lossOf l := by
  rw [lossOf, lossOf, h]

theorem lossOf_updateLock {l' : LockId} {f : Lock → Lock}
    (hf : ∀ k, (f k).lossCell = k.lossCell) : (w.updateLock l' f).lossOf l = w.lossOf l := by
  rw [lossOf, lossOf, getElem?_updateLock]
  by_cases hl : l' = l
  · rw [if_pos hl]
    cases w.locks[l]? with
    | none => rfl
    | some k => exact congrArg LossCell.loss (hf k)
  · rw [if_neg hl]

theorem lossOf_leave (t : TaskId) (l' : LockId) : (w.leave t l').lossOf l = w.lossOf l :=
  (lossOf_of_locks (quiet_leave w t l').locks).trans (lossOf_updateLock fun _ => rfl)

theorem lossOf_cancelScope (l' : LockId) : (w.cancelScope l').lossOf l = w.lossOf l :=
  (lossOf_of_locks (quiet_cancelScope w l').locks).trans (lossOf_updateLock fun _ => rfl)

theorem lossOf_concluded (l' : LockId) (call : LeaseCall) (a : Answer) :
    (w.concluded l' call a).lossOf l = w.lossOf l := by
  cases call with
  | acquire =>
    cases a with
    | ok u => exact lossOf_updateLock fun _ => rfl
    | error e => rfl
  | renew => rfl
  | release => exact lossOf_cancelScope l'

/-- The loss of another lock leaves this one as it is. -/
theorem lossOf_raiseLoss_of_ne {l' : LockId} (h : l' ≠ l) (reason : String) :
    (w.raiseLoss l' reason).lossOf l = w.lossOf l := by
  rw [lossOf_of_locks (quiet_raiseLoss w l' reason).locks, lossOf, getElem?_updateLock, if_neg h]
  rfl

/-- A move raises the loss of a lock that is begun and not cancelled, and cancels it, or leaves the
loss as it is. -/
theorem Move.lossOf (h : Move A D t w c w' c') : w'.lossOf l = w.lossOf l ∨
    D (.lose l) ∧ w.isCancelled l = false ∧ w'.isCancelled l = true ∧ w'.Begun l := by
  cases h with
  | quiet h => exact .inl (lossOf_of_locks h.locks)
  | own l' f g => exact .inl (lossOf_updateLock fun _ => rfl)
  | cancel l' => exact .inl (lossOf_cancelScope l')
  | lose l' reason hD hc hb =>
    by_cases hl : l' = l
    · subst hl
      have ho := outlives_raiseLoss (w := w) (l := l') reason
      obtain ⟨k, hk, -⟩ := id hb
      refine .inr ⟨hD, hc, ?_, hb.outlives ho⟩
      rw [isCancelled, (quiet_raiseLoss w l' reason).locks, getElem?_updateLock, if_pos rfl, hk]
      rfl
    · exact .inl (lossOf_raiseLoss_of_ne hl reason)
  | parent | foreign | revoke | inject | plan | spawn | told | forget => exact .inl rfl
  | build cr _ =>
    obtain ⟨s, ws, hl⟩ := (founding_built w cr).locks
    refine .inl ?_
    unfold World.lossOf
    rw [hl]
    rcases Nat.lt_trichotomy l w.locks.length with hlt | rfl | hgt
    · rw [List.getElem?_append_left hlt]
    · rw [List.getElem?_concat_length, List.getElem?_eq_none (Nat.le_refl _)]
      rfl
    · rw [List.getElem?_eq_none (Nat.le_of_lt hgt), List.getElem?_eq_none]
      rw [List.length_append, List.length_singleton]
      exact hgt
  | enqueue l' errand _ => exact .inl (lossOf_updateLock fun _ => rfl)
  | leave l' e _ _ => exact .inl (lossOf_leave t l')
  | abandon l' e _ _ => exact .inl (lossOf_leave t l')
  | send l' k errand call _ _ _ _ _ =>
    exact .inl ((lossOf_of_locks (locks_sent _)).trans (lossOf_updateLock fun _ => rfl))
  | arrive l' call r n p => exact .inl (lossOf_of_locks (locks_settleCall w r p))
  | receive l' call r n a => exact .inl ((lossOf_leave t l').trans (lossOf_concluded l' call a))
  | ask r _ => exact .inl (lossOf_of_locks (locks_sent r))
  | provision r n p => exact .inl (lossOf_of_locks (locks_settleCall w r p))

/-- Every lost lock is cancelled and begun. -/
def LossesSettled (w : World) : Prop :=
  ∀ l loss, w.lossOf l = some loss → w.isCancelled l = true ∧ w.Begun l

theorem LossesSettled.move (h : w.LossesSettled) (hm : Move A D t w c w' c') :
    w'.LossesSettled := by
  intro l loss hl
  rcases hm.lossOf (l := l) with he | ⟨-, -, hc, hb⟩
  · rw [he] at hl
    exact ⟨hm.outlives.isCancelled (h l loss hl).1, (h l loss hl).2.outlives hm.outlives⟩
  · exact ⟨hc, hb⟩

theorem LossesSettled.of_locks (h : w.LossesSettled) (hl : w'.locks = w.locks) :
    w'.LossesSettled := by
  unfold LossesSettled World.lossOf World.isCancelled Begun at h ⊢
  rwa [hl]

/-- In every reachable world a lost lock is cancelled and begun. -/
theorem lost_reachable (h : Reachable A w) : w.LossesSettled := by
  have hI : Kept A (fun _ => True) fun w _ => w.LossesSettled :=
    ⟨fun w w' _ hu h => h.of_locks hu.locks, fun _ _ _ _ h => h,
      fun _ _ _ _ _ _ _ h hm => h.move hm⟩
  refine hI.run (tame_start A) ?_ h
  intro l loss hl
  cases hl

/-- Once a lock is cancelled, its loss never changes. -/
theorem lossOf_run (h : Reachable A w) (hc : w.isCancelled l = true) (hr : Run A w w') :
    w'.lossOf l = w.lossOf l := by
  have hI : Kept A (fun _ => True)
      fun w₁ _ => w₁.isCancelled l = true ∧ w₁.lossOf l = w.lossOf l := by
    refine ⟨fun w₁ w₂ _ hu h => ?_, fun _ _ _ _ h => h, fun D w₁ w₂ E t c' _ h hm => ?_⟩
    · unfold World.isCancelled World.lossOf at h ⊢
      rwa [hu.locks]
    · refine ⟨hm.outlives.isCancelled h.1, ?_⟩
      rcases hm.lossOf (l := l) with he | ⟨-, hn, -⟩
      · rw [he, h.2]
      · rw [h.1] at hn
        cases hn
  exact (hI.run (Reachable.tame h) ⟨hc, rfl⟩ hr).2

/-! ### Calls -/

theorem requests_of_log (h : w'.log = w.log) : w'.requests = w.requests := by
  rw [requests, requests, h]

theorem requests_answered (n : Nat) (a : Answer) : (w.answered n a).requests = w.requests := by
  have h := map_modify_of (fun rec : CallRecord => rec.request)
    (fun rec => { rec with answer := some a }) id (fun _ => rfl) w.log n
  rw [List.modify_id] at h
  exact h

theorem requests_sent (r : Request) : (w.sent r).requests = w.requests ++ [r] := by
  rw [requests, log_sent, List.map_append]
  rfl

theorem log_leave (t : TaskId) : (w.leave t l).log = w.log := (quiet_leave w t l).log

theorem log_concluded (call : LeaseCall) (a : Answer) : (w.concluded l call a).log = w.log := by
  cases call with
  | acquire => cases a <;> rfl
  | renew => rfl
  | release => exact (quiet_cancelScope w l).log

/-- What a move sends: nothing, a creating call, or a lease call of a lock, which is a release if
the lock is cancelled. -/
theorem Move.requests (h : Move A D t w c w' c') : w'.requests = w.requests ∨
    ∃ r, w'.requests = w.requests ++ [r] ∧ (r.holder? = none ∨
      ∃ (l : LockId) (k : Lock) (call : LeaseCall), w.locks[l]? = some k ∧ r = k.request call ∧
        (call ≠ .release → k.cancelled = false)) := by
  cases h with
  | quiet h => exact .inl (requests_of_log h.log)
  | own | parent | foreign | revoke | inject | plan | spawn | enqueue | forget => exact .inl rfl
  | cancel l => exact .inl (requests_of_log (quiet_cancelScope w l).log)
  | lose l reason _ _ _ => exact .inl (requests_of_log (quiet_raiseLoss w l reason).log)
  | build cr _ => exact .inl (requests_of_log (founding_built w cr).log)
  | leave l e _ _ => exact .inl (requests_of_log (log_leave t))
  | abandon l e _ _ => exact .inl (requests_of_log (log_leave t))
  | send l k errand call hk _ _ _ hc =>
    exact .inr ⟨_, requests_sent _, .inr ⟨l, k, call, hk, rfl, hc⟩⟩
  | arrive l call r n p => exact .inl (requests_of_log (log_settleCall r p))
  | receive l call r n a =>
    exact .inl ((requests_of_log ((log_leave t).trans (log_concluded call a))).trans
      (requests_answered n a))
  | ask r hr =>
    refine .inr ⟨r, requests_sent r, .inl ?_⟩
    rcases hr with rfl | ⟨o, rfl⟩ <;> rfl
  | provision r n p => exact .inl (requests_of_log (log_settleCall r p))
  | told r n a => exact .inl (requests_answered n a)

theorem Sole.of_outlives {k' : Lock} (h : w'.Sole l k') (ho : w.Outlives w') (hid : k'.id = k.id) :
    w.Sole l k := by
  intro l₁ k₁ hk₁ he
  obtain ⟨k₂, hk₂, hev⟩ := ho l₁ k₁ hk₁
  exact h l₁ k₂ hk₂ (hev.id.trans (he.trans hid.symm))

/-- An instance that is cancelled has sent a lease call so often. -/
def SentOften (l : LockId) (k : Lock) (call : LeaseCall) (n : Nat) (w : World) : Prop :=
  ∃ k', w.locks[l]? = some k' ∧ Evolves k k' ∧ k'.cancelled = true ∧
    (w.Sole l k' → w.requests.count (k.request call) = n)

theorem SentOften.move {call : LeaseCall} {n : Nat} (hcall : call ≠ .release)
    (h : SentOften l k call n w) (hm : Move A D t w c w' c') : SentOften l k call n w' := by
  obtain ⟨k₁, hk₁, he₁, hc₁, hn⟩ := h
  obtain ⟨k₂, hk₂, he₂⟩ := hm.outlives l k₁ hk₁
  refine ⟨k₂, hk₂, he₁.trans he₂, he₂.cancelled hc₁, fun hs => ?_⟩
  have hs₁ : w.Sole l k₁ := hs.of_outlives hm.outlives he₂.id
  rcases hm.requests with he | ⟨r, he, hr⟩
  · rw [he]
    exact hn hs₁
  · -- a call of the instance would be sent by the lock itself, which is cancelled
    have hne : r ≠ k.request call := by
      rintro rfl
      rcases hr with hr | ⟨l₃, k₃, call', hk₃, hr, hc₃⟩
      · rw [Lock.holder?_request] at hr
        cases hr
      · have hid : k.id = k₃.id := by
          have := congrArg Request.holder? hr
          rw [Lock.holder?_request, Lock.holder?_request] at this
          exact Option.some.inj this
        obtain rfl := hs₁ l₃ k₃ hk₃ (hid.symm.trans he₁.id.symm)
        obtain rfl := Option.some.inj (hk₃.symm.trans hk₁)
        rw [← Evolves.request he₁] at hr
        obtain rfl := request_injective _ hr
        rw [hc₁] at hc₃
        cases hc₃ hcall
    rw [he, List.count_append, hn hs₁, List.count_singleton, if_neg (by simpa using hne),
      Nat.add_zero]

/-- A cancelled instance sends no more applications and no more renewals. -/
theorem count_requests_run (h : Reachable A w) (hk : w.locks[l]? = some k)
    (hc : k.cancelled = true) (hr : Run A w w') {k' : Lock} (hk' : w'.locks[l]? = some k')
    (hs : w'.Sole l k') {call : LeaseCall} (hcall : call ≠ .release) :
    w'.requests.count (k.request call) = w.requests.count (k.request call) := by
  have hI : Kept A (fun _ => True)
      fun w₁ _ => SentOften l k call (w.requests.count (k.request call)) w₁ := by
    refine ⟨fun w₁ w₂ _ hu h => ?_, fun _ _ _ _ h => h, fun _ _ _ _ _ _ _ h hm => h.move hcall hm⟩
    unfold SentOften Sole World.requests at h ⊢
    rwa [hu.locks, hu.log]
  obtain ⟨k₁, hk₁, -, -, hn⟩ :=
    hI.run (Reachable.tame h) ⟨k, hk, .refl k, hc, fun _ => rfl⟩ hr
  obtain rfl := Option.some.inj (hk₁.symm.trans hk')
  exact hn hs

/-! ### Locks that will not be acquired -/

/-- The lock is cancelled and not acquired, and no acquisition of it is on its way. -/
structure Settled (l : LockId) (w : World) (E : TaskId → Option Engagement) : Prop where
  cancelled : w.isCancelled l = true
  free : ¬ w.AtStage l .acquired
  still : ∀ t r n co, E t ≠ some (.calling l .acquire r n co)

theorem atStage_core (s : Stage) :
    w.AtStage l s ↔ ∃ c, w.ledger.cores[l]? = some c ∧ c.stage = s := by
  constructor
  · rintro ⟨k, hk, hs⟩
    exact ⟨k.core, core?_ledger hk, hs⟩
  · rintro ⟨c, hc, hs⟩
    obtain ⟨k, hk, rfl⟩ := exists_lock_of_core hc
    exact ⟨k, hk, hs⟩

/-- A released lock remains released. -/
theorem AtStage.step (h : w.AtStage l .released)
    (ha : w.ledger.Answerable E) (hs : w.ledger.Step t (E t) w'.ledger c') :
    w'.AtStage l .released := by
  obtain ⟨c, hc, hst⟩ := (atStage_core _).1 h
  obtain ⟨c', hc', -, hrank⟩ := (ha.since_step hs).stages l c hc
  refine (atStage_core _).2 ⟨c', hc', ?_⟩
  rw [hst] at hrank
  cases hst' : c'.stage <;> rw [hst'] at hrank <;> first | rfl | simp [Stage.rank] at hrank

/-- A lock that is cancelled or released makes no call but a release. -/
theorem Move.still {call : LeaseCall} {r : Request} {n : Nat} {co : Course}
    (hm : Move A D t w c w' c') (hover : w.isCancelled l = true ∨ w.AtStage l .released)
    (hcall : call ≠ .release) (hc : ∀ r n co, c ≠ some (.calling l call r n co)) :
    c' ≠ some (.calling l call r n co) := by
  rintro rfl
  cases hm with
  | quiet | own | cancel | lose | parent | foreign | revoke | inject | plan | spawn =>
    exact hc _ _ _ rfl
  | send l k errand call hk _ _ hst hnot =>
    rcases hover with hcancel | ⟨k', hk', hst'⟩
    · rw [isCancelled_eq hk] at hcancel
      cases hcancel.symm.trans (hnot hcall)
    · cases hk.symm.trans hk'
      cases call <;> cases hst.symm.trans hst'
  | arrive => exact hc _ _ _ rfl

/-- No move changes this. -/
theorem Settled.move (h : Settled l w E) (hm : Move A D t w (E t) w' c') :
    Settled l w' (Function.update E t c') where
  cancelled := hm.outlives.isCancelled h.cancelled
  free ha := by
    obtain ⟨k', hk', hs⟩ := (atStage_core _).1 ha
    rcases hm.ledger.stage_cases hk' (by rw [hs]; decide) with
      ⟨k, hk, he⟩ | ⟨-, r, n, co, he⟩ | ⟨hr, -⟩
    · exact h.free ((atStage_core _).2 ⟨k, hk, he.trans hs⟩)
    · exact h.still t r n co he
    · cases hr.symm.trans hs
  still t' r n co := by
    by_cases ht : t' = t
    · subst ht
      rw [Function.update_self]
      exact hm.still (.inl h.cancelled) (by decide) (h.still t')
    · rw [Function.update_of_ne ht]
      exact h.still t' r n co

theorem kept_settled : Kept A (fun _ => True) (Settled l) where
  books w w' E hu h := by
    refine ⟨?_, ?_, h.still⟩
    · rw [isCancelled, hu.locks]
      exact h.cancelled
    · rw [AtStage, hu.locks]
      exact h.free
  later w n E _ h := ⟨h.cancelled, h.free, h.still⟩
  move D w w' E t c' _ h hm := h.move hm

end Leasehold.World
