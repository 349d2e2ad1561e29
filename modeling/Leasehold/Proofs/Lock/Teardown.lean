import Leasehold.Proofs.Lock.Instance

/-!
# The teardown of an instance

A release that passes the check moves its lock to the last stage at once and cancels its scope when
its call has ended.  In between the release can be dropped: its task is told to give up, or a loss
ends the exclusive section that it is made in.

* `World.Releasing`: a release call of a lock is on its way.
* `World.NextUnbroken`, `World.Unbroken`: runs in which no release call of the lock is dropped.
* `World.released_cancelled`: in these the released lock without a release call on its way is
  cancelled.
* `World.released_uncancelled`: a run in which the release is dropped, and the lock is not.
-/

namespace Leasehold

namespace World

variable {A : Step → Prop} {D : Deed → Prop} {t : TaskId} {w w' : World}
  {c c' : Option Engagement} {l : LockId} {k : Lock} {E : TaskId → Option Engagement}

theorem isCancelled_concluded_release (hk : w.locks[l]? = some k) (a : Answer) :
    (w.concluded l .release a).isCancelled l = true := isCancelled_cancelScope hk

/-- After a move a release call is still on its way, or it has ended and its lock is cancelled,
unless the move drops the call. -/
theorem Move.release_over {e : Engagement} (h : Move A D t w (some e) w' c') (he : e.Releases l)
    (hk : w.locks[l]? = some k) (hD : ¬ D (.drop l)) :
    (∃ e', c' = some e' ∧ e'.Releases l) ∨ w'.isCancelled l = true := by
  have ho := h.outlives
  cases h with
  | leave l' e hl hc =>
    obtain ⟨r, n, co, rfl⟩ := he
    cases hl
    exact .inr (ho.isCancelled (hc ⟨r, n, co, rfl⟩))
  | abandon l' e hl hd =>
    obtain ⟨r, n, co, rfl⟩ := he
    cases hl
    exact absurd (hd k hk ⟨r, n, co, rfl⟩) hD
  | receive l' call r n a =>
    obtain ⟨r, n, co, he⟩ := he
    cases he
    have hk' : (w.answered n a).locks[l]? = some k := hk
    exact .inr ((outlives_leave t).isCancelled (isCancelled_concluded_release hk' a))
  | arrive l' call r n p =>
    obtain ⟨r, n, co, he⟩ := he
    cases he
    exact .inl ⟨_, rfl, _, _, _, rfl⟩
  | send | provision | told | forget =>
    obtain ⟨r, n, co, he⟩ := he
    cases he
  | quiet | own | cancel | lose | parent | foreign | revoke | inject | plan | spawn =>
    exact .inl ⟨e, rfl, he⟩

/-- If the lock is released, it is cancelled or its release call is on its way. -/
def Torn (l : LockId) (w : World) (E : TaskId → Option Engagement) : Prop :=
  ∀ k, w.locks[l]? = some k → k.stage = .released → k.cancelled = true ∨
    ∃ t e, E t = some e ∧ e.Releases l

/-- Every move keeps this, unless it drops a release call of the lock. -/
theorem Torn.move (h : Torn l w E) (hm : Move A D t w (E t) w' c') (hD : ¬ D (.drop l)) :
    Torn l w' (Function.update E t c') := by
  intro k' hk' hs
  have hi : k'.core.stage ≠ .idle := by
    rw [show k'.core.stage = _ from hs]
    decide
  rcases hm.ledger.stage_cases (core?_ledger hk') hi with
    ⟨kc, hkc, hs₀⟩ | ⟨ha, -⟩ | ⟨-, -, e, hc', he⟩
  · obtain ⟨k, hk, rfl⟩ := exists_lock_of_core hkc
    obtain ⟨k₁, hk₁, hev⟩ := hm.outlives l k hk
    obtain rfl := Option.some.inj (hk₁.symm.trans hk')
    rcases h k hk (hs₀.trans hs) with hc | ⟨t', e, he, hr⟩
    · exact .inl (hev.cancelled hc)
    · -- the release call is this task's, which the move may end, or another's, which it leaves
      by_cases ht : t' = t
      · subst ht
        rw [he] at hm
        rcases hm.release_over hr hk hD with ⟨e', rfl, hr'⟩ | hc
        · exact .inr ⟨t', e', Function.update_self .., hr'⟩
        · exact .inl (by rw [← isCancelled_eq hk']; exact hc)
      · exact .inr ⟨t', e, by rw [Function.update_of_ne ht]; exact he, hr⟩
  · cases ha.symm.trans hs
  · exact .inr ⟨t, e, by rw [Function.update_self]; exact hc', he⟩

/-- One step of a run in which no release call of the lock is dropped. -/
def NextUnbroken (A : Step → Prop) (l : LockId) (w w' : World) : Prop :=
  ∃ o, NextBy A w o w' ∧ ∀ t ∈ o, ¬ w.Drops t l

/-- A run in which no release call of the lock is dropped leads to the world. -/
def Unbroken (A : Step → Prop) (l : LockId) (w : World) : Prop :=
  Relation.ReflTransGen (NextUnbroken A l) start w

theorem Unbroken.reachable (h : Unbroken A l w) : Reachable A w :=
  Relation.ReflTransGen.mono (fun _ _ ⟨_, hn, _⟩ => hn.next) _ _ h

theorem kept_torn : Kept A (fun D => ¬ D (.drop l)) (Torn l) where
  books w w' E hu h := by
    intro k hk
    rw [hu.locks] at hk
    exact h k hk
  later w n E _ h := h
  move D w w' E t c' hD h hm := h.move hm hD

theorem torn_unbroken (h : Unbroken A l w) : Torn l w w.engagements := by
  induction h with
  | refl =>
    intro k hk
    cases hk
  | tail hr hn ih =>
    obtain ⟨o, hn, hd⟩ := hn
    exact kept_torn.next (Reachable.tame (Unbroken.reachable hr)) ih hn hd

/-- A release call of the lock is on its way. -/
def Releasing (w : World) (l : LockId) : Prop := ∃ t e, w.engagements t = some e ∧ e.Releases l

/-- As long as no release call of it is dropped, a released lock without a release call on its way
is cancelled. -/
theorem released_cancelled (h : Unbroken A l w) (hk : w.locks[l]? = some k)
    (hs : k.stage = .released) (hr : ¬ w.Releasing l) : k.cancelled = true :=
  (torn_unbroken h k hk hs).resolve_right hr

/-! ### A release that is dropped, and one that is not -/

/-- Nobody was told to give up, and no lock is lost. -/
def peaceful (w : World) : Bool :=
  (w.tasks.all fun task => !task.aborting) && w.locks.all fun k => k.lossCell.loss.isNone

/-- A step drops a release call only if a lock is lost. -/
theorem lost_of_drops {losses : LockId → Option Loss} {p : Progress} (h : p.Drops losses l) :
    ∃ l', (losses l').isSome = true := by
  induction p with
  | working l' n p ih =>
    rw [Progress.Drops] at h
    split at h
    · next hl => exact ⟨l', hl⟩
    · exact ih h
  | listing past p rest ih => exact ih h
  | _ => cases h

theorem not_drops_of_peaceful (h : w.peaceful = true) : ¬ w.Drops t l := by
  obtain ⟨ht, hl⟩ := Bool.and_eq_true_iff.1 h
  rintro ⟨p, b, htask, hd⟩
  have hb := List.all_eq_true.1 ht _ (List.mem_of_getElem? htask)
  obtain rfl : b = false := by simpa using hb
  rw [if_neg (by decide)] at hd
  obtain ⟨l', hloss⟩ := lost_of_drops hd
  unfold lossOf at hloss
  split at hloss
  · next k hk =>
    have hn := List.all_eq_true.1 hl k (List.mem_of_getElem? hk)
    rw [Option.isNone_iff_eq_none.1 hn] at hloss
    cases hloss
  · cases hloss

/-- The scheduler's own moves from a peaceful world break nothing off. -/
theorem nextUnbroken_turn (h : w.peaceful = true) : NextUnbroken A l w w.turn := by
  obtain ⟨o, hn⟩ := next_iff.1 (next_turn (A := A) w)
  exact ⟨o, hn, fun _ _ => not_drops_of_peaceful h⟩

theorem unbroken_ofScript {steps : List Step} (hs : (Step.steps steps).Within A) :
    ∀ n, (∀ m < n, (turn^[m] (ofScript steps)).peaceful = true) →
      Unbroken A l (turn^[n] (ofScript steps))
  | 0, _ => .single ⟨none, .spawn _ hs, fun t ht => by cases ht⟩
  | n + 1, h => by
    rw [Function.iterate_succ_apply']
    exact (unbroken_ofScript hs n fun m hm => h m (Nat.lt_succ_of_lt hm)).tail
      (nextUnbroken_turn (h n (Nat.lt_succ_self n)))

/-- No task is at a critical section or waits for a call. -/
def disengaged (w : World) : Bool := w.tasks.all fun task => task.activity.engagement.isNone

theorem not_releasing_of_disengaged (h : w.disengaged = true) : ¬ w.Releasing l := by
  rintro ⟨t, e, he, -⟩
  rw [engagements] at he
  obtain ⟨task, ht, he⟩ := Option.bind_eq_some_iff.1 he
  have hn := List.all_eq_true.1 h task (List.mem_of_getElem? ht)
  rw [he] at hn
  cases hn

/-- A lock whose release takes a second. -/
def handedBack : World :=
  turn^[7] (ofScript [.create "a" "alpha" (.ofSeconds 15) [] "p" ⟨"i"⟩, .acquireOnce "a",
    .plan .release ⟨.ofSeconds 1, none, .zero, none⟩ 1, .handleUnlock "a", .sleep (.ofSeconds 1)])

theorem unbroken_handedBack : Unbroken (fun _ => True) 0 handedBack :=
  unbroken_ofScript (by simp [Step.Within, Step.AllWithin]) 7 (by decide +kernel)

/-- When the release has ended the lock is cancelled. -/
theorem released_cancelled_handedBack : handedBack.clock = 1000 ∧
    ∃ k, handedBack.locks[0]? = some k ∧ k.stage = .released ∧ k.cancelled = true := by
  have hst : handedBack.stages[0]? = some .released := by decide +kernel
  obtain ⟨k, hk, hs⟩ := Option.map_eq_some_iff.1 ((List.getElem?_map ..).symm.trans hst)
  refine ⟨by decide +kernel, k, hk, hs, released_cancelled unbroken_handedBack hk hs ?_⟩
  exact not_releasing_of_disengaged (by decide +kernel)

/-- A task is told to give up while its release call is on its way; a hundred seconds pass. -/
def dropped : World :=
  turn^[9] (ofScript [.create "a" "alpha" (.ofSeconds 15) [] "p" ⟨"i"⟩, .acquireOnce "a",
    .plan .release ⟨.ofSeconds 1, none, .zero, none⟩ 1, .spawn "u" (.handleUnlock "a"), .abort "u",
    .sleep (.ofSeconds 100)])

/-- After a release that was dropped its lock is released and never cancelled. -/
theorem released_uncancelled : Reachable (fun _ => True) dropped ∧ dropped.clock = 100000 ∧
    ¬ dropped.Releasing 0 ∧
    ∃ k, dropped.locks[0]? = some k ∧ k.stage = .released ∧ k.cancelled = false := by
  have h : (dropped.locks[0]?.map fun k => (k.stage, k.cancelled)) = some (.released, false) := by
    decide +kernel
  obtain ⟨k, hk, he⟩ := Option.map_eq_some_iff.1 h
  refine ⟨reachable_ofScript (by simp [Step.Within, Step.AllWithin]) 9, by decide +kernel, ?_,
    k, hk, congrArg Prod.fst he, congrArg Prod.snd he⟩
  exact not_releasing_of_disengaged (by decide +kernel)

end World

end Leasehold
