import Leasehold.Proofs.Lock.Discharge

/-!
# The guard of a lock

The guard waits for the end of its lock.  A cancellation without a loss makes it release the lease,
if there is one.

* `World.guarded_next`: a guard is at work, or its lock is lost, or settled.
* `World.released_by_guard`: when the guard of a cancelled lock has ended and there is no loss, the
  lock is not acquired for ever after, and its lease was released once if it was ever granted.
-/

namespace Leasehold

/-- The watcher is a guard. -/
def Watcher.Guards : Watcher → Prop
  | guardStart _ | guardWait .. | guardRelease _ => True
  | _ => False

instance : DecidablePred Watcher.Guards
  | .guardStart _ | .guardWait .. | .guardRelease _ => isTrue trivial
  | .renewalStart | .renewalTick .. | .renewalLook .. | .renewalCall .. | .alarmStart ..
  | .alarmWait .. | .alarmRelease .. | .probeStart _ | .probeWait .. => isFalse not_false

namespace World

variable {A : Step → Prop} {t : TaskId} {w w' w₀ : World} {l : LockId} {k k₀ : Lock}
  {E : TaskId → Option Engagement} {v : Watcher} {o : Option TaskId}

/-! ### A turn of the guard -/

theorem guards_lookGuard (grace : Span) (n n' : Nat) {v' : Watcher}
    (h : (w.lookGuard t l grace n n').2 = .waiting v') : v'.Guards := by
  unfold lookGuard at h
  split at h
  · cases h
  · split at h
    · unfold startGuardRelease at h
      rcases hy : w.visit t l (.release grace) with ⟨w', e | r⟩ <;> rw [hy] at h <;> cases h
      trivial
    · cases h
      trivial

/-- A guard that goes on waiting is still a guard. -/
theorem guards_resumeWatcher (hv : v.Guards) {v' : Watcher}
    (h : (w.resumeWatcher t l v).2 = .waiting v') : v'.Guards := by
  unfold resumeWatcher at h
  split at h
  · cases h
  · cases v with
    | guardStart grace => exact guards_lookGuard grace _ _ h
    | guardWait grace n n' => exact guards_lookGuard grace n n' h
    | guardRelease e =>
      dsimp only at h
      rcases hy : w.resumeEntry t l e with ⟨w', e' | r⟩ <;> rw [hy] at h <;> cases h
      trivial
    | _ => cases hv

/-- The guard looks and ends. -/
theorem settled_lookGuard {grace : Span} {n n' : Nat} {u : Unit} (hk : w.locks[l]? = some k)
    (hA : w.ledger.Answerable E) (he : E t = none)
    (h : (w.lookGuard t l grace n n').2 = .done u) : (∃ loss, w.lossOf l = some loss) ∨
      Settled l (w.lookGuard t l grace n n').1 (Function.update E t none) := by
  unfold lookGuard at h ⊢
  by_cases hl : (w.lossOf l).isSome = true
  · exact .inl (Option.isSome_iff_exists.1 hl)
  · rw [if_neg hl] at h ⊢
    by_cases hc : w.isCancelled l = true
    · rw [if_pos hc] at h ⊢
      right
      have hs := fun r (hr : (w.visit t l (.release grace)).2 = .done r) =>
        settled_visit hk hA he hc hr
      unfold startGuardRelease at h ⊢
      rcases hy : w.visit t l (.release grace) with ⟨w', e | r⟩ <;> rw [hy] at h hs
      · cases h
      · exact hs r rfl
    · rw [if_neg hc] at h
      cases h

/-- When the guard of a lock ends, the lock is lost or settled. -/
theorem settled_resumeWatcher {u : Unit} (hv : v.Guards) (hf : w.Fits l v)
    (hk : w.locks[l]? = some k) (hA : w.ledger.Answerable E) (he : E t = v.engagement l)
    (h : (w.resumeWatcher t l v).2 = .done u) : (∃ loss, w.lossOf l = some loss) ∨
      Settled l (w.resumeWatcher t l v).1 (Function.update E t none) := by
  unfold resumeWatcher at h ⊢
  rw [hk] at h ⊢
  cases v with
  | guardStart grace =>
    exact settled_lookGuard (w := w.takeTicket.1.takeTicket.1) hk hA he h
  | guardWait grace n n' => exact settled_lookGuard hk hA he h
  | guardRelease e =>
    right
    have hs := fun r => settled_resumeEntry (r := r) hk hA he hf.1 hf.2
    dsimp only at h ⊢
    rcases hy : w.resumeEntry t l e with ⟨w', e' | r⟩ <;> rw [hy] at h hs
    · cases h
    · exact hs r rfl
  | _ => cases hv

/-! ### Runs -/

/-- The task is at work as the guard of the lock, or the lock is lost or settled. -/
inductive Guarded (t : TaskId) (l : LockId) (w : World) : Prop
  | working (v : Watcher) : w.activity? t = some (.watching l v) → v.Guards → Guarded t l w
  | lost (loss : Loss) : w.lossOf l = some loss → Guarded t l w
  | settled : Settled l w w.engagements → Guarded t l w

/-- The guard's own turn. -/
theorem guarded_poll (h : Reachable A w) (hk : w.locks[l]? = some k)
    (ha : w.activity? t = some (.watching l v)) (hv : v.Guards) : Guarded t l (w.poll t) := by
  have hw := Reachable.tame h
  have hf : w.Fits l v := hw t _ ha
  have hT := turn_watching (A := A) ha hf
  have hq := poll_watching ha
  have hA : (w.atTurn t).ledger.Answerable w.engagements := answerable_reachable h
  have he : w.engagements t = v.engagement l := by rw [engagements_eq, ha]; rfl
  have hend := hT.engagements hq
  have hact := activity?_poll_watching hw ha
  rcases hy : ((w.atTurn t).resumeWatcher t l v).2 with v' | u
  · rw [hy] at hact
    exact .working v' hact (guards_resumeWatcher hv hy)
  · rw [hy] at hend
    rcases settled_resumeWatcher (w := w.atTurn t) hv hf hk hA he hy with ⟨loss, hl⟩ | hs
    · have ho : w.Outlives (w.poll t) := outlives_run h (.single (.poll t))
      exact .lost loss (ho.lossOf hl)
    · refine .settled ?_
      rw [hend]
      exact (kept_settled (A := A)).books _ _ _ hq.unmoved
        ((kept_settled (A := A)).books _ _ _ (unmoved_setActivity _ t _) hs)

/-- As long as the guard works or the lock is lost or settled, one of these remains so. -/
theorem guarded_next (h : Reachable A w) (hk : w.locks[l]? = some k) (hg : Guarded t l w)
    (hn : NextBy A w o w') : Guarded t l w' := by
  have ho : w.Outlives w' := outlives_run h (.single hn.next)
  cases hg with
  | working v ha hv =>
    by_cases ht : t ∈ o
    · cases hn with
      | poll t' =>
        cases ht
        exact guarded_poll h hk ha hv
      | spawn | draw | advance => cases ht
    · exact .working v (activity?_other (Reachable.tame h) hn ht ha) hv
  | lost loss hl => exact .lost loss (ho.lossOf hl)
  | settled hs => exact .settled (kept_settled.next (Reachable.tame h) hs hn fun _ _ => trivial)

theorem guarded_run (h : Reachable A w₀) (hk : w₀.locks[l]? = some k₀) (hg : Guarded t l w₀)
    (hr : Run A w₀ w) : Guarded t l w := by
  induction hr with
  | refl => exact hg
  | tail hr hn ih =>
    obtain ⟨o, hn⟩ := next_iff.1 hn
    obtain ⟨k, hk, -⟩ := outlives_run h hr l k₀ hk
    exact guarded_next (h.trans hr) hk ih hn

/-- A settled lock is never acquired. -/
theorem not_acquired_of_settled (h : Reachable A w) (hs : Settled l w w.engagements)
    (hr : Run A w w') {k' : Lock} (hk' : w'.locks[l]? = some k') : k'.stage ≠ .acquired :=
  fun ha => (kept_settled.run (Reachable.tame h) hs hr).free ⟨k', hk', ha⟩

/-- A guard has been at work for a lock.  When it has ended and there is no loss, which takes a
cancellation, the lock is not acquired for ever after, and the release call of the instance has been
sent once if its lease was ever granted, and not at all if it was not. -/
theorem released_by_guard (h₀ : Reachable A w₀) (hk₀ : w₀.locks[l]? = some k₀)
    (ha : w₀.activity? t = some (.watching l v)) (hv : v.Guards) (hr : Run A w₀ w)
    (ht : w.Ended t) (hk : w.locks[l]? = some k) (hl : k.lossCell.loss = none) :
    ∀ w' k', Run A w w' → w'.locks[l]? = some k' → k'.stage ≠ .acquired ∧
      (w'.Sole l k' → (w'.WasGranted k' → w'.requests.count (k'.request .release) = 1) ∧
        (¬ w'.WasGranted k' → w'.requests.count (k'.request .release) = 0)) := by
  intro w' k' hr' hk'
  have h : Reachable A w := h₀.trans hr
  have hs : Settled l w w.engagements := by
    cases guarded_run h₀ hk₀ (.working v ha hv) hr with
    | working v' ha' _ =>
      obtain ⟨o, ho⟩ := ht
      cases ho.symm.trans ha'
    | lost loss hloss =>
      rw [lossOf_eq hk, hl] at hloss
      cases hloss
    | settled hs => exact hs
  have hn := not_acquired_of_settled h hs hr' hk'
  refine ⟨hn, fun hsole => ?_⟩
  rw [wasGranted_iff (h.trans hr') hk' hsole, count_release (h.trans hr') hk' hsole]
  cases hst : k'.stage with
  | idle => simp
  | acquired => exact absurd hst hn
  | released => simp

/-! ### A guard that has ended -/

/-- A lock with a guard has just been built. -/
def guarded : World :=
  turn (ofScript [.create "a" "alpha" (.ofSeconds 15) [.guard (.ofSeconds 5)] "p" ⟨"i"⟩,
    .acquireOnce "a", .cancel "a", .stage "a"])

/-- The lock is acquired and then cancelled, and its guard ends. -/
theorem released_by_guard_guarded : guarded.stages = [.idle] ∧
    (turn^[2] guarded).stages = [.acquired] ∧
    ∃ k, (turn^[4] guarded).locks[0]? = some k ∧ k.cancelled = true ∧ k.stage ≠ .acquired ∧
      (turn^[4] guarded).requests.count (k.request .release) = 1 := by
  have hr : Reachable (fun _ => True) guarded :=
    reachable_ofScript (by simp [Step.Within, Step.AllWithin]) 1
  have hrun : Run (fun _ => True) guarded (turn^[4] guarded) := run_iterate_turn guarded 4
  obtain ⟨v, ha, hv⟩ : ∃ v, guarded.activity? 1 = some (.watching 0 v) ∧ v.Guards :=
    exists_watching (by decide +kernel)
  have ht : (turn^[4] guarded).Ended 1 := ended_of_isFinished (by decide +kernel)
  have hone : (turn^[4] guarded).locks.length = 1 := by decide +kernel
  have hc : ((turn^[4] guarded).locks[0]?.map fun k => (k.cancelled, k.lossCell.loss)) =
      some (true, none) := by decide +kernel
  obtain ⟨k, hk, hkc⟩ := Option.map_eq_some_iff.1 hc
  obtain ⟨k₀, hk₀⟩ : ∃ k₀, guarded.locks[0]? = some k₀ :=
    Option.isSome_iff_exists.1 (by decide +kernel)
  obtain ⟨hn, hs⟩ :=
    released_by_guard hr hk₀ ha hv hrun ht hk (congrArg Prod.snd hkc) _ k .refl hk
  have hsole : (turn^[4] guarded).Sole 0 k := sole_of_single hone
  refine ⟨by decide +kernel, by decide +kernel, k, hk, congrArg Prod.fst hkc, hn,
    (hs hsole).1 ((wasGranted_iff (hr.trans hrun) hk hsole).2 ?_)⟩
  have hst : (turn^[4] guarded).stages[0]? = some .released := by decide +kernel
  rw [stages, List.getElem?_map, hk] at hst
  rw [show k.stage = .released from Option.some.inj hst]
  decide

end World

end Leasehold
