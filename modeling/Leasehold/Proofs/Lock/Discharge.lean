import Leasehold.Proofs.Lock.Cancellation
import Leasehold.Proofs.Lock.RenewalLoop

/-!
# Releases that are over

A visit that is for the release of a lock ends in one of two ways.  The lock is released then, now
or before, or it was idle all the time that the visit was inside, and then nobody else is.

* `World.Discharged`: how such a visit ends.
* `World.settled_visit`, `World.settled_resumeEntry`: after a release of a cancelled lock the lock
  is settled.
-/

namespace Leasehold.World

variable {t : TaskId} {w w' : World} {l : LockId} {k k₀ : Lock}
  {E : TaskId → Option Engagement} {r : Reply}

/-- A visit of the task for the release of a lock has come to `y`. -/
def Discharged (t : TaskId) (l : LockId) (k : Lock) (y : World × Poll Entry Reply) : Prop :=
  ∀ r, y.2 = .done r → y.1.AtStage l .released ∨
    y.1.AtStage l .idle ∧ ∀ t', k.queue.head? = some t' → t' = t

theorem discharged_waiting (e : Entry) : Discharged t l k (w, .waiting e) := by
  intro r hr
  cases hr

theorem AtStage.cancelScope {s : Stage} (h : w.AtStage l s) : (w.cancelScope l).AtStage l s := by
  refine AtStage.quiet ?_ (quiet_cancelScope w l)
  exact (atStage_updateLock (by intro k; rfl)).2 h

theorem AtStage.of_locks {s : Stage} (h : w.AtStage l s) (hl : w'.locks = w.locks) :
    w'.AtStage l s := by
  rwa [AtStage, hl]

theorem discharged_takeAnswer (h : w.AtStage l .released) (a : Answer) :
    Discharged t l k₀ (w.takeAnswer t l k .release a) :=
  fun _ _ => .inl (h.cancelScope.leave t l)

theorem discharged_enter (hk : w.locks[l]? = some k)
    (hq : ∀ t', k₀.queue.head? = some t' → t' = t) (deadline : Span) :
    Discharged t l k₀ (w.enter t l (.release deadline)) := by
  have hsends {w' p} (hs : w.Sends l k (.release deadline) .release (w', p)) :
      w'.AtStage l .released := ⟨_, hs.lock hk, rfl⟩
  have hl := letIn_enter (t := t) hk (.release deadline)
  generalize w.enter t l (.release deadline) = y at hl ⊢
  cases hl with
  | observed he => cases he
  | refused call he hr =>
    cases he
    intro r _
    cases hs : k.stage with
    | idle => exact .inr ⟨AtStage.leave ⟨k, hk, hs⟩ t l, hq⟩
    | released => exact .inl (AtStage.leave ⟨k, hk, hs⟩ t l)
    | acquired => cases hr.symm.trans (refusal_eq_none_iff.2 ⟨hs, fun hn => absurd rfl hn⟩)
  | answered hs =>
    cases hs.errand
    exact discharged_takeAnswer (hsends hs) _
  | waiting | releasing => exact discharged_waiting _
  | timeout he hs =>
    cases he
    exact discharged_takeAnswer ((hsends hs).quiet (quiet_timer _ _)) _

theorem discharged_visit (hk : w.locks[l]? = some k) (deadline : Span) :
    Discharged t l k (w.visit t l (.release deadline)) := by
  rcases visit_cases (t := t) hk (.release deadline) with ⟨hq, hv⟩ | ⟨-, hv⟩ <;> rw [hv]
  · refine discharged_enter (getElem?_enqueued hk t) (fun t' ht' => ?_) deadline
    rw [hq] at ht'
    cases ht'
  · exact discharged_waiting _

theorem discharged_resumeEntry {e : Entry} (hk : w.locks[l]? = some k)
    (he : e.call? = some .release)
    (hs : ∀ f limit, e = .releasing f limit → w.AtStage l .released) :
    Discharged t l k (w.resumeEntry t l e) := by
  cases e with
  | queued errand =>
    cases errand with
    | release deadline =>
      rcases resumeQueued_cases (t := t) hk (.release deadline) with ⟨hq, hv⟩ | ⟨-, hv⟩ <;> rw [hv]
      · exact discharged_enter hk (fun t' ht' => Option.some.inj (ht'.symm.trans hq)) deadline
      · exact discharged_waiting _
    | acquire | renew | observe => cases he
  | acquiring f n => cases he
  | renewing f n => cases he
  | releasing f limit =>
    have hfly {y} (hy : w.fly f = y) : y.1.AtStage l .released :=
      (hs f limit rfl).of_locks (hy ▸ locks_fly w f)
    have hr := goesOn_resumeEntry (t := t) hk (.releasing f limit)
    generalize w.resumeEntry t l (.releasing f limit) = y at hr ⊢
    cases hr with
    | answered ha hy =>
      cases ha
      exact discharged_takeAnswer (hfly hy) _
    | timeout hy => exact discharged_takeAnswer (hfly hy) _
    | interrupted ha hc =>
      cases ha
      exact absurd rfl hc
    | waiting | releasing => exact discharged_waiting _

/-- Moves keep all calls answerable. -/
theorem Moves.answerable {A : Step → Prop} {D : Deed → Prop} {c c' : Option Engagement}
    (h : Moves A D t (w, c) (w', c')) (hA : w.ledger.Answerable (Function.update E t c)) :
    w'.ledger.Answerable (Function.update E t c') :=
  Moves.keep h (J := fun w E => w.ledger.Answerable E) (fun _ _ _ _ hA hm => hA.step hm.ledger) hA

/-- Moves take nothing back. -/
theorem Moves.since {A : Step → Prop} {D : Deed → Prop} {c c' : Option Engagement}
    (h : Moves A D t (w, c) (w', c')) (hA : w.ledger.Answerable (Function.update E t c)) :
    w.ledger.Since w'.ledger :=
  (Moves.keep h (J := fun w' E => w'.ledger.Answerable E ∧ w.ledger.Since w'.ledger)
    (fun _ _ _ _ hJ hm => ⟨hJ.1.step hm.ledger, hJ.2.trans (hJ.1.since_step hm.ledger)⟩)
    ⟨hA, .refl _⟩).2

/-- A lock whose release is over is not acquired, and will not be by a call on its way. -/
theorem still_of_discharged {A : Step → Prop} {D : Deed → Prop} {y : World × Poll Entry Reply}
    (hk : w.locks[l]? = some k) (hA : w.ledger.Answerable E)
    (hm : Moves A D t (w, E t) (y.1, none)) (hy : Discharged t l k y) (hr : y.2 = .done r) :
    ¬ y.1.AtStage l .acquired ∧
      ∀ t' r n co, Function.update E t none t' ≠ some (.calling l .acquire r n co) := by
  refine ⟨?_, fun t' r n co he => ?_⟩
  · rintro ⟨k', hk', hs⟩
    rcases hy r hr with ⟨k'', hk'', hs'⟩ | ⟨⟨k'', hk'', hs'⟩, -⟩ <;>
    · obtain rfl := Option.some.inj (hk'.symm.trans hk'')
      cases hs.symm.trans hs'
  · have hA' : y.1.ledger.Answerable (Function.update E t none) :=
      hm.answerable (by rwa [Function.update_eq_self])
    rcases hy _ hr with hs | ⟨-, hq⟩
    · -- a call for the lease of a released lock is not on its way
      obtain ⟨c, hc, -, hst, -⟩ := hA'.inside t' l _ r n co he
      obtain ⟨c', hc', hs'⟩ := (atStage_core _).1 hs
      obtain rfl := Option.some.inj (hc.symm.trans hc')
      cases hst.symm.trans hs'
    · -- the lock was idle, and nobody else was inside to apply for it
      by_cases ht : t' = t
      · subst ht
        rw [Function.update_self] at he
        cases he
      · rw [Function.update_of_ne ht] at he
        exact ht (hA.alone (core?_ledger hk) hq t' _ r n co he)

/-- A cancelled lock whose release is over is settled. -/
theorem settled_of_discharged {A : Step → Prop} {D : Deed → Prop}
    {y : World × Poll Entry Reply} (hk : w.locks[l]? = some k) (hA : w.ledger.Answerable E)
    (hm : Moves A D t (w, E t) (y.1, none)) (hc : w.isCancelled l = true)
    (hy : Discharged t l k y) (hr : y.2 = .done r) : Settled l y.1 (Function.update E t none) :=
  have h := still_of_discharged hk hA hm hy hr
  ⟨hm.outlives.isCancelled hc, h.1, h.2⟩

/-- A visit for the release of a cancelled lock begins and ends. -/
theorem settled_visit {deadline : Span} (hk : w.locks[l]? = some k) (hA : w.ledger.Answerable E)
    (he : E t = none) (hc : w.isCancelled l = true)
    (hr : (w.visit t l (.release deadline)).2 = .done r) :
    Settled l (w.visit t l (.release deadline)).1 (Function.update E t none) := by
  have hs := visit_stretch (A := fun _ => True) (D := fun _ => True) (t := t) (w := w) (l := l)
    (.release deadline)
  rw [hr, ← he] at hs
  exact settled_of_discharged hk hA hs.moves hc (discharged_visit hk deadline) hr

/-- The stage of a lock while the task waits for the answer to its release. -/
theorem atStage_of_releasing {f : Flight} {limit : Timer} (hA : w.ledger.Answerable E)
    (he : E t = some ((Entry.releasing f limit).engagement l)) : w.AtStage l .released := by
  obtain ⟨c, hc, -, hs, -⟩ := hA.inside t l _ _ _ _ he
  exact (atStage_core _).2 ⟨c, hc, hs⟩

/-- A visit for the release of a cancelled lock ends. -/
theorem settled_resumeEntry {e : Entry} (hk : w.locks[l]? = some k) (hA : w.ledger.Answerable E)
    (he : E t = some (e.engagement l)) (hcall : e.call? = some .release)
    (hc : w.isCancelled l = true) (hr : (w.resumeEntry t l e).2 = .done r) :
    Settled l (w.resumeEntry t l e).1 (Function.update E t none) := by
  have hs := resumeEntry_stretch (A := fun _ => True) (D := fun _ => True) (t := t) (w := w)
    (l := l) e
  rw [hr, ← he] at hs
  refine settled_of_discharged hk hA hs.moves hc (discharged_resumeEntry hk hcall ?_) hr
  rintro f limit rfl
  exact atStage_of_releasing hA he

end Leasehold.World
