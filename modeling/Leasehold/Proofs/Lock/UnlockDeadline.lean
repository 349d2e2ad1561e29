import Leasehold.Proofs.Lock.Promptness
import Leasehold.Proofs.World.Story

/-!
# The deadline of a release

A release that its caller has asked for has a deadline.  It begins when the release is let into the
critical section; the wait for the section has none.

* `World.AsksRelease`: the calls for a release, and their deadlines.
* `Stint.LetIn`: the stint in which a release is let in.
* `World.ReleaseUnderway`, `releaseUnderway_of_story`: how far a call for a release has come that
  waits.
* `World.unlock_deadline`: how long it can wait, and for whom.
* `World.unlock_behind_renewal`: the deadline does not bound the wait for the section.
-/

namespace Leasehold

/-- A step that has another one in the middle of it is in the middle of the same visit. -/
theorem Progress.Holds.visit? {p q : Progress} (h : q.Holds p) : p.visit? = q.visit? := by
  induction h with
  | here => rfl
  | listing _ _ _ ih | working _ _ _ ih => exact ih

namespace World

variable {A : Step → Prop} {t t' : TaskId} {w w' : World} {l : LockId} {d : Span} {s : Step}
  {x y : Stint} {xs : List Stint} {e : Entry} {f : Flight} {limit : Timer} {q : Progress}
  {owned : Bool}

/-! ### Calls for a release -/

/-- The step asks for the release of the lock: as its owner or through a handle, with the term as
the deadline, or with a deadline of its own. -/
inductive AsksRelease (w : World) (l : LockId) (d : Span) : Step → Prop
  | unlock (label : String) (k : Lock) : w.owned? label = some l → w.locks[l]? = some k →
      d = k.term.span → AsksRelease w l d (.unlock label)
  | handleUnlock (label : String) (k : Lock) : w.handle? label = some l →
      w.locks[l]? = some k → d = k.term.span → AsksRelease w l d (.handleUnlock label)
  | unlockWithin (label : String) : w.handle? label = some l →
      AsksRelease w l d (.unlockWithin label d)

/-- Nobody is at the critical section of the lock. -/
def IsFree (w : World) (l : LockId) : Prop := w.queues[l]? = some []

theorem isFree_iff {k : Lock} (hk : w.locks[l]? = some k) : w.IsFree l ↔ k.queue = [] := by
  unfold IsFree queues
  rw [List.getElem?_map, hk]
  exact Option.some_inj

theorem isFree_share : (w.share l).IsFree l ↔ w.IsFree l := by
  have hq : (w.share l).queues = w.queues := queues_updateLock fun _ => rfl
  rw [IsFree, hq, IsFree]

/-- The step begins with a visit to the critical section. -/
theorem startStep_of_asks (h : w.AsksRelease l d s) :
    ∃ owned, w.startStep t s = w.startVisit t l owned (.release d) := by
  have errand {k : Lock} (hk : w.locks[l]? = some k) : w.unlockErrand l = .release k.term.span := by
    rw [unlockErrand, hk]
  cases h with
  | unlock label k ho hk hd =>
    refine ⟨true, ?_⟩
    rw [startStep, onOwned, ho]
    dsimp only
    rw [errand hk, hd]
  | handleUnlock label k ho hk hd =>
    refine ⟨false, ?_⟩
    rw [startStep, onHandle, ho]
    dsimp only
    rw [errand hk, hd]
  | unlockWithin label ho =>
    refine ⟨false, ?_⟩
    rw [startStep, onHandle, ho]

/-! ### Visits for a release -/

/-- A visit that is let in waits for the answer to its call, until its deadline. -/
theorem waits_enter (h : (w.enter t l (.release d)).2 = .waiting e) :
    ∃ f limit, e = .releasing f limit ∧ limit.due = (w.now + d).ceilMillis := by
  cases hk : w.locks[l]? with
  | none =>
    rw [enter_of_none hk] at h
    cases h
  | some k =>
    have hl := letIn_enter (t := t) hk (.release d)
    generalize w.enter t l (.release d) = y at h hl
    cases hl with
    | observed | refused | answered | timeout => cases h
    | waiting hs hc =>
      cases hs.errand
      exact absurd rfl hc
    | @releasing _ f _ he hs =>
      cases he
      cases h
      exact ⟨f, _, rfl, congrArg (fun n : Span => (n + d).ceilMillis) hs.now⟩

/-- A visit begins: it queues, or it is let in. -/
theorem waits_visit (h : (w.visit t l (.release d)).2 = .waiting e) :
    ¬ w.IsFree l ∧ e = .queued (.release d) ∨
      w.IsFree l ∧ ∃ f limit, e = .releasing f limit ∧ limit.due = (w.now + d).ceilMillis := by
  cases hk : w.locks[l]? with
  | none =>
    rw [visit_of_none hk] at h
    cases h
  | some k =>
    rcases visit_cases (t := t) hk (.release d) with ⟨hq, hv⟩ | ⟨hq, hv⟩ <;> rw [hv] at h
    · have he := waits_enter h
      exact .inr ⟨(isFree_iff hk).2 hq, he⟩
    · cases h
      exact .inl ⟨fun hf => hq ((isFree_iff hk).1 hf), rfl⟩

/-- A visit in the queue goes on. -/
theorem waits_queued (h : (w.resumeEntry t l (.queued (.release d))).2 = .waiting e) :
    e = .queued (.release d) ∨ w.isAdmitted t l = true ∧
      ∃ f limit, e = .releasing f limit ∧ limit.due = (w.now + d).ceilMillis := by
  cases hk : w.locks[l]? with
  | none =>
    rw [resumeEntry_of_none hk] at h
    cases h
  | some k =>
    rcases resumeQueued_cases (t := t) hk (.release d) with ⟨hh, hv⟩ | ⟨-, hv⟩ <;> rw [hv] at h
    · exact .inr ⟨(isAdmitted_iff hk).2 hh, waits_enter h⟩
    · cases h
      exact .inl rfl

/-- A visit that waits for its answer goes on. -/
theorem waits_releasing (h : (w.resumeEntry t l (.releasing f limit)).2 = .waiting e) :
    ∃ f', e = .releasing f' limit := by
  cases hk : w.locks[l]? with
  | none =>
    rw [resumeEntry_of_none hk] at h
    cases h
  | some k =>
    have hr := goesOn_resumeEntry (t := t) hk (.releasing f limit)
    generalize w.resumeEntry t l (.releasing f limit) = y at h hr
    cases hr with
    | answered | interrupted | timeout => cases h
    | waiting ha hc =>
      cases ha
      exact absurd rfl hc
    | @releasing _ f' =>
      cases h
      exact ⟨f', rfl⟩

/-! ### From stint to stint -/

/-- In the stint the task is let into the critical section of the lock, or finds nobody there. -/
def Stint.LetIn (t : TaskId) (l : LockId) (x : Stint) : Prop :=
  x.start.IsFree l ∨ x.start.isAdmitted t l = true

/-- How far a call for a release has come that waits after the stints `zs`, the first of which was
`y`: it queues, or it has been let in and waits until its deadline after that. -/
inductive ReleaseUnderway (t : TaskId) (l : LockId) (d : Span) (y : Stint) (zs : List Stint) :
    Progress → Prop
  | queued (owned : Bool) : ¬ y.start.IsFree l →
      ReleaseUnderway t l d y zs (.visiting l owned (.queued (.release d)))
  | sent (owned : Bool) (f : Flight) (limit : Timer) (r : Stint) : r ∈ zs → r.LetIn t l →
      (y.start.IsFree l → r = y) → limit.due ≤ r.turn.clock + d.ceilMillis →
      ReleaseUnderway t l d y zs (.visiting l owned (.releasing f limit))

/-- The deadline of a release that is let in in a stint. -/
theorem due_le_of_start (h : x.start.clock = x.turn.clock)
    (hd : limit.due = (x.start.now + d).ceilMillis) :
    limit.due ≤ x.turn.clock + d.ceilMillis := by
  rw [hd, ← h]
  exact Span.ceilMillis_add_le (Nat.le_refl _) (Nat.le_refl _)

/-- A visit that waits is that of a step which waits. -/
theorem visiting_of_startVisit
    (h : (w.startVisit t l owned (.release d)).2 = .waiting q) :
    ∃ e, q = .visiting l owned e ∧
      ((if owned then w.share l else w).visit t l (.release d)).2 = .waiting e := by
  unfold startVisit at h
  dsimp only at h
  rcases hy : (if owned then w.share l else w).visit t l (.release d) with ⟨w', e | r⟩ <;>
    rw [hy] at h
  · cases h
    exact ⟨e, rfl, rfl⟩
  · cases h

theorem visiting_of_resumeStep (h : (w.resumeStep t (.visiting l owned e)).2 = .waiting q) :
    ∃ e', q = .visiting l owned e' ∧ (w.resumeEntry t l e).2 = .waiting e' := by
  rw [resumeStep] at h
  rcases hy : w.resumeEntry t l e with ⟨w', e' | r⟩ <;> rw [hy] at h
  · cases h
    exact ⟨e', rfl, rfl⟩
  · cases h

/-- A call for a release begins. -/
theorem releaseUnderway_first (hx : x.By t) (hr : Reachable A x.turn) (hb : x.before = .unstarted s)
    (hs : x.start.AsksRelease l d s) (hq : x.result = .waiting q) :
    ReleaseUnderway t l d x [x] q := by
  obtain ⟨owned, ho⟩ := startStep_of_asks (t := t) hs
  have hz : (x.start.startVisit t l owned (.release d)).2 = .waiting q := by
    have hg := hx.goes
    rw [hb, resumeStep] at hg
    rw [← ho, hg, hq]
  obtain ⟨e, rfl, he⟩ := visiting_of_startVisit hz
  have hfree : (if owned then x.start.share l else x.start).IsFree l ↔ x.start.IsFree l := by
    split
    · exact isFree_share
    · exact .rfl
  have hnow : (if owned then x.start.share l else x.start).now = x.start.now := by
    split <;> rfl
  rcases waits_visit he with ⟨hn, rfl⟩ | ⟨hf, f, limit, rfl, hd⟩
  · exact .queued owned fun hf => hn (hfree.2 hf)
  · refine .sent owned f limit x List.mem_cons_self (.inl (hfree.1 hf)) (fun _ => rfl) ?_
    exact due_le_of_start (hx.clock_start hr) (hnow ▸ hd)

/-- A call for a release goes on. -/
theorem ReleaseUnderway.step (h : ReleaseUnderway t l d y xs x.before) (hx : x.By t)
    (hr : Reachable A x.turn) (hq : x.result = .waiting q) :
    ReleaseUnderway t l d y (x :: xs) q := by
  have hz : (x.start.resumeStep t x.before).2 = .waiting q := by rw [hx.goes, hq]
  generalize x.before = p at h hz
  cases h with
  | queued owned hn =>
    obtain ⟨e, rfl, he⟩ := visiting_of_resumeStep hz
    rcases waits_queued he with rfl | ⟨ha, f, limit, rfl, hd⟩
    · exact .queued owned hn
    · exact .sent owned f limit x List.mem_cons_self (.inr ha) (fun hf => absurd hf hn)
        (due_le_of_start (hx.clock_start hr) hd)
  | sent owned f limit r hm hl hy hd =>
    obtain ⟨e, rfl, he⟩ := visiting_of_resumeStep hz
    obtain ⟨f', rfl⟩ := waits_releasing he
    exact .sent owned f' limit r (List.mem_cons_of_mem _ hm) hl hy hd

/-- How far a call for a release has come that waits. -/
theorem releaseUnderway_of_story (h : Story A t s (x :: xs)) (hy : (x :: xs).getLast? = some y)
    (hs : y.start.AsksRelease l d s) (hq : x.result = .waiting q) :
    ReleaseUnderway t l d y (x :: xs) q := by
  generalize hl : x :: xs = zs at h
  induction h generalizing x xs q with
  | begins hr hx hb =>
    cases hl
    cases hy
    exact releaseUnderway_first hx hr hb hs hq
  | goesOn hst hw hm hx ih =>
    cases hl
    rw [List.getLast?_cons_cons] at hy
    exact (ih hy hw rfl).step hx ((hst.reachable.tail (.poll t)).trans hm.run) hq

/-! ### The deadline -/

/-- A call for a release that is not answered either queues for the critical section, where somebody
is the first who can run or waits for the answer to a lease call, or it has been let in, and its
deadline after that has not passed.  If the section was free when the call was made, its deadline
after that has not passed. -/
theorem unlock_deadline (h : Story A t s (x :: xs)) (hy : (x :: xs).getLast? = some y)
    (hs : y.start.AsksRelease l d s) (hq : x.result = .waiting q)
    (hm : Meanwhile A t (x.turn.poll t) w) :
    ((∃ owned, q = .visiting l owned (.queued (.release d))) ∧
        (∃ t', w.First l t' ∧ (w.Runnable t' ∨ t' ≠ t ∧ w.InFlight l t')) ∨
      (∃ owned f limit, q = .visiting l owned (.releasing f limit)) ∧
        ∃ r ∈ x :: xs, r.LetIn t l ∧ w.clock ≤ r.turn.clock + d.ceilMillis) ∧
    (y.start.IsFree l → w.clock ≤ y.turn.clock + d.ceilMillis) := by
  have hx := h.stint
  have hr : Reachable A (x.turn.poll t) := h.reachable.tail (.poll t)
  have hw : Reachable A w := hr.trans hm.run
  obtain ⟨p', hh, -, ha⟩ := hx.waits h.reachable hq
  have ha := hm.activity? hr.tame ha
  have hpo := (waits_reachable hw).poised t _ ha
  have hv : (Activity.calling p').visit? = q.visit? := hh.visit?
  cases releaseUnderway_of_story h hy hs hq with
  | queued owned hn =>
    -- whoever is the first at the section is not this call, which queues
    refine ⟨.inl ⟨⟨owned, rfl⟩, ?_⟩, fun hf => absurd hf hn⟩
    have he : w.engagements t = some (.queued l (.release d)) := by
      rw [engagements_eq, ha]
      exact hh.engagement
    obtain ⟨k, hk⟩ := hpo.rests.there l _ hv
    obtain ⟨t', ht'⟩ := exists_first (t := t) hw hk (by rw [he]; rfl)
    refine ⟨t', ht', (flowing_reachable hw l t' ht').imp_right fun hin => ⟨?_, hin⟩⟩
    rintro rfl
    obtain ⟨call, r, n, co, hc⟩ := hin
    cases he.symm.trans hc
  | sent owned f limit r hmem hlet hfirst hd =>
    -- time does not pass the timer of a task that waits for it
    have hlim := hpo.rests.limit l f limit hv
    have hclock : w.clock ≤ r.turn.clock + d.ceilMillis :=
      Nat.le_trans (hlim.ahead.elim Nat.le_of_lt fun hc => Nat.le_of_eq hc.1) hd
    exact ⟨.inr ⟨⟨owned, f, limit, rfl⟩, r, hmem, hlet, hclock⟩, fun hf => hfirst hf ▸ hclock⟩

/-! ### A release that is answered late -/

/-- The deadline of a task that is about to release the lock through the handle `a`. -/
def deadlineAsked : Option Task → Option Span
  | some ⟨.calling (.unstarted (.unlockWithin "a" d)), false⟩ => some d
  | _ => none

theorem task_of_deadlineAsked {a : Option Task} (h : deadlineAsked a = some d) :
    a = some ⟨.calling (.unstarted (.unlockWithin "a" d)), false⟩ := by
  unfold deadlineAsked at h
  split at h
  · cases h
    rfl
  · cases h

/-- A task waits in the middle of its step. -/
def isCalling : Option Task → Bool
  | some ⟨.calling _, false⟩ => true
  | _ => false

theorem exists_isCalling {a : Option Task} (h : isCalling a = true) :
    ∃ p, a = some ⟨.calling p, false⟩ := by
  unfold isCalling at h
  split at h
  · exact ⟨_, rfl⟩
  · cases h

section Runs

variable {steps : List Step} {n : Nat}

/-- A release through the handle begins in a turn of a script, and waits after it. -/
theorem exists_story_afterTurns (hs : (Step.steps steps).Within A)
    (hup : (afterTurns steps n).upNext? = some t)
    (hask : deadlineAsked (afterTurns steps n).tasks[t]? = some d)
    (hwait : isCalling (afterTurns steps (n + 1)).tasks[t]? = true) :
    ∃ x q, Story A t (.unlockWithin "a" d) [x] ∧ x.turn = afterTurns steps n ∧
      x.start = (afterTurns steps n).atTurn t ∧ x.result = .waiting q := by
  have ht := task_of_deadlineAsked hask
  obtain ⟨q, hq⟩ := exists_isCalling hwait
  exact ⟨_, q, Story.begins_whole (reachable_afterTurns hs n) ht, rfl, rfl,
    waiting_afterTurns hs hup ht hq⟩

end Runs

/-- The service takes ten minutes for the release, and half a second passes. -/
def slowRelease : List Step :=
  [.create "a" "alpha" (.ofSeconds 15) [] "p" ⟨"i"⟩, .acquireOnce "a",
    .plan .release ⟨.ofSeconds 600, none, .zero, none⟩ 1,
    .spawn "u" (.unlockWithin "a" (.ofSeconds 1)), .sleep (.ofMillis 500)]

theorem within_slowRelease : (Step.steps slowRelease).Within fun _ => True := by
  simp [slowRelease, Step.Within, Step.AllWithin]

/-- The release waits for its answer, within its deadline. -/
theorem unlock_deadline_unanswered : ∃ x q, Story (fun _ => True) 1
      (.unlockWithin "a" (.ofSeconds 1)) [x] ∧ x.turn.clock = 0 ∧ x.start.IsFree 0 ∧
    x.result = .waiting q ∧ Meanwhile (fun _ => True) 1 (x.turn.poll 1) (afterTurns slowRelease 7) ∧
    (afterTurns slowRelease 7).clock = 500 ∧ (afterTurns slowRelease 7).clock ≤ 1000 := by
  obtain ⟨x, q, hstory, hturn, hstart, hq⟩ := exists_story_afterTurns
    (A := fun _ => True) (d := .ofSeconds 1) within_slowRelease
    (by decide +kernel : (afterTurns slowRelease 4).upNext? = some 1) (by decide +kernel)
    (by decide +kernel)
  have hm : Meanwhile (fun _ => True) 1 (x.turn.poll 1) (afterTurns slowRelease (2 + 5)) := by
    rw [hturn, poll_afterTurns (by decide +kernel)]
    exact meanwhile_afterTurns (by decide +kernel)
  have hclock : x.turn.clock = 0 := by rw [hturn]; decide +kernel
  have hfree : x.start.IsFree 0 := by rw [hstart, IsFree]; decide +kernel
  have hask : x.start.AsksRelease 0 (.ofSeconds 1) (.unlockWithin "a" (.ofSeconds 1)) :=
    .unlockWithin "a" (by rw [hstart]; decide +kernel)
  refine ⟨x, q, hstory, hclock, hfree, hq, hm, by decide +kernel, ?_⟩
  have hle : _ ≤ x.turn.clock + _ := (unlock_deadline hstory rfl hask hq hm).2 hfree
  rwa [hclock] at hle

/-- The service takes ten minutes for a renewal, a release is asked for, and half a minute
passes. -/
def slowRenewal : List Step :=
  [.create "a" "alpha" (.ofSeconds 15) [] "p" ⟨"i"⟩, .acquireOnce "a",
    .plan .renew ⟨.ofSeconds 600, none, .zero, none⟩ 1, .spawn "r" (.handleRenew "a"),
    .spawn "u" (.unlockWithin "a" (.ofSeconds 1)), .sleep (.ofSeconds 30)]

theorem within_slowRenewal : (Step.steps slowRenewal).Within fun _ => True := by
  simp [slowRenewal, Step.Within, Step.AllWithin]

/-- Behind the renewal the release, with a deadline of one second, is not answered after thirty. -/
theorem unlock_behind_renewal : ¬ ∀ (A : Step → Prop) (t : TaskId) (s : Step) (x y : Stint)
      (xs : List Stint) (l : LockId) (d : Span) (q : Progress) (w : World),
    Story A t s (x :: xs) → (x :: xs).getLast? = some y → y.start.AsksRelease l d s →
      x.result = .waiting q → Meanwhile A t (x.turn.poll t) w →
      w.clock ≤ y.turn.clock + d.ceilMillis := by
  intro hall
  obtain ⟨x, q, hstory, hturn, hstart, hq⟩ := exists_story_afterTurns
    (A := fun _ => True) (d := .ofSeconds 1) within_slowRenewal
    (by decide +kernel : (afterTurns slowRenewal 6).upNext? = some 2) (by decide +kernel)
    (by decide +kernel)
  have hm : Meanwhile (fun _ => True) 2 (x.turn.poll 2) (afterTurns slowRenewal (2 + 7)) := by
    rw [hturn, poll_afterTurns (by decide +kernel)]
    exact meanwhile_afterTurns (by decide +kernel)
  have hask : x.start.AsksRelease 0 (.ofSeconds 1) (.unlockWithin "a" (.ofSeconds 1)) :=
    .unlockWithin "a" (by rw [hstart]; decide +kernel)
  have hle := hall _ 2 _ x x [] 0 _ q _ hstory rfl hask hq hm
  rw [hturn] at hle
  exact absurd hle (by decide +kernel)

end World

end Leasehold
