import Leasehold.Proofs.Lock.Discharge
import Leasehold.Proofs.Lock.Teardown

/-!
# The notice of a loss

A renewal by the renewal loop that the store or the way to it refuses is the loss of a lock that is
acquired and not cancelled, and nothing else is.  A renewal can fail for other reasons: the lock was
released or cancelled between the look at its stage and the call.  As long as no release call is
dropped, in both cases the lock is cancelled before the loop learns of it.

* `World.Fails`: a call is answered with an error in a step of a run.
* `World.Noticed`: what a turn of the renewal loop has come to.
* `World.noticed_turn`: every turn of a renewal loop comes to that.
* `World.loss_notice`: a loss is raised in the steps in which a renewal fails, and in no others.
-/

namespace Leasehold

/-- The loss of a lock by a renewal that was answered with an error. -/
def Lock.lossBy (k : Lock) (e : CallFailure) : Loss :=
  ⟨k.name.text, k.id, (World.failureFor k e).message⟩

/-- The answer to a call, if it is here. -/
def Poll.answer? : Poll Flight Answer → Option Answer
  | .waiting _ => none
  | .done a => some a

namespace World

variable {A : Step → Prop} {t : TaskId} {w w' w₀ : World} {l : LockId} {k : Lock}
  {E : TaskId → Option Engagement} {e : CallFailure} {r : Request} {n : Nat} {v : Watcher}
  {o : Option TaskId}

/-! ### Answers -/

/-- Between the two worlds the call with the number `n`, for the request `r`, was answered with an
error. -/
structure Fails (w w' : World) (r : Request) (n : Nat) (e : CallFailure) : Prop where
  answered : ∃ rec, w'.log[n]? = some rec ∧ rec.request = r ∧ rec.answer = some (.error e)
  unanswered : ∀ rec, w.log[n]? = some rec → rec.answer = none

/-- Between the two worlds no call for the request was answered with an error. -/
structure Unharmed (w w' : World) (r : Request) : Prop where
  grown : w.log.length ≤ w'.log.length
  harmless : ∀ n e, ¬ w.Fails w' r n e

/-- Between the two worlds a call for the request was answered with the error, and none with another
one. -/
structure Reported (w w' : World) (r : Request) (e : CallFailure) : Prop where
  fails : ∃ n, w.Fails w' r n e
  only : ∀ n e', w.Fails w' r n e' → e' = e

/-- What the answer to a call means for the calls between the two worlds. -/
def Told (w w' : World) (r : Request) : Option Answer → Prop
  | none | some (.ok _) => w.Unharmed w' r
  | some (.error e) => w.Reported w' r e

theorem Unharmed.refl (w : World) (r : Request) : w.Unharmed w r where
  grown := Nat.le_refl _
  harmless n e h := by
    obtain ⟨⟨rec, hn, -, ha⟩, hu⟩ := h
    rw [hu rec hn] at ha
    cases ha

theorem Fails.of_log {w'' : World} (h : w.Fails w'' r n e) (hl : w''.log = w'.log) :
    w.Fails w' r n e :=
  ⟨by rw [← hl]; exact h.answered, h.unanswered⟩

theorem Unharmed.of_log {w'' : World} (h : w.Unharmed w' r) (hl : w''.log = w'.log) :
    w.Unharmed w'' r :=
  ⟨by rw [hl]; exact h.grown, fun n e hf => h.harmless n e (hf.of_log hl)⟩

theorem Reported.of_log {w'' : World} (h : w.Reported w' r e) (hl : w''.log = w'.log) :
    w.Reported w'' r e := by
  obtain ⟨n, hn⟩ := h.fails
  exact ⟨⟨n, hn.of_log hl.symm⟩, fun n e' hf => h.only n e' (hf.of_log hl)⟩

/-- If all failures are those of one record, its answer tells them. -/
theorem told_of_record {rec : CallRecord} (hg : w.log.length ≤ w'.log.length)
    (hn : w'.log[n]? = some rec) (hr : rec.request = r)
    (hu : ∀ rec, w.log[n]? = some rec → rec.answer = none)
    (ho : ∀ m e, w.Fails w' r m e → m = n) : w.Told w' r rec.answer := by
  have only : ∀ m e, w.Fails w' r m e → rec.answer = some (.error e) := fun m e hf => by
    obtain rfl := ho m e hf
    obtain ⟨rec', hn', -, ha⟩ := hf.answered
    obtain rfl := Option.some.inj (hn'.symm.trans hn)
    exact ha
  rcases ha : rec.answer with _ | e | u
  · exact ⟨hg, fun m e hf => by cases (only m e hf).symm.trans ha⟩
  · refine ⟨⟨n, ⟨rec, hn, hr, ha⟩, hu⟩, fun m e' hf => ?_⟩
    cases (only m e' hf).symm.trans ha
    rfl
  · exact ⟨hg, fun m e hf => by cases (only m e hf).symm.trans ha⟩

/-- One more call. -/
theorem told_append {time : Span} {a : Option Answer} (h : w₀.Unharmed w r)
    (hl : w'.log = w.log ++ [⟨time, r, a⟩]) : w₀.Told w' r a := by
  have hn : w'.log[w.log.length]? = some ⟨time, r, a⟩ := by rw [hl, List.getElem?_concat_length]
  refine told_of_record ?_ hn rfl ?_ ?_
  · rw [hl, List.length_append]
    exact Nat.le_add_right_of_le h.grown
  · intro rec hn
    rw [List.getElem?_eq_none h.grown] at hn
    cases hn
  · intro m e hf
    obtain ⟨rec, hm, hr, ha⟩ := hf.answered
    rw [hl] at hm
    rcases getElem?_concat_cases hm with hm | ⟨hm, -⟩
    · exact absurd ⟨⟨rec, hm, hr, ha⟩, hf.unanswered⟩ (h.harmless m e)
    · exact hm

/-- The answer to a call that was on its way. -/
theorem told_modify {rec : CallRecord} {a : Answer} (hn : w.log[n]? = some rec)
    (hr : rec.request = r) (ha : rec.answer = none)
    (hl : w'.log = w.log.modify n fun rec => { rec with answer := some a }) :
    w.Told w' r (some a) := by
  have hn' : w'.log[n]? = some { rec with answer := some a } := by
    rw [hl, List.getElem?_modify_eq, hn]
    rfl
  refine told_of_record ?_ hn' hr ?_ ?_
  · exact Nat.le_of_eq (by rw [hl, List.length_modify])
  · intro rec' hn'
    obtain rfl := Option.some.inj (hn'.symm.trans hn)
    exact ha
  · intro m e hf
    obtain ⟨rec', hm, hr', ha'⟩ := hf.answered
    by_contra hne
    rw [hl, List.getElem?_modify_ne _ _ (Ne.symm hne)] at hm
    exact (Unharmed.refl w r).harmless m e ⟨⟨rec', hm, hr', ha'⟩, hf.unanswered⟩

/-- A call has come to `y`, and its record in the log shows the answer to it. -/
def Shown (log : List CallRecord) (n : Nat) (y : World × Poll Flight Answer) : Prop :=
  y.1.log = match y.2.answer? with
    | none => log
    | some a => log.modify n fun rec => { rec with answer := some a }

theorem shown_answered (n : Nat) (a : Answer) : Shown w.log n (w.answered n a, .done a) := rfl

theorem shown_waiting (n : Nat) (f : Flight) : Shown w.log n (w, .waiting f) := rfl

theorem shown_arrive (w : World) (n : Nat) (r : Request) (p : Plan) :
    Shown w.log n (w.arrive n r p) := by
  unfold arrive
  dsimp only
  rw [← log_settleCall (w := w) r p]
  split
  · exact shown_answered n _
  · exact shown_waiting n _

theorem shown_fly (w : World) (f : Flight) : Shown w.log f.record (w.fly f) := by
  unfold fly
  split
  · split
    · exact shown_arrive w _ _ _
    · exact shown_answered f.record _
  · exact shown_waiting f.record f

theorem shown_issue (w : World) (r : Request) :
    Shown (w.log ++ [⟨w.now, r, none⟩]) w.log.length (w.issue r) := by
  have hs := log_sent (w := w) r
  have hl : (w.takePlan r.operation).1.log.length = w.log.length := by rw [log_takePlan]
  unfold issue
  dsimp only
  rw [hl, ← hs]
  split
  · exact shown_arrive (w.sent r) _ _ _
  · rfl

theorem told_issue (h : w₀.Unharmed w r) : w₀.Told (w.issue r).1 r (w.issue r).2.answer? := by
  have hs := shown_issue w r
  rcases hy : w.issue r with ⟨w', f | a⟩ <;> rw [hy] at hs
  · exact told_append h hs
  · exact told_append h (hs.trans (modify_concat_length w.log _ _))

theorem told_fly {f : Flight} {rec : CallRecord} (hn : w.log[f.record]? = some rec)
    (hr : rec.request = r) (ha : rec.answer = none) :
    w.Told (w.fly f).1 r (w.fly f).2.answer? := by
  have hs := shown_fly w f
  rcases hy : w.fly f with ⟨w', f' | a⟩ <;> rw [hy] at hs
  · exact (Unharmed.refl w r).of_log hs
  · exact told_modify hn hr ha hs

/-! ### Visits of the renewal loop -/

/-- The lock is as it was, but for its queue. -/
def Stands (w : World) (l : LockId) (k : Lock) : Prop :=
  ∃ q, w.locks[l]? = some { k with queue := q }

theorem Stands.of_locks (h : w.Stands l k) (hl : w'.locks = w.locks) : w'.Stands l k := by
  rwa [Stands, hl]

theorem Stands.updateQueue (h : w.Stands l k) (f : List TaskId → List TaskId) :
    (w.updateLock l fun k => { k with queue := f k.queue }).Stands l k := by
  obtain ⟨q, hk⟩ := h
  refine ⟨f q, ?_⟩
  rw [getElem?_updateLock, if_pos rfl, hk]
  rfl

theorem Stands.leave (h : w.Stands l k) (t : TaskId) : (w.leave t l).Stands l k :=
  (h.updateQueue (·.erase t)).of_locks (quiet_leave w t l).locks

/-- What the loop's visit has come to: no renewal has failed, or the visit ends with the error of
the one that has, and the lock is acquired. -/
structure Tried (w₀ : World) (l : LockId) (k : Lock) (y : World × Poll Entry Reply) : Prop where
  stands : y.1.Stands l k
  unharmed : (∀ e, y.2 ≠ .done (.error e)) → w₀.Unharmed y.1 (k.request .renew)
  failed : ∀ e, y.2 = .done (.error e) → k.stage = .acquired ∧
    ∃ e', e = failureFor k e' ∧ w₀.Reported y.1 (k.request .renew) e'

theorem tried_waiting (hk : w.Stands l k) (h : w₀.Unharmed w (k.request .renew)) (e : Entry) :
    Tried w₀ l k (w, .waiting e) :=
  ⟨hk, fun _ => h, fun _ he => by cases he⟩

theorem tried_ok (hk : w.Stands l k) (h : w₀.Unharmed w (k.request .renew)) (s : Stage) :
    Tried w₀ l k (w.reply t l (.ok s)) :=
  ⟨hk.leave t, fun _ => h.of_log (log_leave t), fun _ he => by cases he⟩

theorem tried_takeAnswer {q : List TaskId} {a : Answer} (hk : w.Stands l k)
    (hs : k.stage = .acquired) (h : w₀.Told w (k.request .renew) (some a)) :
    Tried w₀ l k (w.takeAnswer t l { k with queue := q } .renew a) := by
  cases a with
  | ok u => exact tried_ok hk h _
  | error e =>
    refine ⟨hk.leave t, fun hne => absurd rfl (hne _), fun e' he => ?_⟩
    cases he
    exact ⟨hs, e, by cases e <;> rfl, Reported.of_log h (log_leave t)⟩

/-- The errands of the renewal loop: a look, or the renewal of an acquired lock. -/
def Tries (k : Lock) (errand : Errand) : Prop :=
  errand = .observe ∨ errand = .renew ∧ k.stage = .acquired

variable {errand : Errand}

theorem tried_enter (hk : w.Stands l k) (hc : k.cancelled = false)
    (h : w₀.Unharmed w (k.request .renew)) (he : Tries k errand) :
    Tried w₀ l k (w.enter t l errand) := by
  obtain ⟨q, hq⟩ := id hk
  obtain rfl | ⟨rfl, hs⟩ := he
  · rw [enter_observe hq]
    exact tried_ok hk h _
  · have hsends {w' p} (hy : w.Sends l { k with queue := q } .renew .renew (w', p)) :
        w'.Stands l k ∧ w₀.Told w' (k.request .renew) p.answer? := by
      have hi : w.issue (k.request .renew) = (w', p) := hy.issued_staying hq (by decide)
      have ht := told_issue h
      rw [hi] at ht
      exact ⟨hk.of_locks (hy.locks_staying hq (by decide)), ht⟩
    have hl := letIn_enter (t := t) hq .renew
    generalize w.enter t l .renew = y at hl ⊢
    cases hl with
    | observed he | releasing he | timeout he => cases he
    | refused call he hr =>
      cases he
      cases hr.symm.trans (refusal_eq_none_iff.2 ⟨hs, fun _ => hc⟩)
    | answered hy =>
      cases hy.errand
      obtain ⟨hk', ht⟩ := hsends hy
      exact tried_takeAnswer hk' hs ht
    | @waiting _ w' _ _ hy =>
      cases hy.errand
      obtain ⟨hk', ht⟩ := hsends hy
      have hquiet := quiet_takeTicket w'
      exact tried_waiting (hk'.of_locks hquiet.locks) (Unharmed.of_log ht hquiet.log) _

theorem tried_visit (hk : w.Stands l k) (hc : k.cancelled = false)
    (h : w₀.Unharmed w (k.request .renew)) (he : Tries k errand) :
    Tried w₀ l k (w.visit t l errand) := by
  obtain ⟨q, hq⟩ := id hk
  rcases visit_cases (t := t) hq errand with ⟨-, hv⟩ | ⟨-, hv⟩ <;> rw [hv]
  · exact tried_enter (hk.updateQueue (· ++ [t])) hc (h.of_log rfl) he
  · exact tried_waiting (hk.updateQueue (· ++ [t])) (h.of_log rfl) _

theorem tried_resumeEntry {e : Entry} (hk : w.locks[l]? = some k) (hc : k.cancelled = false)
    (he : e.call? = none ∨ e.call? = some .renew)
    (hq : ∀ errand, e = .queued errand → k.queue.head? = some t → Tries k errand)
    (hf : ∀ f n, e = .renewing f n → k.stage = .acquired ∧
      ∃ rec, w.log[f.record]? = some rec ∧ rec.request = k.request .renew ∧ rec.answer = none) :
    Tried w l k (w.resumeEntry t l e) := by
  have hs : w.Stands l k := ⟨k.queue, hk⟩
  cases e with
  | queued errand =>
    rcases resumeQueued_cases (t := t) hk errand with ⟨hh, hv⟩ | ⟨-, hv⟩ <;> rw [hv]
    · exact tried_enter hs hc (.refl w _) (hq errand rfl hh)
    · exact tried_waiting hs (.refl w _) _
  | renewing f n =>
    obtain ⟨hst, rec, hn, hr, ha⟩ := hf f n rfl
    have ht := told_fly hn hr ha
    have hfly {y} (hy : w.fly f = y) : y.1.Stands l k := hs.of_locks (hy ▸ locks_fly w f)
    have hr := goesOn_resumeEntry (t := t) hk (.renewing f n)
    generalize w.resumeEntry t l (.renewing f n) = y at hr ⊢
    cases hr with
    | answered ha hy =>
      cases ha
      rw [hy] at ht
      exact tried_takeAnswer (q := k.queue) (hfly hy) hst ht
    | waiting ha _ hy =>
      cases ha
      rw [hy] at ht
      exact tried_waiting (hfly hy) ht _
    | @interrupted _ _ _ _ w' ha _ hy hx =>
      cases ha
      have hk' : w'.locks[l]? = some k := by rw [← hk, ← locks_fly w f, hy]
      cases hx.symm.trans ((isCancelled_eq hk').trans hc)
  | acquiring f n => rcases he with he | he <;> cases he
  | releasing f limit => rcases he with he | he <;> cases he

/-! ### Rounds of the renewal loop -/

/-- What a turn of the renewal loop has come to: no renewal has failed, or the one that has is the
loss of the lock. -/
inductive Noticed (w₀ : World) (l : LockId) (k : Lock) (w : World) : Prop
  | unharmed : w₀.Unharmed w (k.request .renew) → w.Stands l k → Noticed w₀ l k w
  | lost (e : CallFailure) : k.stage = .acquired → w₀.Reported w (k.request .renew) e →
      w.lossOf l = some (k.lossBy e) → Noticed w₀ l k w

theorem Noticed.congr (h : Noticed w₀ l k w) (hl : w'.locks = w.locks) (hg : w'.log = w.log) :
    Noticed w₀ l k w' := by
  cases h with
  | unharmed hu hs => exact .unharmed (hu.of_log hg) (hs.of_locks hl)
  | lost e hst hr hloss => exact .lost e hst (hr.of_log hg) ((lossOf_of_locks hl).trans hloss)

/-- What a round has come to: it goes on only if no renewal has failed. -/
structure RoundNoticed (w₀ : World) (l : LockId) (k : Lock) (y : World × Round) : Prop where
  next : ∀ tick, y.2 = .next tick → w₀.Unharmed y.1 (k.request .renew) ∧ y.1.Stands l k
  halted : ∀ p, y.2 = .halted p → Noticed w₀ l k y.1

theorem roundNoticed_next (h : w₀.Unharmed w (k.request .renew)) (hs : w.Stands l k)
    (tick : Span) : RoundNoticed w₀ l k (w, .next tick) :=
  ⟨fun _ _ => ⟨h, hs⟩, fun _ hp => by cases hp⟩

theorem roundNoticed_halted (h : Noticed w₀ l k w) (p : Poll Watcher Unit) :
    RoundNoticed w₀ l k (w, .halted p) :=
  ⟨fun _ ht => (by cases ht), fun _ _ => h⟩

/-- The loss of a lock without one is the one that is raised. -/
theorem lossOf_raiseLoss (hk : w.Stands l k) (hn : k.lossCell.loss = none) (reason : String) :
    (w.raiseLoss l reason).lossOf l = some ⟨k.name.text, k.id, reason⟩ := by
  obtain ⟨q, hk⟩ := hk
  rw [lossOf_of_locks (quiet_raiseLoss w l reason).locks, lossOf, getElem?_updateLock, if_pos rfl,
    hk]
  show (k.lossCell.raise _).1.loss = _
  rw [LossCell.raise, hn]

variable (hc : k.cancelled = false) (hn : k.lossCell.loss = none)

include hc hn

theorem noticed_afterRenewal {reply : Reply} (h : Tried w₀ l k (w, .done reply)) (tick : Span) :
    RoundNoticed w₀ l k (w.afterRenewal l tick reply) := by
  cases reply with
  | ok s => exact roundNoticed_next (h.unharmed fun e he => by cases he) h.stands tick
  | error e =>
    obtain ⟨hs, e', rfl, hr⟩ := h.failed e rfl
    obtain ⟨q, hk⟩ := h.stands
    unfold afterRenewal
    dsimp only
    rw [if_neg (by rw [isCancelled_eq hk, hc]; decide)]
    refine roundNoticed_halted (.lost e' hs ?_ (lossOf_raiseLoss h.stands hn _)) _
    exact hr.of_log (quiet_raiseLoss w l _).log

/-- The loop has seen the stage of the lock, which is still the same. -/
theorem noticed_afterLook (hs : w.Stands l k) (h : w₀.Unharmed w (k.request .renew)) (tick : Span) :
    RoundNoticed w₀ l k (w.afterLook t l tick (.ok k.stage)) := by
  unfold afterLook
  cases hst : k.stage with
  | idle => exact roundNoticed_next h hs tick
  | released => exact roundNoticed_halted (.unharmed h hs) _
  | acquired =>
    have hv := tried_visit (t := t) hs hc h (.inr ⟨rfl, hst⟩)
    dsimp only
    rcases hy : w.visit t l .renew with ⟨w', e | r⟩ <;> rw [hy] at hv
    · exact roundNoticed_halted (.unharmed (hv.unharmed fun _ he => by cases he) hv.stands) _
    · exact noticed_afterRenewal hc hn hv tick

theorem noticed_takeTick (hs : w.Stands l k) (h : w₀.Unharmed w (k.request .renew))
    (tick period : Span) : RoundNoticed w₀ l k (w.takeTick t l tick period) := by
  obtain ⟨q, hk⟩ := id hs
  have hv := tried_visit (t := t) hs hc h (.inl rfl)
  have ho := observed_visit (t := t) hk
  unfold takeTick
  dsimp only
  rcases hy : w.visit t l .observe with ⟨w', e | r⟩ <;> rw [hy] at hv ho
  · exact roundNoticed_halted (.unharmed (hv.unharmed fun _ he => by cases he) hv.stands) _
  · obtain ⟨rfl, -⟩ := ho.answer r rfl
    exact noticed_afterLook hc hn hv.stands (hv.unharmed fun _ he => by cases he) _

omit hc hn in
theorem noticed_holdTick (hs : w.Stands l k) (h : w₀.Unharmed w (k.request .renew))
    (tick : Span) : Noticed w₀ l k (w.holdTick l tick).1 := by
  unfold holdTick
  split
  · exact .unharmed h hs
  · exact .unharmed (h.of_log rfl) (hs.of_locks rfl)

theorem noticed_endRound {y : World × Round} (h : RoundNoticed w₀ l k y) (period : Span) :
    Noticed w₀ l k (y.1.endRound t l period y.2).1 := by
  obtain ⟨w, p | tick⟩ := y
  · exact h.halted p rfl
  · obtain ⟨hu, hs⟩ := h.next tick rfl
    unfold endRound
    dsimp only
    split
    · exact .unharmed hu hs
    · split
      · have ht := noticed_takeTick (t := t) hc hn hs hu tick period
        rcases hy : w.takeTick t l tick period with ⟨w', p | later⟩ <;> rw [hy] at ht
        · exact ht.halted p rfl
        · obtain ⟨hu', hs'⟩ := ht.next later rfl
          exact noticed_holdTick hs' hu' later
      · exact noticed_holdTick hs hu tick

/-! ### Turns of the renewal loop -/

omit hn in
/-- A task that is let in for a renewal of a begun lock finds it acquired: the release call of a
released lock that is not cancelled would be on its way inside. -/
theorem acquired_of_admitted (hk : w.locks[l]? = some k) (hA : w.ledger.Answerable E)
    (hT : Torn l w E) (he : E t = some (.queued l errand)) (hb : w.Begun l)
    (hq : k.queue.head? = some t) : k.stage = .acquired := by
  cases hs : k.stage with
  | acquired => rfl
  | idle =>
    obtain ⟨k', hk', hi⟩ := hb
    obtain rfl := Option.some.inj (hk.symm.trans hk')
    exact absurd hs hi
  | released =>
    rcases hT k hk hs with hc' | ⟨t', e, he', r, n, co, rfl⟩
    · rw [hc] at hc'
      cases hc'
    · have ht : t' = t := hA.alone (core?_ledger hk)
        (fun t₁ h₁ => Option.some.inj (h₁.symm.trans hq)) t' _ r n co he'
      rw [ht, he] at he'
      cases he'

/-- A turn of a renewal loop of a lock that is not cancelled. -/
theorem noticed_resumeWatcher (hk : w.locks[l]? = some k) (hA : w.ledger.Answerable E)
    (hT : Torn l w E) (he : E t = v.engagement l) (hf : w.Fits l v) (hv : v.Loops) :
    Noticed w l k (w.resumeWatcher t l v).1 := by
  have hs : w.Stands l k := ⟨k.queue, hk⟩
  have hu := Unharmed.refl w (k.request .renew)
  unfold resumeWatcher
  rw [hk]
  cases v with
  | renewalStart => exact noticed_holdTick hs hu _
  | renewalTick tick timer n =>
    dsimp only
    split
    · exact .unharmed hu hs
    · split
      · exact noticed_endRound hc hn (noticed_takeTick hc hn hs hu tick _) _
      · exact .unharmed hu hs
  | renewalLook tick e =>
    obtain rfl : e = .queued .observe := by
      cases e with
      | queued errand => cases errand <;> first | rfl | cases hf
      | acquiring | renewing | releasing => cases hf
    have hy := tried_resumeEntry (t := t) hk hc (.inl rfl)
      (fun errand he _ => .inl (Entry.queued.inj he).symm) fun f n he => by cases he
    have ho := observed_resumeEntry (t := t) hk
    dsimp only
    rcases hr : w.resumeEntry t l (.queued .observe) with ⟨w', e' | r⟩ <;> rw [hr] at hy ho
    · exact .unharmed (hy.unharmed fun _ he => by cases he) hy.stands
    · obtain ⟨rfl, -⟩ := ho.answer r rfl
      exact noticed_endRound hc hn
        (noticed_afterLook hc hn hy.stands (hy.unharmed fun _ he => by cases he) tick) _
  | renewalCall tick e =>
    have hy : Tried w l k (w.resumeEntry t l e) := by
      refine tried_resumeEntry hk hc (.inr hf.1) ?_ ?_
      · rintro errand rfl hq
        have herrand : errand = .renew := by
          cases errand <;> first | rfl | cases hf.1
        exact .inr ⟨herrand, acquired_of_admitted hc hk hA hT he hf.2 hq⟩
      · rintro f n rfl
        obtain ⟨c, hkc, -, hst, hreq⟩ := hA.inside t l _ _ _ _ he
        obtain rfl := Option.some.inj (hkc.symm.trans (core?_ledger hk))
        obtain ⟨rec, hn, ha, hr⟩ := hA.pending t _ f.record he rfl
        rw [Lock.request_core] at hreq
        exact ⟨hst, rec, hn, (Option.some.inj hr).symm.trans hreq.symm, ha⟩
    dsimp only
    rcases hr : w.resumeEntry t l e with ⟨w', e' | r⟩ <;> rw [hr] at hy
    · exact .unharmed (hy.unharmed fun _ he => by cases he) hy.stands
    · exact noticed_endRound hc hn (noticed_afterRenewal hc hn hy tick) _
  | _ => cases hv

omit hc hn

theorem Fails.since {w₁ : World} (h : w₁.Fails w r n e) (hl : w₁.log = w₀.log) :
    w₀.Fails w r n e := ⟨h.answered, by rw [← hl]; exact h.unanswered⟩

theorem Noticed.since {w₁ : World} (h : Noticed w₁ l k w) (hl : w₁.log = w₀.log) :
    Noticed w₀ l k w := by
  cases h with
  | unharmed hu hs =>
    refine .unharmed ⟨?_, fun n e hf => hu.harmless n e (hf.since hl.symm)⟩ hs
    rw [← hl]
    exact hu.grown
  | lost e hst hr hloss =>
    obtain ⟨n, hf⟩ := hr.fails
    exact .lost e hst ⟨⟨n, hf.since hl⟩, fun m e' hf => hr.only m e' (hf.since hl.symm)⟩ hloss

/-- As long as no release call of the lock is dropped, every turn of one of its renewal loops comes
to nothing or to the loss by a renewal that has failed, unless the lock is cancelled. -/
theorem noticed_turn (h : Unbroken A l w) (hk : w.locks[l]? = some k) (hc : k.cancelled = false)
    (ha : w.activity? t = some (.watching l v)) (hv : v.Loops) : Noticed w l k (w.poll t) := by
  have hw := Unbroken.reachable h
  have hn : k.lossCell.loss = none := by
    cases hl : k.lossCell.loss with
    | none => rfl
    | some loss =>
      have := (lost_reachable hw l loss ((lossOf_eq hk).trans hl)).1
      rw [isCancelled_eq hk, hc] at this
      cases this
  have hf : w.Fits l v := Reachable.tame hw t _ ha
  have he : w.engagements t = v.engagement l := by rw [engagements_eq, ha]; rfl
  have hT : Torn l (w.atTurn t) w.engagements := torn_unbroken h
  have hA : (w.atTurn t).ledger.Answerable w.engagements := answerable_reachable hw
  have hy := noticed_resumeWatcher (w := w.atTurn t) hc hn hk hA hT he hf hv
  have hq := poll_watching ha
  exact (hy.congr hq.locks hq.log).since rfl

/-- The call with the number is on its way for the task, or it is not sent yet. -/
def Owns (w : World) (t : TaskId) (n : Nat) : Prop :=
  w.log.length ≤ n ∨ ∃ e, w.engagements t = some e ∧ e.record? = some n

/-- In a turn of a watcher only its own calls are answered. -/
theorem owns_of_fails (hw : w.Tame A) (ha : w.activity? t = some (.watching l v))
    (hf : w.Fails (w.poll t) r n e) : w.Owns t n := by
  by_contra hne
  obtain ⟨hlt, hown⟩ := not_or.1 hne
  obtain ⟨rec, hn⟩ : ∃ rec, w.log[n]? = some rec :=
    ⟨_, List.getElem?_eq_getElem (Nat.lt_of_not_le hlt)⟩
  have hT := turn_watching (A := A) ha (hw t _ ha)
  have hc : ∀ e, v.engagement l = some e → e.record? ≠ some n := fun e he hr =>
    hown ⟨e, by rw [engagements_eq, ha]; exact he, hr⟩
  have hkept : ((w.atTurn t).resumeWatcher t l v).1.log[n]? = some rec :=
    (hT.stretch.moves.log_kept (w := w.atTurn t) hn hc).1
  obtain ⟨rec', hn', -, ha'⟩ := hf.answered
  rw [(poll_watching ha).log] at hn'
  obtain rfl := Option.some.inj (hn'.symm.trans hkept)
  rw [hf.unanswered rec' hn] at ha'
  cases ha'

/-- A step raises no loss, unless it is a turn of a renewal loop of the lock. -/
theorem loops_of_lost (hw : w.Tame A) (hn : NextBy A w o w') (hl : w'.lossOf l ≠ w.lossOf l) :
    ∃ t v, o = some t ∧ w.activity? t = some (.watching l v) ∧ v.Loops := by
  by_contra hne
  have hI : Kept A (fun D => ¬ D (.lose l)) fun w₁ _ => w₁.lossOf l = w.lossOf l := by
    refine ⟨fun w₁ w₂ _ hu h => ?_, fun _ _ _ _ h => h, fun D w₁ w₂ E t c' hD h hm => ?_⟩
    · rwa [lossOf_of_locks hu.locks]
    · rcases hm.lossOf (l := l) with he | ⟨hD', -⟩
      · rw [he, h]
      · exact absurd hD' hD
  refine hl (hI.next hw rfl hn ?_)
  rintro t ht ⟨v, ha, hv⟩
  exact hne ⟨t, v, ht, ha, hv⟩

/-- A step that raises the loss of a lock is a turn of a loop whose own renewal fails in it. -/
theorem fails_of_lost (h : Unbroken A l w) (hk : w.locks[l]? = some k) (hn : NextBy A w o w')
    {loss : Loss} (hnone : w.lossOf l = none) (hloss : w'.lossOf l = some loss) :
    ∃ t v n e, o = some t ∧ w.activity? t = some (.watching l v) ∧ v.Loops ∧
      k.stage = .acquired ∧ k.cancelled = false ∧ w.Owns t n ∧
      w.Fails w' (k.request .renew) n e ∧ loss = k.lossBy e := by
  have hw := Unbroken.reachable h
  have htame := Reachable.tame hw
  have hne : w'.lossOf l ≠ w.lossOf l := by rw [hnone, hloss]; exact Option.some_ne_none loss
  obtain ⟨t, v, rfl, ha, hv⟩ := loops_of_lost htame hn hne
  cases hn with
  | poll =>
    -- the loss of a cancelled lock would not have changed
    have hc : k.cancelled = false := by
      cases hc : k.cancelled with
      | false => rfl
      | true => exact absurd (lossOf_run hw ((isCancelled_eq hk).trans hc) (.single (.poll t))) hne
    cases noticed_turn h hk hc ha hv with
    | unharmed _ hs =>
      obtain ⟨q, hq⟩ := hs
      rw [lossOf_eq hk] at hnone
      rw [lossOf_eq hq] at hloss
      cases hloss.symm.trans hnone
    | lost e hst hr hl =>
      obtain ⟨n, hf⟩ := hr.fails
      exact ⟨t, v, n, e, rfl, ha, hv, hst, hc, owns_of_fails htame ha hf, hf,
        Option.some.inj (hloss.symm.trans hl)⟩

/-- In a run in which no release call of the lock is dropped, and in any step after it:

* the step raises the loss of the lock only if it is a turn of one of its renewal loops in which a
  renewal of the loop's own is answered with an error, while the lock is acquired and not cancelled;
* every such turn raises it, and the loss has the name and the id of the lock and the words of that
  error;
* a loss stays the same for ever;
* so does the loss, or its absence, of a cancelled lock;
* an instance with a loss neither applies for the lease nor renews it. -/
theorem loss_notice (h : Unbroken A l w) (hk : w.locks[l]? = some k) (hn : NextBy A w o w') :
    (∀ loss, w.lossOf l = none → w'.lossOf l = some loss → ∃ t v n e, o = some t ∧
      w.activity? t = some (.watching l v) ∧ v.Loops ∧ k.stage = .acquired ∧
      k.cancelled = false ∧ w.Owns t n ∧ w.Fails w' (k.request .renew) n e ∧
      loss = k.lossBy e) ∧
    (∀ t v n e, o = some t → w.activity? t = some (.watching l v) → v.Loops →
      k.stage = .acquired → k.cancelled = false → w.Fails w' (k.request .renew) n e →
      w'.lossOf l = some (k.lossBy e)) ∧
    (∀ loss w'', w.lossOf l = some loss → Run A w w'' → w''.lossOf l = some loss) ∧
    (k.cancelled = true → ∀ w'', Run A w w'' → w''.lossOf l = w.lossOf l) ∧
    ((w.lossOf l).isSome → ∀ w'' k'' call, Run A w w'' → w''.locks[l]? = some k'' →
      w''.Sole l k'' → call ≠ .release →
      w''.requests.count (k.request call) = w.requests.count (k.request call)) := by
  have hw := Unbroken.reachable h
  refine ⟨fun loss hnone hloss => fails_of_lost h hk hn hnone hloss,
    fun t v n e ho ha hv hs hc hf => ?_, fun loss w'' hl hr => ?_, fun hc w'' hr => ?_,
    fun hsome w'' k'' call hr hk'' hsole hcall => ?_⟩
  · subst ho
    cases hn with
    | poll =>
      cases noticed_turn h hk hc ha hv with
      | unharmed hu _ => exact absurd hf (hu.harmless n e)
      | lost e' _ hr hl => rwa [hr.only n e hf]
  · exact (outlives_run hw hr).lossOf hl
  · exact lossOf_run hw ((isCancelled_eq hk).trans hc) hr
  · obtain ⟨loss, hl⟩ := Option.isSome_iff_exists.1 hsome
    have hc := (lost_reachable hw l loss hl).1
    rw [isCancelled_eq hk] at hc
    exact count_requests_run hw hk hc hr hk'' hsole hcall

/-- The first renewal of a lock is about to fail. -/
def unrenewed : World :=
  turn^[6] (ofScript [.create "a" "alpha" (.ofSeconds 15) [.renewal] "p" ⟨"i"⟩, .acquireOnce "a",
    .inject .renew 1, .sleep (.ofSeconds 10)])

/-- The lock is lost in the next turn of its renewal loop. -/
theorem loss_notice_unrenewed : unrenewed.clock = 7500 ∧
    ∃ k loss, unrenewed.locks[0]? = some k ∧ unrenewed.lossOf 0 = none ∧
      (unrenewed.poll 1).lossOf 0 = some loss ∧
      ∃ n e, unrenewed.Fails (unrenewed.poll 1) (k.request .renew) n e ∧ loss = k.lossBy e := by
  have h : Unbroken (fun _ => True) 0 unrenewed :=
    unbroken_ofScript (by simp [Step.Within, Step.AllWithin]) 6 (by decide +kernel)
  obtain ⟨k, hk⟩ : ∃ k, unrenewed.locks[0]? = some k :=
    Option.isSome_iff_exists.1 (by decide +kernel)
  have hnone : unrenewed.lossOf 0 = none := by decide +kernel
  obtain ⟨loss, hl⟩ : ∃ loss, (unrenewed.poll 1).lossOf 0 = some loss :=
    Option.isSome_iff_exists.1 (by decide +kernel)
  obtain ⟨t, v, n, e, -, -, -, -, -, -, hf, he⟩ :=
    (loss_notice h hk (.poll 1)).1 loss hnone hl
  exact ⟨by decide +kernel, k, loss, hk, hnone, hl, n, e, hf, he⟩

end World

end Leasehold
