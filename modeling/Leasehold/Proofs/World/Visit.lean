import Leasehold.Proofs.World.Inside

/-!
# Visits and acquisitions

The stretches of a visit to a critical section, and of the acquisitions that are made of visits.

* `visit_stretch`, `resumeEntry_stretch`, `abandonEntry_stretch`: visits to a critical section.
* `served_visit`, `served_resumeEntry`: what a visit is for stays the same, an acquisition that
  succeeds leaves the lock acquired, and a visit that reads the stage tells it.
* `attempted_start`, `attempted_resume`: the same for acquisitions with the layers around them.
-/

namespace Leasehold

/-- The visit of an acquisition is for the lease. -/
def Attempt.Acquires : Attempt → Prop
  | entering e => e.call? = some .acquire
  | retrying _ _ a | wrapping _ a => a.Acquires
  | pausing .. => True

namespace World

/-- The stage of a lock. -/
def AtStage (w : World) (l : LockId) (s : Stage) : Prop :=
  ∃ k, w.locks[l]? = some k ∧ k.stage = s

variable {A : Step → Prop} {D : Deed → Prop} {t : TaskId} {w w' w'' : World}
  {c c' c'' : Option Engagement} {l : LockId}

/-! ### Visits to a critical section -/

theorem carries_calling (l : LockId) (call : LeaseCall) : Carries A D t (.calling l call) :=
  fun _ r n p => .arrive l call r n p

/-- A visit has got as far as `y` in this turn: it is over, or the task waits inside. -/
structure Visited (A : Step → Prop) (D : Deed → Prop) (t : TaskId) (l : LockId)
    (x : World × Option Engagement) (y : World × Poll Entry Reply) : Prop where
  moves : Moves A D t x (y.1, y.2.engagement fun e => some (e.engagement l))
  inside : ∀ errand, y.2 ≠ .waiting (.queued errand)

section Visited

variable {x : World × Option Engagement} {r : Request} {n : Nat} {a : Answer} {k : Lock}
  {errand : Errand} {call : LeaseCall}

/-- The visit ends without a call. -/
theorem visited_reply (h : Moves A D t x (w, some (.queued l errand))) (reply : Reply) :
    Visited A D t l x (w.reply t l reply) where
  moves := h.then (.leave l _ rfl (by rintro ⟨_, _, _, h⟩; cases h))
  inside _ h := by cases h

/-- The task waits inside. -/
theorem visited_waiting {e : Entry} (h : Moves A D t x (w, some (e.engagement l)))
    (he : ∀ errand, e ≠ .queued errand) : Visited A D t l x (w, .waiting e) where
  moves := h
  inside errand h := by cases h; exact he errand rfl

theorem isCancelled_cancelScope (hk : w.locks[l]? = some k) :
    (w.cancelScope l).isCancelled l = true := by
  unfold isCancelled
  rw [(quiet_cancelScope w l).locks, getElem?_updateLock, hk]
  simp

/-- The visit ends with the answer to its call. -/
theorem visited_answered (h : Carried A D t (.calling l call) x (w, .done a)) :
    Visited A D t l x (w.takeAnswer t l k call a) := by
  obtain ⟨w', r, n, rfl, hm⟩ := h.of_done
  exact ⟨hm.then (.receive l call r n a), fun _ h => by cases h⟩

/-- The deadline of a release has passed. -/
theorem visited_timeout {co : Course} {k' : Lock} (hk : w.locks[l]? = some k')
    (h : Moves A D t x (w, some (.calling l .release r n co))) :
    Visited A D t l x (w.takeAnswer t l k .release (.error .timeout)) where
  moves := (h.then (.cancel l)).then (.leave l _ rfl fun _ => isCancelled_cancelScope hk)
  inside _ h := by cases h

/-- An acquisition or a renewal is interrupted by the cancellation of its lock. -/
theorem visited_interrupted {co : Course} (hc : call ≠ .release)
    (h : Moves A D t x (w, some (.calling l call r n co))) :
    Visited A D t l x (w.reply t l (.error .cancelled)) where
  moves := h.then (.leave l _ rfl (by rintro ⟨_, _, _, h⟩; cases h; exact absurd rfl hc))
  inside _ h := by cases h

/-- The task makes the call of its errand. -/
theorem carried_send (h : Moves A D t x (w, some (.queued l errand)))
    (hk : w.locks[l]? = some k) (hq : k.queue.head? = some t) {y : World × Poll Flight Answer}
    (hy : w.Sends l k errand call y) : Carried A D t (.calling l call) x y := by
  obtain ⟨he, hr, rfl⟩ := hy
  obtain ⟨hs, hc⟩ := refusal_eq_none_iff.1 hr
  refine carried_issue (carries_calling l call) ?_
  rw [courseOf_setStage]
  exact h.then (.send l k errand call hk hq he hs hc)

theorem Visited.not_queued {y : World × Poll Entry Reply} (h : Visited A D t l x y) (l' : LockId)
    (errand : Errand) :
    y.2.engagement (fun e => some (e.engagement l)) ≠ some (.queued l' errand) := by
  intro hc
  rcases hy : y.2 with e | r <;> rw [hy] at hc
  · cases e with
    | queued errand' => exact h.inside errand' hy
    | acquiring f n => cases hc
    | renewing f n => cases hc
    | releasing f limit => cases hc
  · cases hc

/-- The visit is let in. -/
theorem visited_letIn (h : Moves A D t x (w, some (.queued l errand)))
    (hk : w.locks[l]? = some k) (hq : k.queue.head? = some t) {y : World × Poll Entry Reply}
    (he : w.LetIn t l k errand y) : Visited A D t l x y := by
  cases he with
  | observed | refused => exact visited_reply h _
  | answered hs => exact visited_answered (carried_send h hk hq hs)
  | waiting hs _ ha =>
    have hm := (carried_send h hk hq hs).of_waiting
    rw [← ha.engagement l] at hm
    exact visited_waiting (hm.then (.quiet (quiet_takeTicket _))) ha.ne_queued
  | releasing _ hs _ =>
    have hm := (carried_send h hk hq hs).of_waiting
    exact visited_waiting (hm.then (.quiet (quiet_timer _ _))) (by intro _ h; cases h)
  | timeout _ hs _ =>
    have hm := (carried_send h hk hq hs).of_waiting
    exact visited_timeout (hs.lock hk) (hm.then (.quiet (quiet_timer _ _)))

/-- Goes on with a visit that has come to its call. -/
theorem visited_resumeEntry {e : Entry} (h : Moves A D t x (w, some (e.engagement l)))
    (hk : w.locks[l]? = some k) (he : ∀ errand, e ≠ .queued errand) :
    Visited A D t l x (w.resumeEntry t l e) := by
  -- the call of the entry has got as far as its flight
  have hfly {call f y} (ha : e.Awaits call f) (hy : w.fly f = y) :
      Carried A D t (.calling l call) x y :=
    hy ▸ carried_fly (carries_calling l call) (ha.engagement l ▸ h)
  have hr := goesOn_resumeEntry (t := t) hk e
  generalize w.resumeEntry t l e = y at hr ⊢
  cases hr with
  | admitted | behind => exact absurd rfl (he _)
  | answered ha hy => exact visited_answered (hfly ha hy)
  | waiting ha _ hy _ ha' =>
    exact visited_waiting (ha'.engagement l ▸ (hfly ha hy).of_waiting) ha'.ne_queued
  | interrupted ha hc hy _ => exact visited_interrupted hc (hfly ha hy).of_waiting
  | @releasing f _ _ limit hy _ =>
    exact visited_waiting (hfly (.releasing f limit) hy).of_waiting (by intro _ h; cases h)
  | @timeout f _ w' limit hy _ =>
    have hk' : w'.locks[l]? = some k := by rw [← hk, ← locks_fly w f, hy]
    exact visited_timeout hk' (hfly (.releasing f limit) hy).of_waiting

end Visited

/-! ### Visits without delay -/

/-- What a visit comes to in a world without plans: it ends in the turn in which it begins. -/
structure Concluded (w : World) (t : TaskId) (l : LockId) (y : World × Poll Entry Reply) :
    Prop where
  done : ∃ r, y.2 = .done r
  plans : y.1.plans = []
  queues : y.1.queues = w.queues.modify l (·.erase t)

theorem queues_setStage (s : Stage) : (w.setStage l s).queues = w.queues :=
  queues_updateLock fun _ => rfl

theorem queues_cancelScope : (w.cancelScope l).queues = w.queues :=
  (quiet_cancelScope w l).queues.trans (queues_updateLock fun _ => rfl)

theorem plans_cancelScope : (w.cancelScope l).plans = w.plans := (quiet_cancelScope w l).plans

section Concluded

variable {k : Lock}

theorem Concluded.engagement {y : World × Poll Entry Reply} (h : w.Concluded t l y)
    {f : Entry → Option Engagement} : y.2.engagement f = none := by
  obtain ⟨r, hr⟩ := h.done
  rw [hr]
  rfl

theorem concluded_reply (hp : w'.plans = []) (hq : w'.queues = w.queues) (r : Reply) :
    w.Concluded t l (w'.reply t l r) where
  done := ⟨r, rfl⟩
  plans := (quiet_leave w' t l).plans.trans hp
  queues := by
    rw [← hq, ← queues_updateLock_queue]
    exact (quiet_leave w' t l).queues

theorem concluded_takeAnswer (hp : w'.plans = []) (hq : w'.queues = w.queues) (call : LeaseCall)
    (a : Answer) : w.Concluded t l (w'.takeAnswer t l k call a) := by
  cases call with
  | acquire =>
    cases a with
    | ok u =>
      have hp' : (w'.setStage l .acquired).plans = [] := hp
      exact concluded_reply hp' ((queues_setStage _).trans hq) _
    | error e => exact concluded_reply hp hq _
  | renew => exact concluded_reply hp hq _
  | release =>
    exact concluded_reply (plans_cancelScope.trans hp) (queues_cancelScope.trans hq) _

/-- Without plans whatever happens inside the critical section happens at once. -/
theorem concluded_letIn (hp : w.plans = []) {errand : Errand} {y : World × Poll Entry Reply}
    (he : w.LetIn t l k errand y) : w.Concluded t l y := by
  -- a call that goes out is answered
  have hsends {call y} (hs : w.Sends l k errand call y) :
      ∃ w' a, y = (w', .done a) ∧ w'.queues = w.queues ∧ w'.plans = [] := by
    obtain ⟨w', a, hi, hl, hp'⟩ :=
      issue_of_plans_nil (w := w.setStage l call.during) hp (k.request call)
    exact ⟨w', a, hs.issued.symm.trans hi, (queues_of_locks hl).trans (queues_setStage _), hp'⟩
  cases he with
  | observed | refused => exact concluded_reply hp rfl _
  | answered hs =>
    obtain ⟨_, _, he, hq', hp'⟩ := hsends hs
    cases he
    exact concluded_takeAnswer hp' hq' _ _
  | waiting hs | releasing _ hs | timeout _ hs =>
    obtain ⟨_, _, he, -⟩ := hsends hs
    cases he

end Concluded

/-! ### Visits as stretches -/

/-- A visit to a critical section begins. -/
theorem visit_stretch (errand : Errand) :
    Stretch A D t w none (w.visit t l errand).1
      ((w.visit t l errand).2.engagement fun e => some (e.engagement l)) := by
  cases hk : w.locks[l]? with
  | none =>
    rw [visit_of_none hk]
    exact .refl A t w
  | some k =>
    have hk' := getElem?_enqueued hk t
    have hq' := queues_updateLock_queue (w := w) (l := l) (· ++ [t])
    have hm : Moves A D t (w, none) (_, some (.queued l errand)) :=
      .single (.enqueue l errand (List.getElem?_eq_some_iff.1 hk).1)
    rcases visit_cases (t := t) hk errand with ⟨hq, he⟩ | ⟨hq, he⟩ <;> rw [he]
    · have hhead : (k.queue ++ [t]).head? = some t := by
        rw [hq]
        rfl
      have hv := visited_letIn hm hk' hhead (letIn_enter hk' errand)
      refine ⟨hv.moves, fun l' errand' k' hc => absurd hc (hv.not_queued l' errand'),
        fun _ _ hp => ?_⟩
      have hp' : (w.updateLock l fun k => { k with queue := k.queue ++ [t] }).plans = [] := hp.1
      have hc := concluded_letIn hp' (letIn_enter (t := t) hk' errand)
      exact ⟨hc.engagement, hp.visited hc.plans (by rw [hc.queues, hq'])⟩
    · refine ⟨hm, fun l' errand' k' hc hl hn hh => ?_, fun _ _ hp => ?_⟩
      · cases hc
        rw [hk'] at hl
        cases hl
        -- the task is the last of several, so as the first it would be there twice
        obtain ⟨t', q, hq⟩ := List.exists_cons_of_ne_nil hq
        rw [hq] at hn hh
        cases hh
        simp at hn
      · exact absurd (hp.2 k (List.mem_of_getElem? hk)) hq

/-- A visit goes on after a wait. -/
theorem resumeEntry_stretch (e : Entry) :
    Stretch A D t w (some (e.engagement l)) (w.resumeEntry t l e).1
      ((w.resumeEntry t l e).2.engagement fun e => some (e.engagement l)) := by
  cases hk : w.locks[l]? with
  | none =>
    have he : w.resumeEntry t l e = (w, .done (.error .cancelled)) := resumeEntry_of_none hk e
    have hm : Move A D t w (some (e.engagement l)) (w.leave t l) none :=
      .abandon l _ (by cases e <;> rfl) fun _ hs => by rw [hk] at hs; cases hs
    rw [leave_eq_self hk] at hm
    rw [he]
    exact .of_moves (.single hm) (by intro _ _ h; cases h)
  | some k =>
    by_cases hq : ∃ errand, e = .queued errand
    · obtain ⟨errand, rfl⟩ := hq
      rcases resumeQueued_cases (t := t) hk errand with ⟨ha, he⟩ | ⟨ha, he⟩ <;> rw [he]
      · have hv : Visited A D t l (w, some (.queued l errand)) (w.enter t l errand) :=
          visited_letIn .refl hk ha (letIn_enter hk errand)
        exact .of_moves hv.moves hv.not_queued
      · refine ⟨.refl, fun l' errand' k' hc hl _ hh => ha ?_, fun _ hc => by cases hc⟩
        cases hc
        rwa [Option.some.inj (hk.symm.trans hl)]
    · have hv : Visited A D t l (w, some (e.engagement l)) (w.resumeEntry t l e) :=
        visited_resumeEntry .refl hk fun errand he => hq ⟨errand, he⟩
      exact .of_moves hv.moves hv.not_queued

/-- A visit is given up in the middle. -/
theorem abandonEntry_stretch (e : Entry) (hD : (e.engagement l).Releases l → D (.drop l)) :
    Stretch A D t w (some (e.engagement l)) (w.abandonEntry t l e) none :=
  .of_moves (.single (.abandon l _ (by cases e <;> rfl) fun _ _ => hD)) (by intro _ _ h; cases h)

/-! ### What a visit is for -/

theorem AtStage.quiet {s : Stage} (h : w.AtStage l s) (hq : w.Quiet w') : w'.AtStage l s := by
  rwa [AtStage, hq.locks]

theorem atStage_updateLock {s : Stage} {l' : LockId} {f : Lock → Lock}
    (hf : ∀ k, (f k).stage = k.stage) :
    (w.updateLock l' f).AtStage l s ↔ w.AtStage l s := by
  unfold AtStage
  rw [getElem?_updateLock]
  split
  · constructor
    · rintro ⟨k, hk, hs⟩
      obtain ⟨k', hk', rfl⟩ := Option.map_eq_some_iff.1 hk
      exact ⟨k', hk', (hf k').symm.trans hs⟩
    · rintro ⟨k, hk, hs⟩
      exact ⟨f k, by rw [hk]; rfl, (hf k).trans hs⟩
  · exact Iff.rfl

theorem AtStage.begun {s : Stage} (h : w.AtStage l s) (hs : s ≠ .idle) : w.Begun l := by
  obtain ⟨k, hk, rfl⟩ := h
  exact ⟨k, hk, hs⟩

theorem AtStage.leave {s : Stage} (h : w.AtStage l s) (t : TaskId) (l' : LockId) :
    (w.leave t l').AtStage l s := by
  refine AtStage.quiet ?_ (quiet_leave w t l')
  exact (atStage_updateLock (by intro k; rfl)).2 h

theorem atStage_setStage {k : Lock} (hk : w.locks[l]? = some k) (s : Stage) :
    (w.setStage l s).AtStage l s := by
  refine ⟨{ k with stage := s }, ?_, rfl⟩
  rw [setStage, getElem?_updateLock, if_pos rfl, hk]
  rfl

/-- What a visit that is for `call` has come to. -/
structure Served (call : Option LeaseCall) (l : LockId) (y : World × Poll Entry Reply) : Prop where
  same : ∀ e, y.2 = .waiting e → e.call? = call
  granted : ∀ s, call = some .acquire → y.2 = .done (.ok s) → y.1.AtStage l .acquired
  observed : ∀ s, call = none → y.2 = .done (.ok s) → y.1.AtStage l s

section Served

variable {call : Option LeaseCall} {k : Lock}

theorem served_waiting {e : Entry} (he : e.call? = call) : Served call l (w, .waiting e) where
  same e' h := by cases h; exact he
  granted s _ h := by cases h
  observed s _ h := by cases h

theorem served_error (e : LockFailure) : Served call l (w, .done (.error e)) where
  same e' h := by cases h
  granted s _ h := by cases h
  observed s _ h := by cases h

theorem served_held {r : Reply} (hc : call = some .renew ∨ call = some .release) :
    Served call l (w, .done r) where
  same e' h := by cases h
  granted s h := by rcases hc with rfl | rfl <;> cases h
  observed s h := by rcases hc with rfl | rfl <;> cases h

theorem served_takeAnswer {k' : Lock} (hk : w.locks[l]? = some k) (call : LeaseCall) (a : Answer) :
    Served (some call) l (w.takeAnswer t l k' call a) := by
  cases a with
  | error e => exact served_error _
  | ok u =>
    cases call with
    | acquire =>
      exact ⟨fun _ h => (by cases h), fun _ _ _ => (atStage_setStage hk _).leave t l,
        fun _ h => (by cases h)⟩
    | renew => exact served_held (.inl rfl)
    | release => exact served_held (.inr rfl)

theorem served_observed (hk : w.locks[l]? = some k) :
    Served none l (w.reply t l (.ok k.stage)) where
  same e' h := by cases h
  granted s h := by cases h
  observed s _ h := by cases h; exact AtStage.leave ⟨k, hk, rfl⟩ t l

theorem served_letIn (hk : w.locks[l]? = some k) {errand : Errand} {y : World × Poll Entry Reply}
    (he : w.LetIn t l k errand y) : Served errand.leaseCall? l y := by
  cases he with
  | observed he =>
    rw [he]
    exact served_observed hk
  | refused | timeout => exact served_error _
  | answered hs =>
    rw [hs.errand]
    exact served_takeAnswer (hs.lock hk) _ _
  | waiting hs _ ha => exact served_waiting (ha.call?.trans hs.errand.symm)
  | releasing he =>
    rw [he]
    exact served_waiting rfl

/-- A visit begins. -/
theorem served_visit (errand : Errand) : Served errand.leaseCall? l (w.visit t l errand) := by
  cases hk : w.locks[l]? with
  | none =>
    rw [visit_of_none hk]
    exact served_error _
  | some k =>
    rcases visit_cases (t := t) hk errand with ⟨-, he⟩ | ⟨-, he⟩ <;> rw [he]
    · have hk' := getElem?_enqueued hk t
      exact served_letIn hk' (letIn_enter hk' errand)
    · exact served_waiting rfl

/-- A visit goes on after a wait. -/
theorem served_resumeEntry (e : Entry) : Served e.call? l (w.resumeEntry t l e) := by
  cases hk : w.locks[l]? with
  | none =>
    rw [resumeEntry_of_none hk]
    exact served_error _
  | some k =>
    have hr := goesOn_resumeEntry (t := t) hk e
    generalize w.resumeEntry t l e = y at hr ⊢
    cases hr with
    | admitted _ he => exact served_letIn hk he
    | behind => exact served_waiting rfl
    | answered ha hy =>
      rw [ha.call?]
      exact served_takeAnswer (by rw [← hk, ← locks_fly w, hy]) _ _
    | waiting ha _ _ _ ha' => exact served_waiting (ha'.call?.trans ha.call?.symm)
    | interrupted | timeout => exact served_error _
    | releasing => exact served_waiting rfl

end Served

/-! ### Acquisitions -/

/-- What an acquisition has come to in a turn that began at `w`. -/
structure Attempted (A : Step → Prop) (D : Deed → Prop) (t : TaskId) (l : LockId) (w : World)
    (c : Option Engagement) (y : World × Poll Attempt Reply) : Prop where
  stretch : Stretch A D t w c y.1 (y.2.engagement (Attempt.engagement l))
  acquires : ∀ a, y.2 = .waiting a → a.Acquires
  granted : ∀ s, y.2 = .done (.ok s) → y.1.AtStage l .acquired

theorem attempted_waiting {a : Attempt} (h : Stretch A D t w c w' (a.engagement l))
    (ha : a.Acquires) : Attempted A D t l w c (w', .waiting a) where
  stretch := h
  acquires a' h' := by cases h'; exact ha
  granted s hd := by cases hd

theorem attempted_done {r : Reply} (h : Stretch A D t w c w' none)
    (hr : ∀ s, r = .ok s → w'.AtStage l .acquired) : Attempted A D t l w c (w', .done r) where
  stretch := h
  acquires a' h' := by cases h'
  granted s hd := by cases hd; exact hr s rfl

theorem attempted_error (h : Stretch A D t w c w' none) (e : LockFailure) :
    Attempted A D t l w c (w', .done (.error e)) :=
  attempted_done h (by intro s hs; cases hs)

/-- An acquisition without layers is a visit. -/
theorem attempted_entering {y : World × Poll Entry Reply}
    (h : Stretch A D t w c y.1 (y.2.engagement fun e => some (e.engagement l)))
    (hs : Served (some .acquire) l y) : Attempted A D t l w c (y.1, y.2.within .entering) := by
  obtain ⟨w', e | r⟩ := y
  · exact attempted_waiting h (hs.same e rfl)
  · exact attempted_done h fun s hr => hs.granted s rfl (congrArg Poll.done hr)

/-- A retrying layer passes a result on or waits for the next attempt. -/
theorem attempted_retryAfter {r : Reply} (h : Stretch A D t w c w' none)
    (hr : ∀ s, r = .ok s → w'.AtStage l .acquired) (inner : Strategy) (b : Backoff) :
    Attempted A D t l w c (w'.retryAfter l inner b r) := by
  cases r with
  | ok s => exact attempted_done h hr
  | error e =>
    unfold retryAfter
    dsimp only
    split
    · have hd := h.trans (.quiet (quiet_takeDraw w'))
      split
      · next delay b' _ =>
        have ht := (hd.trans (.quiet (quiet_timer _ delay))).trans (.quiet (quiet_takeTicket _))
        split
        · exact attempted_error ht _
        · exact attempted_waiting ht trivial
      · exact attempted_error hd _
    · exact attempted_error h _

/-- A recording layer passes a result on. -/
theorem attempted_noteOutcome {r : Reply} (h : Stretch A D t w c w' none)
    (hr : ∀ s, r = .ok s → w'.AtStage l .acquired) (tag : String) :
    Attempted A D t l w c (w'.noteOutcome tag r, .done r) :=
  have hq := quiet_noteOutcome w' tag r
  attempted_done (h.trans (.quiet hq)) fun s hs => (hr s hs).quiet hq

/-- An acquisition begins. -/
theorem attempted_start (s : Strategy) :
    ∀ w : World, Attempted A D t l w none (w.startAttempt t l s) := by
  induction s with
  | direct => exact fun w => attempted_entering (visit_stretch .acquire) (served_visit .acquire)
  | retry budget inner ih =>
    intro w
    unfold startAttempt
    dsimp only
    have h := ih w
    rcases hy : w.startAttempt t l inner with ⟨w', a | r⟩ <;> rw [hy] at h
    · exact attempted_waiting h.stretch (h.acquires a rfl)
    · exact attempted_retryAfter h.stretch (fun s hs => h.granted s (congrArg _ hs)) inner _
  | wrap tag refuses inner ih =>
    intro w
    have hn := Stretch.quiet (A := A) (D := D) (t := t) (quiet_note w ("before " ++ tag))
    unfold startAttempt
    dsimp only
    split
    · exact attempted_noteOutcome hn (by intro s hs; cases hs) tag
    · have h := ih (w.note ("before " ++ tag))
      rcases hy : (w.note ("before " ++ tag)).startAttempt t l inner with ⟨w', a | r⟩ <;>
        rw [hy] at h
      · exact attempted_waiting (hn.trans h.stretch) (h.acquires a rfl)
      · exact attempted_noteOutcome (hn.trans h.stretch)
          (fun s hs => h.granted s (congrArg _ hs)) tag

/-- An acquisition goes on after a wait. -/
theorem attempted_resume {a : Attempt} (ha : a.Acquires) :
    Attempted A D t l w (a.engagement l) (w.resumeAttempt t l a) := by
  induction a with
  | entering e =>
    have hs := served_resumeEntry (t := t) (w := w) (l := l) e
    rw [show e.call? = some .acquire from ha] at hs
    exact attempted_entering (resumeEntry_stretch e) hs
  | retrying inner b a ih =>
    have h := ih ha
    unfold resumeAttempt
    rcases hy : w.resumeAttempt t l a with ⟨w', a' | r⟩ <;> rw [hy] at h
    · exact attempted_waiting h.stretch (h.acquires a' rfl)
    · exact attempted_retryAfter h.stretch (fun s hs => h.granted s (congrArg _ hs)) inner b
  | pausing inner b timer k =>
    unfold resumeAttempt
    split
    · have h := attempted_start (A := A) (D := D) (t := t) (l := l) inner w
      rcases hy : w.startAttempt t l inner with ⟨w', a' | r⟩ <;> rw [hy] at h
      · exact attempted_waiting h.stretch (h.acquires a' rfl)
      · exact attempted_retryAfter h.stretch (fun s hs => h.granted s (congrArg _ hs)) inner b
    · split
      · exact attempted_error (.refl A t w) _
      · exact attempted_waiting (.refl A t w) trivial
  | wrapping tag a ih =>
    have h := ih ha
    unfold resumeAttempt
    rcases hy : w.resumeAttempt t l a with ⟨w', a' | r⟩ <;> rw [hy] at h
    · exact attempted_waiting h.stretch (h.acquires a' rfl)
    · exact attempted_noteOutcome h.stretch (fun s hs => h.granted s (congrArg _ hs)) tag

/-- An acquisition by the lock's own strategy begins. -/
theorem attempted_startLocking : Attempted A D t l w none (w.startLocking t l) := by
  unfold startLocking
  cases w.locks[l]? with
  | none => exact attempted_error (.refl A t w) _
  | some k => exact attempted_start k.strategy w

/-- An acquisition is given up. -/
theorem abandonAttempt_stretch (a : Attempt)
    (hD : ∀ e, a.engagement l = some e → e.Releases l → D (.drop l)) :
    Stretch A D t w (a.engagement l) (w.abandonAttempt t l a) none := by
  induction a with
  | entering e => exact abandonEntry_stretch e (hD _ rfl)
  | retrying inner b a ih => exact ih hD
  | pausing inner b timer k => exact .refl A t w
  | wrapping tag a ih => exact ih hD

end World

end Leasehold
