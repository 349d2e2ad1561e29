import Leasehold.Proofs.Lock.LossNotice
import Leasehold.Proofs.World.Descent

/-!
# The release of a shutdown

A shutdown begins with a visit for the release of its lock.  Let in to the critical section it finds
the lease held or not; if it does, it makes the release call, whose record tells what it answers.

* `Lock.verdict`: what the release call of a lock comes to.
* `World.Parted`: a visit that has made the release call.
* `World.Admitted`: a visit for the release that has been let in.
* `World.closed`: a shutdown is its visit for the release, and then the wait for the watchers.
-/

namespace Leasehold

/-- What a shutdown answers by the answer to its release call, which has not come before the
deadline if there is none. -/
def Lock.verdict (k : Lock) : Option Answer → Except LockFailure Unit
  | some (.ok _) => .ok ()
  | some (.error e) => .error (World.failureFor k e)
  | none => .error (.call .timeout)

theorem Lock.verdict_evolves {k k' : Lock} (he : World.Evolves k k') (a : Option Answer) :
    k'.verdict a = k.verdict a := by
  match a with
  | none | some (.ok _) => rfl
  | some (.error e) => cases e <;> simp only [verdict, World.failureFor, he.name]

namespace World

variable {A : Step → Prop} {D : Deed → Prop} {t : TaskId} {w w' w₁ w₂ : World} {l : LockId}
  {k : Lock} {n : Nat} {b d : Span} {a : Option Answer}

theorem shutdownResult_failureFor (k : Lock) (e : CallFailure) :
    shutdownResult (.error (failureFor k e)) = .error (failureFor k e) := by
  cases e <;> rfl

/-! ### The release call -/

/-- A visit has made the release call of the lock, which was sent at `b` with the deadline `d` and
is the record `n`. -/
inductive Parted (k : Lock) (n : Nat) (b d : Span) : World × Poll Entry Reply → Prop
  | waits (w : World) (f : Flight) (limit : Timer) :
      w.log[n]? = some ⟨b, k.request .release, none⟩ → f.record = n →
      (b + d).ceilMillis ≤ limit.due → Parted k n b d (w, .waiting (.releasing f limit))
  | ends (w : World) (a : Option Answer) (r : Reply) :
      w.log[n]? = some ⟨b, k.request .release, a⟩ → shutdownResult r = k.verdict a →
      (a = none → b + d ≤ w.now) → Parted k n b d (w, .done r)

theorem parted_takeAnswer {a : Answer} (hn : w.log[n]? = some ⟨b, k.request .release, some a⟩) :
    Parted k n b d (w.takeAnswer t l k .release a) := by
  have hl : ((w.cancelScope l).leave t l).log[n]? = some ⟨b, k.request .release, some a⟩ := by
    rw [log_leave, (quiet_cancelScope w l).log]
    exact hn
  cases a with
  | ok u => exact .ends _ _ _ hl rfl fun ha => by cases ha
  | error e => exact .ends _ _ _ hl (shutdownResult_failureFor k e) fun ha => by cases ha

/-- The deadline of the release call has passed. -/
theorem parted_timeout {limit : Timer} (hn : w.log[n]? = some ⟨b, k.request .release, none⟩)
    (hd : (b + d).ceilMillis ≤ limit.due) (hx : w.hasFired limit = true) :
    Parted k n b d (w.takeAnswer t l k .release (.error .timeout)) := by
  have hl : ((w.cancelScope l).leave t l).log[n]? = some ⟨b, k.request .release, none⟩ := by
    rw [log_leave, (quiet_cancelScope w l).log]
    exact hn
  have hle : (b + d).ceilMillis ≤ w.clock := Nat.le_trans hd (of_decide_eq_true hx)
  have hb : b + d ≤ w.now := (Span.ceilMillis_le_iff _ _).1 hle
  refine .ends _ none _ hl rfl fun _ => ?_
  have hc : ((w.cancelScope l).leave t l).now = w.now := by
    rw [now, (frame_leave (A := fun _ => True) t).clock,
      (frame_cancelScope (A := fun _ => True)).clock, now]
  show b + d ≤ ((w.cancelScope l).leave t l).now
  rw [hc]
  exact hb

/-- The release call is followed. -/
theorem parted_resumeEntry {f : Flight} {limit : Timer} (hk : w.locks[l]? = some k)
    (hn : w.log[f.record]? = some ⟨b, k.request .release, none⟩)
    (hd : (b + d).ceilMillis ≤ limit.due) :
    Parted k f.record b d (w.resumeEntry t l (.releasing f limit)) := by
  have hs := shown_fly w f
  have hr := goesOn_resumeEntry (t := t) hk (.releasing f limit)
  generalize w.resumeEntry t l (.releasing f limit) = y at hr ⊢
  cases hr with
  | @answered _ _ _ w' a ha hy =>
    cases ha
    rw [hy] at hs
    have hl : w'.log = _ := hs
    refine parted_takeAnswer ?_
    rw [hl]
    dsimp only [Poll.answer?]
    rw [List.getElem?_modify_eq, hn]
    rfl
  | waiting ha hc | interrupted ha hc =>
    cases ha
    exact absurd rfl hc
  | @releasing _ _ w' _ hy _ =>
    have hf := (flight_fly (congrArg Prod.snd hy)).1
    rw [hy] at hs
    have hl : w'.log = w.log := hs
    exact .waits _ _ _ (by rw [hl]; exact hn) hf hd
  | @timeout _ _ w' _ hy hx =>
    rw [hy] at hs
    have hl : w'.log = w.log := hs
    exact parted_timeout (by rw [hl]; exact hn) hd hx

/-! ### The visit -/

/-- A visit for the release of the lock has been let in, and has come to `y`. -/
inductive Admitted (k : Lock) (n : Nat) (b d : Span) (y : World × Poll Entry Reply) : Prop
  | held : k.stage = .acquired → Parted k n b d y → Admitted k n b d y
  | free (r : Reply) : k.stage ≠ .acquired → y.2 = .done r → shutdownResult r = .ok () →
      Admitted k n b d y

theorem admitted_enter (hk : w.locks[l]? = some k) :
    Admitted k w.log.length w.now d (w.enter t l (.release d)) := by
  have hshown := shown_issue (w.setStage l .released) (k.request .release)
  -- the call that goes out is in the log, and its deadline runs from now
  have hsent {w' f} (hs : w.Sends l k (.release d) .release (w', .waiting f)) :
      (w'.timer d).1.log[w.log.length]? = some ⟨w.now, k.request .release, none⟩ ∧
        f.record = w.log.length ∧ (w.now + d).ceilMillis ≤ (w'.timer d).2.due := by
    have hi : (w.setStage l .released).issue (k.request .release) = (w', .waiting f) := hs.issued
    have hf : ((w.setStage l .released).issue (k.request .release)).2 = .waiting f := by rw [hi]
    rw [hi] at hshown
    have hl : w'.log = w.log ++ [⟨w.now, k.request .release, none⟩] := hshown
    refine ⟨?_, (flight_issue hf).1, ?_⟩
    · rw [(quiet_timer w' d).log, hl, List.getElem?_concat_length]
    · exact Nat.le_of_eq (congrArg (fun s : Span => (s + d).ceilMillis) hs.now.symm)
  have hl := letIn_enter (t := t) hk (.release d)
  generalize w.enter t l (.release d) = y at hl ⊢
  cases hl with
  | observed he => cases he
  | refused call he hr =>
    cases he
    rw [Lock.refusal] at hr
    cases hs : k.stage with
    | acquired => rw [hs] at hr; cases hr
    | idle | released =>
      rw [hs] at hr
      cases hr
      exact .free _ (by rw [hs]; decide) rfl rfl
  | @answered _ w' a hs =>
    cases hs.errand
    have hi : (w.setStage l .released).issue (k.request .release) = _ := hs.issued
    rw [hi] at hshown
    have hl : w'.log = _ := hshown
    refine .held hs.allowed (parted_takeAnswer ?_)
    rw [hl]
    dsimp only [Poll.answer?]
    exact (congrArg (·[w.log.length]?) (modify_concat_length w.log _ _)).trans
      List.getElem?_concat_length
  | waiting hs hc =>
    cases hs.errand
    exact absurd rfl hc
  | releasing he hs =>
    cases he
    obtain ⟨hn, hf, hd⟩ := hsent hs
    exact .held hs.allowed (.waits _ _ _ hn hf hd)
  | timeout he hs hx =>
    cases he
    obtain ⟨hn, -, hd⟩ := hsent hs
    exact .held hs.allowed (parted_timeout hn hd hx)

theorem Admitted.evolves {k' : Lock} {y : World × Poll Entry Reply} (h : Admitted k' n b d y)
    (he : Evolves k k') (hs : k'.stage = k.stage) : Admitted k n b d y := by
  have hreq := congrFun he.request .release
  cases h with
  | free r hf hy hr => exact .free r (by rwa [← hs]) hy hr
  | held ha hp =>
    refine .held (hs.symm.trans ha) ?_
    cases hp with
    | waits w f limit hl hf hd => exact .waits w f limit (by rw [← hreq]; exact hl) hf hd
    | ends w a r hl hr ht =>
      exact .ends w a r (by rw [← hreq]; exact hl) (hr.trans (Lock.verdict_evolves he a)) ht

/-! ### A shutdown -/

/-- What becomes of a shutdown by what its visit has come to. -/
def closed (l : LockId) : World × Poll Entry Reply → World × Poll Progress Outcome
  | (w, .waiting e) => (w, .waiting (.closing l e))
  | (w, .done r) => w.afterClosing l r

theorem resumeStep_closing (e : Entry) :
    w.resumeStep t (.closing l e) = closed l (w.resumeEntry t l e) := by
  rw [resumeStep]
  rcases w.resumeEntry t l e with ⟨w', e' | r⟩ <;> rfl

theorem resumeStep_joining (r : Except LockFailure Unit) (m : Nat) :
    w.resumeStep t (.joining l r m) =
      if w.watchersEnded l then w.endShutdown l r else (w, .waiting (.joining l r m)) := rfl

/-- After its release a shutdown has returned, or it waits for the watchers. -/
theorem afterClosing_cases (w : World) (l : LockId) (r : Reply) :
    (w.cancelScope l).watchersEnded l = true ∧ w.afterClosing l r =
        ((w.cancelScope l).unshare l, .done (.result (shutdownResult r))) ∨
      ∃ m, w.afterClosing l r =
        ((w.cancelScope l).takeTicket.1, .waiting (.joining l (shutdownResult r) m)) := by
  unfold afterClosing
  dsimp only
  split
  · next he => exact .inl ⟨he, rfl⟩
  · exact .inr ⟨_, rfl⟩

theorem exists_lock_of_owned {label : String} (h : w.owned? label = some l) :
    ∃ k, w.locks[l]? = some k := by
  unfold owned? at h
  split at h
  · cases h
  · split at h
    · next k hk =>
      split at h
      · cases h
        exact ⟨k, hk⟩
      · cases h
    · cases h

theorem startStep_shutdown {label : String} (h : w.owned? label = some l) :
    w.startStep t (.shutdown label) =
      closed l ((w.updateLock l fun k => { k with listed := false }).visit t l
        ((w.updateLock l fun k => { k with listed := false }).unlockErrand l)) := by
  rw [startStep, onOwned, h]
  dsimp only
  rcases visit _ t l _ with ⟨w', e' | r⟩ <;> rfl

end World

end Leasehold
