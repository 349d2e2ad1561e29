import Leasehold.Proofs.Lock.ExclusiveSection
import Leasehold.Proofs.Lock.Replies
import Leasehold.Proofs.Lock.Shutdown
import Leasehold.Proofs.World.Story

/-!
# How an exclusive section ends

An exclusive section acquires its lock, polls its work until that is done or the lock is lost, and
releases the lock.  Its story tells what it answers.

* `Stint.Applies`, `Stint.Works`, `Stint.Decides`, `Stint.Unlocks`: what a section does in a stint.
* `World.SectionStint`, `sectionStint_of_by`: all that it can do in one.
* `World.UnderWay`, `underWay_of_story`: how far a section has come that waits.
* `World.section_outcome`: what a section answers, and what has become of its lock.
-/

namespace Leasehold.World

variable {A : Step → Prop} {D : Deed → Prop} {t : TaskId} {w w' w₁ w₂ : World} {l l' : LockId}
  {k : Lock} {p q : Progress} {x y : Stint} {xs : List Stint} {o : Outcome} {label : String}
  {work : List Step} {r r' : Reply} {s : Stage} {out : Except Loss Outcome}
  {E : TaskId → Option Engagement} {z : World × Poll Progress Outcome}

/-! ### Stints of a section -/

/-- What a section does once its acquisition has come to something. -/
def opened (t : TaskId) (l : LockId) (work : List Step) :
    World × Poll Attempt Reply → World × Poll Progress Outcome
  | (w, .waiting a) => (w, .waiting (.opening l work a))
  | (w, .done (.error e)) => (w.unshare l, .done (.result (.error e)))
  | (w, .done (.ok _)) => w.startWork t l fun w => w.startSteps t work

theorem startStep_exclusive (ho : w.owned? label = some l) :
    w.startStep t (.exclusive label work) = opened t l work ((w.share l).startLocking t l) := by
  rw [startStep, onOwned, ho]
  dsimp only
  rcases (w.share l).startLocking t l with ⟨w', a | e | s⟩ <;> rfl

theorem resumeStep_opening (a : Attempt) :
    w.resumeStep t (.opening l work a) = opened t l work (w.resumeAttempt t l a) := by
  rw [resumeStep]
  rcases w.resumeAttempt t l a with ⟨w', a' | e | s⟩ <;> rfl

/-- In the stint the acquisition of a section goes on or begins, and comes to something. -/
inductive Stint.Applies (t : TaskId) (l : LockId) (work : List Step) (x : Stint) :
    World × Poll Attempt Reply → Prop
  | first (label : String) : x.before = .unstarted (.exclusive label work) →
      x.start.owned? label = some l → x.Applies t l work ((x.start.share l).startLocking t l)
  | again (a : Attempt) : x.before = .opening l work a →
      x.Applies t l work (x.start.resumeAttempt t l a)

/-- In the stint the work of a section is polled, and comes to something: the first time right after
the acquisition, and then again, as long as the lock is not lost. -/
inductive Stint.Works (t : TaskId) (l : LockId) (work : List Step) (x : Stint) :
    World × Poll Progress Outcome → Prop
  | first (w : World) (s : Stage) : x.Applies t l work (w, .done (.ok s)) →
      w.takeTicket.1.lossOf l = none →
      x.Works t l work (w.takeTicket.1.startSteps t work)
  | again (n : Nat) (p : Progress) : x.before = .working l n p → x.start.lossOf l = none →
      x.Works t l work (x.start.resumeStep t p)

/-- In the stint it is decided how a section ends: its lock is found lost before its work is polled,
or its work is done. -/
inductive Stint.Decides (t : TaskId) (l : LockId) (work : List Step) (x : Stint) :
    World → Except Loss Outcome → Prop
  | early (w : World) (s : Stage) (loss : Loss) : x.Applies t l work (w, .done (.ok s)) →
      w.takeTicket.1.lossOf l = some loss → x.Decides t l work w.takeTicket.1 (.error loss)
  | lost (n : Nat) (p : Progress) (loss : Loss) : x.before = .working l n p →
      x.start.lossOf l = some loss → x.Decides t l work (x.start.abandonStep t p) (.error loss)
  | done (w : World) (v : Outcome) : x.Works t l work (w, .done v) → x.Decides t l work w (.ok v)

/-- In the stint the release with which a section ends comes to something. -/
inductive Stint.Unlocks (t : TaskId) (l : LockId) (work : List Step) (x : Stint)
    (out : Except Loss Outcome) : World × Poll Entry Reply → Prop
  | first (w : World) : x.Decides t l work w out →
      x.Unlocks t l work out (w.visit t l (w.unlockErrand l))
  | again (e : Entry) : x.before = .ending l out e →
      x.Unlocks t l work out (x.start.resumeEntry t l e)

/-- What a section answers by the decision and by what its release was replied. -/
def sectionAnswer : Except Loss Outcome → Reply → Outcome
  | .error loss, _ => .result (.error (.lost loss))
  | .ok v, .ok _ => .exclusive v
  | .ok _, .error e => .result (.error e)

/-- What a stint of a section comes to. -/
inductive SectionStint (t : TaskId) (l : LockId) (work : List Step) (x : Stint) : Prop
  | opening (a : Attempt) : x.Applies t l work (x.finish, .waiting a) →
      x.result = .waiting (.opening l work a) → SectionStint t l work x
  | fails (w : World) (e : LockFailure) : x.Applies t l work (w, .done (.error e)) →
      x.result = .done (.result (.error e)) → SectionStint t l work x
  | working (p : Progress) (n : Nat) : x.Works t l work (x.finish, .waiting p) →
      x.result = .waiting (.working l n p) → SectionStint t l work x
  | ending (out : Except Loss Outcome) (e : Entry) : x.Unlocks t l work out (x.finish, .waiting e) →
      x.result = .waiting (.ending l out e) → SectionStint t l work x
  | replied (w : World) (out : Except Loss Outcome) (r : Reply) :
      x.Unlocks t l work out (w, .done r) → x.finish = w.unshare l →
      x.result = .done (sectionAnswer out r) → SectionStint t l work x

/-- What becomes of a section by what its release has come to. -/
def ended (l : LockId) (out : Except Loss Outcome) :
    World × Poll Entry Reply → World × Poll Progress Outcome
  | (w, .waiting e) => (w, .waiting (.ending l out e))
  | (w, .done r) => (w.unshare l, .done (sectionAnswer out r))

theorem afterEnding_eq : w.afterEnding l out r = (w.unshare l, sectionAnswer out r) := by
  cases out <;> cases r <;> rfl

theorem startEnding_eq :
    w.startEnding t l out = ended l out (w.visit t l (w.unlockErrand l)) := by
  unfold startEnding
  rcases w.visit t l (w.unlockErrand l) with ⟨w', e | r⟩
  · rfl
  · dsimp only
    rw [afterEnding_eq]
    rfl

theorem resumeStep_ending (e : Entry) :
    w.resumeStep t (.ending l out e) = ended l out (w.resumeEntry t l e) := by
  rw [resumeStep]
  rcases w.resumeEntry t l e with ⟨w', e' | r⟩
  · rfl
  · dsimp only
    rw [afterEnding_eq]
    rfl

theorem sectionStint_of_unlocks {y : World × Poll Entry Reply} (hu : x.Unlocks t l work out y)
    (hz : ended l out y = (x.finish, x.result)) : SectionStint t l work x := by
  obtain ⟨w', e | r⟩ := y
  · obtain ⟨rfl, hr⟩ := Prod.mk.inj hz
    exact .ending out e hu hr.symm
  · obtain ⟨hf, hr⟩ := Prod.mk.inj hz
    exact .replied w' out r hu hf.symm hr.symm

theorem sectionStint_of_decides (hd : x.Decides t l work w out)
    (hz : w.startEnding t l out = (x.finish, x.result)) : SectionStint t l work x := by
  rw [startEnding_eq] at hz
  exact sectionStint_of_unlocks (.first w hd) hz

theorem sectionStint_of_applies {y : World × Poll Attempt Reply} (ha : x.Applies t l work y)
    (hz : opened t l work y = (x.finish, x.result)) : SectionStint t l work x := by
  obtain ⟨w, a | e | s⟩ := y
  · obtain ⟨rfl, hr⟩ := Prod.mk.inj hz
    exact .opening a ha hr.symm
  · exact .fails w e ha (Prod.mk.inj hz).2.symm
  · unfold opened startWork at hz
    dsimp only at hz
    split at hz
    · next loss hl => exact sectionStint_of_decides (.early w s loss ha hl) hz
    · next hl =>
      have hw := Stint.Works.first w s ha hl
      rcases hy : w.takeTicket.1.startSteps t work with ⟨w', p | v⟩ <;> rw [hy] at hz hw
      · obtain ⟨rfl, hr⟩ := Prod.mk.inj hz
        exact .working p _ hw hr.symm
      · exact sectionStint_of_decides (.done w' v hw) hz

/-- In the stints the work of the section was not polled. -/
def Unworked (t : TaskId) (l : LockId) (work : List Step) (zs : List Stint) : Prop :=
  ∀ y ∈ zs, ∀ z, ¬ y.Works t l work z

/-- In one of the stints it was decided how the section ends, and since then its work was not
polled. -/
def Resolved (t : TaskId) (l : LockId) (work : List Step) (out : Except Loss Outcome)
    (zs : List Stint) : Prop :=
  ∃ after d before w, zs = after ++ d :: before ∧ d.Decides t l work w out ∧
    Unworked t l work after

/-- How far a section has come by the end of some stints, of which there are none before it
begins. -/
inductive UnderWay (t : TaskId) (l : LockId) (work : List Step) (zs : List Stint) (w : World) :
    Progress → Prop
  | unstarted (label : String) : zs = [] → w.owned? label = some l →
      UnderWay t l work zs w (.unstarted (.exclusive label work))
  | opening (a : Attempt) : Unworked t l work zs → UnderWay t l work zs w (.opening l work a)
  | working (n : Nat) (p : Progress) : UnderWay t l work zs w (.working l n p)
  | ending (out : Except Loss Outcome) (e : Entry) : Resolved t l work out zs → w.Begun l →
      e.call? = some .release → UnderWay t l work zs w (.ending l out e)

/-- What a section does in a stint. -/
theorem sectionStint_of_by (hx : x.By t) (hs : UnderWay t l work xs x.start x.before) :
    SectionStint t l work x := by
  have hz := hx.goes
  generalize hb : x.before = q at hs hz
  cases hs with
  | unstarted label _ ho =>
    rw [resumeStep, startStep_exclusive ho] at hz
    exact sectionStint_of_applies (.first label hb ho) hz
  | opening a _ =>
    rw [resumeStep_opening] at hz
    exact sectionStint_of_applies (.again a hb) hz
  | working n p =>
    unfold resumeStep at hz
    split at hz
    · next loss hl => exact sectionStint_of_decides (.lost n p loss hb hl) hz
    · next hl =>
      have hw : x.Works t l work (x.start.resumeStep t p) := .again n p hb hl
      rcases hy : x.start.resumeStep t p with ⟨w', p' | v⟩ <;> rw [hy] at hz hw
      · obtain ⟨rfl, hr⟩ := Prod.mk.inj hz
        exact .working p' _ hw hr.symm
      · exact sectionStint_of_decides (.done w' v hw) hz
  | ending out e _ _ _ =>
    rw [resumeStep_ending] at hz
    exact sectionStint_of_unlocks (.again e hb) hz

/-! ### What a section may do in one stint -/

theorem Stint.Applies.unique {z z' : World × Poll Attempt Reply} (h : x.Applies t l work z)
    (h' : x.Applies t l work z') : z = z' := by
  cases h with
  | first label hb ho =>
    cases h' with
    | first label' hb' ho' => rfl
    | again a hb' => cases hb.symm.trans hb'
  | again a hb =>
    cases h' with
    | first label' hb' ho' => cases hb.symm.trans hb'
    | again a' hb' => cases hb.symm.trans hb'; rfl

theorem Stint.Applies.before {z : World × Poll Attempt Reply} (h : x.Applies t l work z) :
    (∃ label, x.before = .unstarted (.exclusive label work)) ∨
      ∃ a, x.before = .opening l work a := by
  cases h with
  | first label hb _ => exact .inl ⟨label, hb⟩
  | again a hb => exact .inr ⟨a, hb⟩

theorem Stint.Applies.not_working {z : World × Poll Attempt Reply} {n : Nat}
    (h : x.Applies t l work z) : x.before ≠ .working l' n p := by
  intro hb
  rcases h.before with ⟨_, hb'⟩ | ⟨_, hb'⟩ <;> cases hb.symm.trans hb'

/-- Work is not polled while the acquisition waits, nor after it has failed. -/
theorem Stint.Applies.not_works {y : Poll Attempt Reply} (h : x.Applies t l work (w, y))
    (hy : ∀ s, y ≠ .done (.ok s)) : ¬ x.Works t l work z := by
  rintro (⟨w', s, h', -⟩ | ⟨n, p, hb, -⟩)
  · exact hy s (congrArg Prod.snd (h.unique h'))
  · exact h.not_working hb

theorem Stint.not_works_of_ending {e : Entry} (hb : x.before = .ending l' out e) :
    ¬ x.Works t l work z := by
  rintro (⟨w', s, ha, -⟩ | ⟨n, p, hb', -⟩)
  · rcases ha.before with ⟨_, hb'⟩ | ⟨_, hb'⟩ <;> cases hb.symm.trans hb'
  · cases hb.symm.trans hb'

/-! ### The lock of a section -/

theorem Stint.Applies.granted (h : x.Applies t l work (w, .done (.ok s)))
    (hp : x.before.Proper A) : x.start.Outlives w ∧ w.AtStage l .acquired := by
  generalize hz : (w, Poll.done (Except.ok s)) = z at h
  cases h with
  | first label hb _ => exact startLocking_granted hz.symm
  | again a hb =>
    rw [hb] at hp
    exact resumeAttempt_granted hp.1 hz.symm

theorem Stint.Applies.within {z : World × Poll Attempt Reply} (h : x.Applies t l work z)
    (hp : x.before.Proper A) : Step.AllWithin A work := by
  rcases h.before with ⟨_, hb⟩ | ⟨_, hb⟩ <;> rw [hb] at hp
  · exact hp.2
  · exact hp.2

/-- Work is polled without a loss. -/
theorem Stint.Works.lossless (h : x.Works t l work z) (hp : x.before.Proper A) :
    x.start.lossOf l = none := by
  cases h with
  | first w s ha hl => exact lossOf_eq_none_of_outlives (ha.granted hp).1 hl
  | again n p hb hl => exact hl

/-- The lock is begun when its work is polled, and remains so. -/
theorem Stint.Works.begun (h : x.Works t l work z) (hp : x.before.Proper A)
    (hs : ∀ l ∈ x.before.sections, x.start.Begun l) : z.1.Begun l := by
  cases h with
  | first w s ha hl =>
    have hT := turned_startSteps (A := A) (D := fun _ => True) (t := t) w.takeTicket.1 work
      (ha.within hp)
    have hb : w.Begun l := (ha.granted hp).2.begun (by decide)
    exact (hb.outlives (outlives_takeTicket w)).outlives hT.stretch.moves.outlives
  | again n p hb hl =>
    rw [hb] at hp hs
    have hT := turned_resumeStep (A := A) (D := fun _ => True) (t := t) p x.start hp
      (fun l' hl' => hs l' (List.mem_cons_of_mem l hl')) fun _ _ => trivial
    exact (hs l List.mem_cons_self).outlives hT.stretch.moves.outlives

theorem Stint.Decides.begun (h : x.Decides t l work w out) (hp : x.before.Proper A)
    (hs : ∀ l ∈ x.before.sections, x.start.Begun l) : w.Begun l := by
  cases h with
  | early w s loss ha hl =>
    exact ((ha.granted hp).2.begun (by decide)).outlives (outlives_takeTicket w)
  | lost n p loss hb hl =>
    rw [hb] at hs
    have hm := abandonStep_stretch (A := A) (D := fun _ => True) (t := t) p (fun _ _ => trivial)
      x.start
    exact (hs l List.mem_cons_self).outlives hm.moves.outlives
  | done w v hw => exact hw.begun hp hs

/-- The visit with which a section ends is for the release. -/
theorem unlockErrand_of_begun (hb : w.Begun l) : ∃ k d, w.locks[l]? = some k ∧
    w.unlockErrand l = .release d := by
  obtain ⟨k, hk, -⟩ := hb
  exact ⟨k, k.term.span, hk, by rw [unlockErrand, hk]⟩

/-- A begun lock whose release is over is released. -/
theorem released_of_discharged {y : World × Poll Entry Reply} (hb : y.1.Begun l)
    (hy : Discharged t l k y) (hr : y.2 = .done r) : y.1.AtStage l .released := by
  rcases hy r hr with h | ⟨⟨k', hk', hs⟩, -⟩
  · exact h
  · obtain ⟨k'', hk'', hs'⟩ := hb
    obtain rfl := Option.some.inj (hk'.symm.trans hk'')
    exact absurd hs hs'

/-- What is known of a section that ends, when its release has come to something. -/
theorem UnderWay.decided {y : World × Poll Entry Reply}
    (h : UnderWay t l work xs x.start x.before) (hu : x.Unlocks t l work out y) :
    Resolved t l work out (x :: xs) := by
  cases hu with
  | first w hd => exact ⟨[], x, xs, w, rfl, hd, fun y hy => absurd hy List.not_mem_nil⟩
  | again e hb =>
    generalize hq : x.before = q at h hb
    cases h with
    | ending out' e' hdec _ _ =>
      cases hb
      obtain ⟨after, d, before, w, rfl, hd, hn⟩ := hdec
      refine ⟨x :: after, d, before, w, rfl, hd, fun y hy => ?_⟩
      rcases List.mem_cons.1 hy with rfl | hy
      · exact fun z => Stint.not_works_of_ending hq
      · exact hn y hy
    | unstarted | opening | working => cases hb

/-- The visit for the release leaves the lock begun, and released when it is over. -/
theorem UnderWay.unlocked {y : World × Poll Entry Reply}
    (h : UnderWay t l work xs x.start x.before) (hx : x.By t) (hr : Reachable A x.turn)
    (hu : x.Unlocks t l work out y) : y.1.Begun l ∧
      (∀ e, y.2 = .waiting e → e.call? = some .release) ∧
      ∀ r, y.2 = .done r → y.1.AtStage l .released := by
  obtain ⟨hp, hs⟩ := hx.orderly hr
  cases hu with
  | first w hd =>
    have hb := hd.begun hp hs
    obtain ⟨k, d, hk, he⟩ := unlockErrand_of_begun hb
    have hm := visit_stretch (A := A) (D := fun _ => True) (t := t) (w := w) (l := l) (.release d)
    have hv := served_visit (t := t) (w := w) (l := l) (.release d)
    have hb' := hb.outlives hm.moves.outlives
    rw [he]
    exact ⟨hb', hv.same, fun r hr => released_of_discharged hb' (discharged_visit hk d) hr⟩
  | again e hb =>
    generalize hq : x.before = q at h hb
    cases h with
    | ending out' e' _ hbeg hcall =>
      cases hb
      obtain ⟨k, hk, -⟩ := id hbeg
      have hm := resumeEntry_stretch (A := A) (D := fun _ => True) (t := t) (w := x.start) (l := l)
        e
      have hv := served_resumeEntry (t := t) (w := x.start) (l := l) e
      have hb' := hbeg.outlives hm.moves.outlives
      rw [hcall] at hv
      have hrel : ∀ f limit, e = .releasing f limit → x.start.AtStage l .released := by
        rintro f limit rfl
        have hA := (hx.moves (D := fun _ => True) hr).answerable (answerable_atTurn hr)
        have heng : Function.update x.turn.engagements t x.before.engagement t =
            some ((Entry.releasing f limit).engagement l) := by
          rw [Function.update_self, hq]
          rfl
        exact atStage_of_releasing hA heng
      exact ⟨hb', hv.same,
        fun r hr' => released_of_discharged hb' (discharged_resumeEntry hk hcall hrel) hr'⟩
    | unstarted | opening | working => cases hb

/-! ### From stint to stint -/

/-- What a stint of a section comes to. -/
inductive Comes (t : TaskId) (l : LockId) (work : List Step) (xs : List Stint) (x : Stint) : Prop
  | waits (q : Progress) : x.result = .waiting q → UnderWay t l work (x :: xs) x.finish q →
      Comes t l work xs x
  | fails (w : World) (e : LockFailure) : x.Applies t l work (w, .done (.error e)) →
      x.result = .done (.result (.error e)) → Unworked t l work (x :: xs) → Comes t l work xs x
  | replied (w : World) (out : Except Loss Outcome) (r : Reply) :
      x.Unlocks t l work out (w, .done r) → w.AtStage l .released → x.finish = w.unshare l →
      x.result = .done (sectionAnswer out r) → Resolved t l work out (x :: xs) → Comes t l work xs x

/-- Before its acquisition is over a section has not polled its work. -/
theorem UnderWay.unworked {z : World × Poll Attempt Reply}
    (h : UnderWay t l work xs x.start x.before) (ha : x.Applies t l work z)
    (hz : ∀ s, z.2 ≠ .done (.ok s)) : Unworked t l work (x :: xs) := by
  have hxs : Unworked t l work xs := by
    generalize hq : x.before = q at h
    cases h with
    | unstarted label hnil ho =>
      rw [hnil]
      exact fun y hy => absurd hy List.not_mem_nil
    | opening a hn => exact hn
    | working n p => exact absurd hq ha.not_working
    | ending out e _ _ _ => rcases ha.before with ⟨_, hb⟩ | ⟨_, hb⟩ <;> cases hb.symm.trans hq
  intro y hy
  rcases List.mem_cons.1 hy with rfl | hy
  · exact fun z' => ha.not_works (w := z.1) (y := z.2) hz
  · exact hxs y hy

/-- A section goes on. -/
theorem UnderWay.step (h : UnderWay t l work xs x.start x.before) (hx : x.By t)
    (hr : Reachable A x.turn) : Comes t l work xs x := by
  cases sectionStint_of_by hx h with
  | opening a ha hres =>
    exact .waits _ hres (.opening a (h.unworked ha nofun))
  | fails w e ha hres => exact .fails w e ha hres (h.unworked ha nofun)
  | working p n hw hres => exact .waits _ hres (.working n p)
  | ending out e hu hres =>
    obtain ⟨hb, hcall, -⟩ := h.unlocked hx hr hu
    exact .waits _ hres (.ending out e (h.decided hu) hb (hcall e rfl))
  | replied w out r hu hfin hres =>
    obtain ⟨-, -, hrel⟩ := h.unlocked hx hr hu
    exact .replied w out r hu (hrel r rfl) hfin hres (h.decided hu)

theorem UnderWay.outlives (h : UnderWay t l work (x :: xs) w q) (ho : w.Outlives w') :
    UnderWay t l work (x :: xs) w' q := by
  cases h with
  | unstarted label hnil _ => cases hnil
  | opening a hn => exact .opening a hn
  | working n p => exact .working n p
  | ending out e hd hb hcall => exact .ending out e hd (hb.outlives ho) hcall

theorem AtStage.unshare (h : w.AtStage l s) (l' : LockId) : (w.unshare l').AtStage l s := by
  have hu : (w.updateLock l' fun k => { k with shares := k.shares - 1 }).AtStage l s :=
    (atStage_updateLock (by intro k; rfl)).2 h
  unfold World.unshare
  dsimp only
  split
  · split
    · exact AtStage.quiet ((atStage_updateLock (by intro k; rfl)).2 hu) (quiet_cancelScope _ l')
    · exact hu
  · exact hu

theorem kept_released (A : Step → Prop) (l : LockId) :
    Kept A (fun _ => True) fun w E => w.ledger.Answerable E ∧ w.AtStage l .released where
  books w w' E hu h := by
    rw [ledger_congr hu.clock hu.locks hu.log]
    exact ⟨h.1, h.2.of_locks hu.locks⟩
  later w n E _ h := ⟨⟨h.1.inside, h.1.pending, h.1.apart, h.1.outside⟩, h.2⟩
  move D w w' E t c' _ h hm := ⟨h.1.step hm.ledger, h.2.step h.1 hm.ledger⟩

/-- A lock that is released when a step ends is so when the turn ends. -/
theorem Stint.By.released (hx : x.By t) (hr : Reachable A x.turn) (hres : x.result = .done o)
    (hs : x.finish.AtStage l .released) : (x.turn.poll t).AtStage l .released := by
  obtain ⟨p, hp, hrest⟩ := hx.rest (A := A) hres
  have hA := (hx.moves (D := fun _ => True) hr).answerable (answerable_atTurn hr)
  have hA' := (hx.turned hr).stretch.moves.answerable hA
  rw [hres] at hA'
  exact ((kept_released A l).moving.over hr hp hrest ⟨hA', hs⟩).2

end Leasehold.World
