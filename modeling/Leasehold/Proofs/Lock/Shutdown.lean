import Leasehold.Proofs.Lock.Closing
import Leasehold.Proofs.World.Staffing

/-!
# Shutdown is final

When a shutdown returns, its lock is settled: nothing that is still on its way can take the lease
again, and all watchers have ended.

* `World.Returns`, `World.LetsIn`: the turns in which a shutdown returns, and in which the visit for
  its release is let in.
* `World.Accounts`: how the release of a shutdown went, and what it answers.
* `World.InHand`, `inHand_reachable`: what is known of a shutdown under way.
* `World.shutdown_final`: what holds from the return of a shutdown on, and what it answers.
-/

namespace Leasehold.World

variable {A : Step → Prop} {D : Deed → Prop} {t : TaskId} {w w' w₁ w₂ x : World} {l : LockId}
  {k k' : Lock} {n : Nat} {s : Stage} {E : TaskId → Option Engagement} {p q p' q' : Progress}
  {r : Except LockFailure Unit} {c c' : Option Engagement} {o : Option TaskId}

/-! ### Settled locks -/

/-- A settled lock stays in its stage. -/
theorem Settled.stage (h : Settled l w E) (hA : w.ledger.Answerable E)
    (hm : Move A D t w (E t) w' c') (hs : w.AtStage l s) : w'.AtStage l s := by
  obtain ⟨k, hk, hst⟩ := hs
  obtain ⟨k', hk', -⟩ := hm.outlives l k hk
  refine ⟨k', hk', ?_⟩
  by_cases hi : k'.stage = .idle
  · -- stages only rise, so it was idle before
    obtain ⟨c, hc, -, hrank⟩ := (hA.since_step hm.ledger).stages l _ (core?_ledger hk)
    obtain rfl := Option.some.inj (hc.symm.trans (core?_ledger hk'))
    have hrank : k.stage.rank ≤ k'.stage.rank := hrank
    rw [hi] at hrank
    rw [hi, ← hst]
    cases hst' : k.stage <;> rw [hst'] at hrank <;> first | rfl | simp [Stage.rank] at hrank
  · rcases hm.ledger.stage_cases (core?_ledger hk') hi with ⟨c₀, hc₀, he⟩ | ⟨-, r, n, co, he⟩ |
      ⟨-, ⟨c₀, hc₀, he⟩, -⟩
    · obtain rfl := Option.some.inj (hc₀.symm.trans (core?_ledger hk))
      exact he.symm.trans hst
    · exact absurd he (h.still t r n co)
    · exact absurd ((atStage_core _).2 ⟨c₀, hc₀, he⟩) h.free

theorem kept_settled_stage (A : Step → Prop) (l : LockId) (s : Stage) :
    Kept A (fun _ => True) fun w E =>
      w.ledger.Answerable E ∧ Settled l w E ∧ w.AtStage l s where
  books w w' E hu h := by
    refine ⟨?_, (kept_settled (A := A)).books w w' E hu h.2.1, h.2.2.of_locks hu.locks⟩
    rw [ledger_congr hu.clock hu.locks hu.log]
    exact h.1
  later w n E hn h :=
    ⟨⟨h.1.inside, h.1.pending, h.1.apart, h.1.outside⟩, kept_settled.later (A := A) w n E hn h.2.1,
      h.2.2⟩
  move D w w' E t c' _ h hm := ⟨h.1.step hm.ledger, h.2.1.move hm, h.2.1.stage h.1 hm h.2.2⟩

/-- No run changes the stage of a settled lock. -/
theorem atStage_run (h : Reachable A w) (hl : Settled l w w.engagements) (hs : w.AtStage l s)
    (hr : Run A w w') : w'.AtStage l s :=
  ((kept_settled_stage A l s).run (Reachable.tame h) ⟨answerable_reachable h, hl, hs⟩ hr).2.2

/-- The instance of a settled lock makes no more lease calls. -/
theorem count_requests_settled (h : Reachable A w) (hl : Settled l w w.engagements)
    (hk : w.locks[l]? = some k) (hr : Run A w w') (hk' : w'.locks[l]? = some k')
    (hs : w'.Sole l k') (call : LeaseCall) :
    w'.requests.count (k.request call) = w.requests.count (k.request call) := by
  have ho := outlives_run h hr
  obtain ⟨k'', hk'', he⟩ := ho l k hk
  obtain rfl := Option.some.inj (hk'.symm.trans hk'')
  by_cases hcall : call = .release
  · -- the one release call of an instance is counted by its stage
    subst hcall
    obtain ⟨k₁, hk₁, hst⟩ := atStage_run h hl ⟨k, hk, rfl⟩ hr
    obtain rfl := Option.some.inj (hk'.symm.trans hk₁)
    rw [← he.request, count_release (h.trans hr) hk' hs, he.request,
      count_release h hk (hs.of_outlives ho he.id), hst]
  · exact count_requests_run h hk ((isCancelled_eq hk).symm.trans hl.cancelled) hr hk' hs hcall

/-! ### How the release went -/

/-- The task is in the middle of a shutdown of the lock. -/
def ShuttingDown (w : World) (t : TaskId) (l : LockId) : Prop :=
  ∃ p q, w.activity? t = some (.calling p) ∧ p.shutdown? = some (l, q)

/-- The shutdown `q` of the lock that the task goes on with is let in to the critical section. -/
inductive Enters (w : World) (t : TaskId) (l : LockId) (k : Lock) : Progress → Prop
  | opens (label : String) : w.owned? label = some l → k.queue = [] →
      Enters w t l k (.unstarted (.shutdown label))
  | first (errand : Errand) : k.queue.head? = some t → Enters w t l k (.closing l (.queued errand))

/-- In the next turn of the task its shutdown of the lock is let in to the critical section, where
it finds the stage. -/
def LetsIn (w : World) (t : TaskId) (l : LockId) (s : Stage) : Prop :=
  ∃ p w₁ q k, w.tasks[t]? = some ⟨.calling p, false⟩ ∧ Descends t (w.atTurn t) p w₁ q ∧
    w₁.locks[l]? = some k ∧ k.stage = s ∧ w₁.Enters t l k q

/-- The shutdown of the lock by the task was let in at `x`, and it is still under way. -/
structure Traced (A : Step → Prop) (t : TaskId) (l : LockId) (x : World) (s : Stage) (w : World) :
    Prop where
  reachable : Reachable A x
  letIn : x.LetsIn t l s
  since : RunWhile A (ShuttingDown · t l) (x.poll t) w

theorem Traced.next (h : Traced A t l x s w) (hn : NextBy A w o w') (hs : w'.ShuttingDown t l) :
    Traced A t l x s w' :=
  ⟨h.reachable, h.letIn, h.since.step hn.next hs⟩

/-- The release of a shutdown that was let in at `x`, in the stage `s`, comes to the result: nothing
was held, or the result is that of the release call, whose record is `n`. -/
def Accounts (l : LockId) (x : World) (s : Stage) (n : Nat) (r : Except LockFailure Unit)
    (w : World) (E : TaskId → Option Engagement) : Prop :=
  s ≠ .acquired ∧ r = .ok () ∨
    s = .acquired ∧ x.log.length ≤ n ∧ (∀ t e, E t = some e → e.record? ≠ some n) ∧
      ∃ k a, w.locks[l]? = some k ∧ w.log[n]? = some ⟨x.now, k.request .release, a⟩ ∧
        r = k.verdict a ∧ (a = none → x.now + k.term.span ≤ w.now)

theorem Accounts.move (h : Accounts l x s n r w E) (hm : Move A D t w (E t) w' c') :
    Accounts l x s n r w' (Function.update E t c') := by
  refine h.imp_right ?_
  rintro ⟨hs, hx, hE, k, a, hk, hn, hr, ht⟩
  obtain ⟨k', hk', he⟩ := hm.outlives l k hk
  refine ⟨hs, hx, fun t' e he hen => ?_, k', a, hk', ?_, ?_, ?_⟩
  · by_cases ht' : t' = t
    · subst ht'
      rw [Function.update_self] at he
      rcases hm.ledger.record_cases he hen with ⟨e', he', hen'⟩ | hlen
      · exact hE t' e' he' hen'
      · have hlt : n < w.log.length := (List.getElem?_eq_some_iff.1 hn).1
        exact Nat.lt_irrefl _ (hlen ▸ hlt)
    · rw [Function.update_of_ne ht'] at he
      exact hE t' e he hen
  · rw [he.request]
    exact hm.ledger.log_kept (hE t) hn
  · rw [Lock.verdict_evolves he, hr]
  · rw [he.term, hm.now_eq]
    exact ht

theorem kept_accounts (A : Step → Prop) (l : LockId) (x : World) (s : Stage) (n : Nat)
    (r : Except LockFailure Unit) : Kept A (fun _ => True) (Accounts l x s n r) where
  books w w' E hu h := by
    have hn : w'.now = w.now := congrArg Span.ofMillis hu.clock
    unfold Accounts at h ⊢
    rwa [hu.locks, hu.log, hn]
  later w m E hm h := by
    refine h.imp_right ?_
    rintro ⟨hs, hx, hE, k, a, hk, hn, hr, ht⟩
    exact ⟨hs, hx, hE, k, a, hk, hn, hr,
      fun ha => Nat.le_trans (ht ha) (Nat.mul_le_mul_right _ hm)⟩
  move D w w' E t c' _ h hm := h.move hm

/-- What is known of a shutdown under way. -/
inductive InHand (A : Step → Prop) (t : TaskId) (l : LockId) (w : World) : Progress → Prop
  | queued (k : Lock) : w.locks[l]? = some k →
      InHand A t l w (.closing l (.queued (.release k.term.span)))
  | releasing (x : World) (k : Lock) (f : Flight) (limit : Timer) :
      Traced A t l x .acquired w → x.log.length ≤ f.record →
      f.record < (x.poll t).log.length → w.locks[l]? = some k →
      w.log[f.record]? = some ⟨x.now, k.request .release, none⟩ →
      (x.now + k.term.span).ceilMillis ≤ limit.due →
      InHand A t l w (.closing l (.releasing f limit))
  | joining (x : World) (s : Stage) (n : Nat) (r : Except LockFailure Unit) (m : Nat) :
      Traced A t l x s w → (s = .acquired → n < (x.poll t).log.length) →
      Settled l w w.engagements → Accounts l x s n r w w.engagements →
      InHand A t l w (.joining l r m)

/-- The record of a call on its way stays as it is while another task has its turn. -/
theorem log_kept_next {e : Engagement} {rec : CallRecord} (h : Reachable A w)
    (hn : NextBy A w o w') (ht : t ∉ o) (he : w.engagements t = some e) (hr : e.record? = some n)
    (hrec : w.log[n]? = some rec) : w'.log[n]? = some rec := by
  cases hn with
  | spawn s hs => exact hrec
  | draw ds => exact hrec
  | advance _ _ => rwa [(later_advance w).quiet.log]
  | poll t' =>
    have hne : t' ≠ t := fun hne => ht (congrArg some hne)
    cases poll_cases (Reachable.tame h) t' with
    | absent _ hw => rwa [hw]
    | ended a _ _ hw => rwa [hw]
    | turn w' a a' hT hq =>
      rw [hq.log]
      refine (hT.stretch.moves.log_kept (n := n) hrec fun e' he' hr' => hne ?_).1
      refine (answerable_reachable h).apart t' t e' e n ?_ he hr' hr
      rw [engagements_eq, hT.before]
      exact he'

/-- A turn of another task leaves a shutdown in hand. -/
theorem InHand.other (h : InHand A t l w q) (hw : Reachable A w) (hn : NextBy A w o w') (ht : t ∉ o)
    (hs : w'.ShuttingDown t l) (he : w.engagements t = q.engagement) : InHand A t l w' q := by
  have ho : w.Outlives w' := outlives_run hw (.single hn.next)
  cases h with
  | queued k hk =>
    obtain ⟨k', hk', hev⟩ := ho l k hk
    rw [← hev.term]
    exact .queued k' hk'
  | releasing x k f limit htr hx hlt hk hrec hd =>
    obtain ⟨k', hk', hev⟩ := ho l k hk
    refine .releasing x k' f limit (htr.next hn hs) hx hlt hk' ?_ (by rw [hev.term]; exact hd)
    rw [hev.request]
    exact log_kept_next hw hn ht he rfl hrec
  | joining x s n r m htr hlt hset hacc =>
    have htame := Reachable.tame hw
    exact .joining x s n r m (htr.next hn hs) hlt
      (kept_settled.next htame hset hn fun _ _ => trivial)
      ((kept_accounts A l x s n r).next htame hacc hn fun _ _ => trivial)

/-! ### The visit for the release in a turn -/

/-- What the visit for the release of a shutdown has come to in the turn of the task that begins at
`w`, where `k` is the lock before the visit. -/
inductive Visiting (A : Step → Prop) (t : TaskId) (l : LockId) (w : World) (k : Lock)
    (y : World × Poll Entry Reply) : Prop
  | queued : y.2 = .waiting (.queued (.release k.term.span)) → Visiting A t l w k y
  | admitted (n : Nat) : w.LetsIn t l k.stage → w.log.length ≤ n →
      Admitted k n w.now k.term.span y → Visiting A t l w k y
  | parted (x : World) (n : Nat) : Traced A t l x .acquired w → x.log.length ≤ n →
      n < (x.poll t).log.length → (∃ e, w.engagements t = some e ∧ e.record? = some n) →
      Parted k n x.now k.term.span y → Visiting A t l w k y

/-- The turn of the task that begins at `w` has come to the visit `y` for the release of a
shutdown. -/
structure Closing (A : Step → Prop) (t : TaskId) (l : LockId) (w : World)
    (y : World × Poll Entry Reply) : Prop where
  moves : Moves A (fun _ => True) t (w.atTurn t, w.engagements t)
    (y.1, y.2.engagement fun e => some (e.engagement l))
  visit : ∃ k k', Visiting A t l w k y ∧ y.1.locks[l]? = some k' ∧ Evolves k k'
  still : ∀ r, y.2 = .done r → ¬ y.1.AtStage l .acquired ∧
    ∀ t' r n co, Function.update w.engagements t none t' ≠ some (.calling l .acquire r n co)

section Turns

variable (h : Reachable A w) (htask : w.tasks[t]? = some ⟨.calling p, false⟩)
include h

theorem answerable_atTurn :
    (w.atTurn t).ledger.Answerable (Function.update w.engagements t (w.engagements t)) := by
  rw [Function.update_eq_self]
  exact answerable_reachable h

theorem log_length_of_moves (hm : Moves A D t (w.atTurn t, w.engagements t) (w', c')) :
    w.log.length ≤ w'.log.length := by
  have hp := (hm.since (answerable_atTurn h)).requests.length_le
  rw [Ledger.requests, Ledger.requests, List.length_map, List.length_map] at hp
  exact hp

omit h in
theorem now_of_moves (hm : Moves A D t (w.atTurn t, c) (w', c')) : w'.now = w.now :=
  congrArg Span.ofMillis (Moves.frame hm).clock

include htask

/-- A shutdown begins. -/
theorem closing_of_start {label : String}
    (hd : Descends t (w.atTurn t) p w₁ (.unstarted (.shutdown label)))
    (ho : w₁.owned? label = some l) : ∃ y, Closing A t l w y ∧
      w₁.resumeStep t (.unstarted (.shutdown label)) = closed l y := by
  obtain ⟨k₁, hk₁⟩ := exists_lock_of_owned ho
  refine ⟨_, ?_, startStep_shutdown ho⟩
  generalize hz : (w₁.updateLock l fun k => { k with listed := false }) = z
  have hk : z.locks[l]? = some { k₁ with listed := false } := by
    rw [← hz, getElem?_updateLock, if_pos rfl, hk₁]
    rfl
  have he : z.unlockErrand l = .release k₁.term.span := by rw [unlockErrand, hk]
  rw [he]
  have hm₁ : Moves A (fun _ => True) t (w.atTurn t, w.engagements t) (z, none) := by
    rw [engagements_of_task htask, ← hz]
    exact (hd.moves (orderly_of_task h htask).1).trans unlist_stretch.moves
  have hm₂ : Moves A (fun _ => True) t (z, none) _ :=
    (visit_stretch (t := t) (l := l) (.release k₁.term.span)).moves
  refine ⟨hm₁.trans hm₂, ?_, fun r hr => ?_⟩
  · obtain ⟨k', hk', hev⟩ := hm₂.outlives l _ hk
    refine ⟨_, k', ?_, hk', hev⟩
    rcases visit_cases (t := t) hk (.release k₁.term.span) with ⟨hq, hv⟩ | ⟨-, hv⟩ <;> rw [hv]
    · have hn : z.now = w.now := now_of_moves hm₁
      have ha := admitted_enter (t := t) (d := k₁.term.span) (getElem?_enqueued hk t)
      rw [show (z.updateLock l _).now = w.now from hn] at ha
      refine .admitted _ ⟨p, w₁, _, k₁, htask, hd, hk₁, rfl, .opens label ho hq⟩
        (log_length_of_moves h hm₁) (ha.evolves ?_ rfl)
      exact ⟨rfl, rfl, rfl, id, id, fun _ hl => hl⟩
    · exact .queued rfl
  · have hA := hm₁.answerable (answerable_atTurn h)
    have hm₂' : Moves A (fun _ => True) t (z, Function.update w.engagements t none t) _ :=
      (Function.update_self t none w.engagements).symm ▸ hm₂
    rw [hr] at hm₂'
    have hs := still_of_discharged hk hA hm₂' (discharged_visit hk _) hr
    rwa [Function.update_idem] at hs

/-- A shutdown goes on with its release. -/
theorem closing_of_resume {e : Entry} (hd : Descends t (w.atTurn t) p w₁ (.closing l e))
    (ih : InHand A t l w (.closing l e)) : ∃ y, Closing A t l w y ∧
      w₁.resumeStep t (.closing l e) = closed l y := by
  obtain ⟨rfl, hp⟩ := hd.shutdown rfl
  have heng : w.engagements t = some (e.engagement l) := by
    rw [engagements_of_task htask, Progress.engagement_of_shutdown hp]
    rfl
  refine ⟨_, ?_, resumeStep_closing e⟩
  have hm := (resumeEntry_stretch (A := A) (D := fun _ => True) (t := t) (w := w.atTurn t) (l := l)
    e).moves
  rw [← heng] at hm
  have visit : ∃ k, (w.atTurn t).locks[l]? = some k ∧ e.call? = some .release ∧
      Visiting A t l w k ((w.atTurn t).resumeEntry t l e) := by
    cases ih with
    | queued k hk =>
      have hk : (w.atTurn t).locks[l]? = some k := hk
      refine ⟨k, hk, rfl, ?_⟩
      rcases resumeQueued_cases (t := t) hk (.release k.term.span) with ⟨hq, hv⟩ | ⟨-, hv⟩ <;>
        rw [hv]
      · exact .admitted _ ⟨p, _, _, k, htask, hd, hk, rfl, .first _ hq⟩ (Nat.le_refl _)
          (admitted_enter hk)
      · exact .queued rfl
    | releasing x k f limit htr hx hlt hk hrec hlim =>
      exact ⟨k, hk, rfl, .parted x _ htr hx hlt ⟨_, heng, rfl⟩ (parted_resumeEntry hk hrec hlim)⟩
  obtain ⟨k, hk, hcall, hv⟩ := visit
  refine ⟨hm, ?_, fun r hr => ?_⟩
  · obtain ⟨k', hk', hev⟩ := hm.outlives l k hk
    exact ⟨k, k', hv, hk', hev⟩
  · rw [hr] at hm
    refine still_of_discharged hk (answerable_reachable h) hm
      (discharged_resumeEntry hk hcall ?_) hr
    rintro f limit rfl
    exact (atStage_of_releasing (answerable_reachable h) heng).of_locks rfl

/-- What the moves after the last step of the turn keep holds when the turn is over. -/
theorem Moving.over {I : World → (TaskId → Option Engagement) → Prop}
    (hI : Moving A (fun _ => True) I)
    (hm : Rest A (fun _ => True) t w₂ ((w.atTurn t).resumeStep t p))
    (hw : I w₂ (Function.update w.engagements t none)) : I (w.poll t) (w.poll t).engagements := by
  have hq := poll_calling htask
  have hy := hI.moves hm trivial hw
  rw [(turn_calling htask (orderly_of_task h htask)).engagements hq, engagement_calling]
  exact hI.books _ _ _ hq.unmoved (hI.books _ _ _ (unmoved_setActivity _ t _) hy)

end Turns

theorem rest_of_shutdown (hp : ((w.atTurn t).resumeStep t p).2 = .waiting p')
    (hs : p'.shutdown? = some (l, q')) (hq : q'.engagement = none)
    (hm : Moves A D t (w₂, none) (((w.atTurn t).resumeStep t p).1, none)) :
    Rest A D t w₂ ((w.atTurn t).resumeStep t p) := by
  unfold Rest
  rw [hp, show (Poll.waiting p' : Poll Progress Outcome).engagement Progress.engagement =
    p'.engagement from rfl, Progress.engagement_of_shutdown hs, hq]
  exact hm

/-- Where the shutdown was let in whose visit is over in the turn that begins at `w`. -/
def Origin (A : Step → Prop) (t : TaskId) (l : LockId) (x : World) (s : Stage) (n : Nat)
    (w : World) : Prop :=
  x = w ∧ w.LetsIn t l s ∨ Traced A t l x s w ∧ (s = .acquired → n < (x.poll t).log.length)

theorem Origin.traced (h : Origin A t l x s n w) (hw : Reachable A w)
    (hs : (w.poll t).ShuttingDown t l) : Traced A t l x s (w.poll t) := by
  rcases h with ⟨rfl, hlet⟩ | ⟨htr, -⟩
  · exact ⟨hw, hlet, .start hs⟩
  · exact htr.next (.poll t) hs

theorem Origin.lt (h : Origin A t l x s n w) (ha : Accounts l x s n r (w.poll t) E)
    (hs : s = .acquired) : n < (x.poll t).log.length := by
  rcases h with ⟨rfl, -⟩ | ⟨-, hlt⟩
  · rcases ha with ⟨hne, -⟩ | ⟨-, -, -, k, a, -, hn, -⟩
    · exact absurd hs hne
    · exact (List.getElem?_eq_some_iff.1 hn).1
  · exact hlt hs

/-- A release call that has ended accounts for the release. -/
theorem Parted.accounts {y : World × Poll Entry Reply} {rep : Reply}
    (hp : Parted k n x.now k.term.span y) (hr : y.2 = .done rep) (hk : y.1.locks[l]? = some k')
    (he : Evolves k k') (hx : x.log.length ≤ n)
    (hE : ∀ t' e, t' ≠ t → E t' = some e → e.record? ≠ some n) :
    Accounts l x .acquired n (shutdownResult rep) y.1 (Function.update E t none) := by
  cases hp with
  | waits z f limit => cases hr
  | ends z a rep' hlog hres htime =>
    cases hr
    refine .inr ⟨rfl, hx, fun t' e he' hen => ?_, k', a, hk, ?_, ?_, ?_⟩
    · by_cases ht : t' = t
      · rw [ht, Function.update_self] at he'
        cases he'
      · rw [Function.update_of_ne ht] at he'
        exact hE t' e ht he' hen
    · rw [he.request]
      exact hlog
    · rw [Lock.verdict_evolves he]
      exact hres
    · rw [he.term]
      exact htime

/-- The visit for the release of a shutdown is over: how it went. -/
theorem Closing.accounts {y : World × Poll Entry Reply} {rep : Reply} (hy : Closing A t l w y)
    (h : Reachable A w) (hr : y.2 = .done rep) :
    ∃ x s n, Origin A t l x s n w ∧
      Accounts l x s n (shutdownResult rep) y.1 (Function.update w.engagements t none) := by
  obtain ⟨k, k', hv, hk', he⟩ := hy.visit
  have hA := answerable_reachable h
  cases hv with
  | queued hq => cases hq.symm.trans hr
  | admitted n hlet hn ha =>
    cases ha with
    | free rep' hs hy' hres =>
      cases hr.symm.trans hy'
      exact ⟨w, k.stage, n, .inl ⟨rfl, hlet⟩, .inl ⟨hs, hres⟩⟩
    | held hs hp =>
      rw [hs] at hlet
      refine ⟨w, .acquired, n, .inl ⟨rfl, hlet⟩, hp.accounts hr hk' he hn ?_⟩
      intro t' e _ he' hen
      obtain ⟨rec, hrec, -⟩ := hA.pending t' e n he' hen
      exact Nat.not_lt.2 hn (List.getElem?_eq_some_iff.1 hrec).1
  | parted x n htr hx hlt he' hp =>
    obtain ⟨e, he', hen⟩ := he'
    refine ⟨x, .acquired, n, .inr ⟨htr, fun _ => hlt⟩, hp.accounts hr hk' he hx ?_⟩
    exact fun t' e' hne he'' hen' => hne (hA.apart t' t e' e n he'' he' hen' hen)

/-- The visit for the release of a shutdown is over: with the cancellation the lock is settled. -/
theorem Closing.over {y : World × Poll Entry Reply} {rep : Reply} (hy : Closing A t l w y)
    (h : Reachable A w) (hr : y.2 = .done rep) :
    Settled l (y.1.cancelScope l) (Function.update w.engagements t none) ∧
      ∃ x s n, Origin A t l x s n w ∧ Accounts l x s n (shutdownResult rep) (y.1.cancelScope l)
        (Function.update w.engagements t none) := by
  obtain ⟨-, k', -, hk', -⟩ := hy.visit
  obtain ⟨hfree, hstill⟩ := hy.still rep hr
  refine ⟨⟨isCancelled_cancelScope hk', fun ⟨k₁, hk₁, hs⟩ => hfree ?_, hstill⟩, ?_⟩
  · rw [(quiet_cancelScope y.1 l).locks] at hk₁
    exact (atStage_updateLock (by intro k; rfl)).1 ⟨k₁, hk₁, hs⟩
  · obtain ⟨x, s, n, hx, ha⟩ := hy.accounts h hr
    have hmv := ha.move (t := t) (.cancel (A := A) (D := fun _ => True) l)
    rw [Function.update_eq_self] at hmv
    exact ⟨x, s, n, hx, hmv⟩

/-- The visit for the release of a shutdown goes on. -/
theorem Closing.inHand {y : World × Poll Entry Reply} {e : Entry} (hy : Closing A t l w y)
    (h : Reachable A w) (he : y.2 = .waiting e) (hlocks : (w.poll t).locks = y.1.locks)
    (hlog : (w.poll t).log = y.1.log) (hs : (w.poll t).ShuttingDown t l) :
    InHand A t l (w.poll t) (.closing l e) := by
  obtain ⟨k, k', hv, hk', hev⟩ := hy.visit
  rw [← hlocks] at hk'
  have sent : ∀ {x n}, Traced A t l x .acquired (w.poll t) → x.log.length ≤ n →
      n < (x.poll t).log.length → Parted k n x.now k.term.span y →
      InHand A t l (w.poll t) (.closing l e) := by
    intro x n htr hx hlt hp
    cases hp with
    | waits z f limit hrec hf hlim =>
      cases he
      cases hf
      refine .releasing x k' f limit htr hx hlt hk' ?_ (by rw [hev.term]; exact hlim)
      rw [hlog, hev.request]
      exact hrec
    | ends => cases he
  cases hv with
  | queued hq =>
    cases hq.symm.trans he
    rw [← hev.term]
    exact .queued k' hk'
  | admitted n hlet hn had =>
    cases had with
    | free rep hs' hy' hres => cases hy'.symm.trans he
    | held hst hp =>
      rw [hst] at hlet
      refine sent ⟨h, hlet, .start hs⟩ hn ?_ hp
      cases hp with
      | waits z f limit hrec hf hlim =>
        rw [hlog]
        exact (List.getElem?_eq_some_iff.1 hrec).1
      | ends => cases he
  | parted x n htr hx hlt _ hp => exact sent (htr.next (.poll t) hs) hx hlt hp

/-- A turn that comes to a shutdown comes to its release, or to its wait for the watchers. -/
theorem closing_or_joining (h : Reachable A w) (htask : w.tasks[t]? = some ⟨.calling p, false⟩)
    (hd : Descends t (w.atTurn t) p w₁ q) (hq : w₁.Shuts l q)
    (ih : ∀ q, p.shutdown? = some (l, q) → InHand A t l w q) :
    (∃ y, Closing A t l w y ∧ w₁.resumeStep t q = closed l y) ∨
      w₁ = w.atTurn t ∧ p.shutdown? = some (l, q) ∧ ∃ r m, q = .joining l r m := by
  rcases hq with ⟨label, rfl, ho⟩ | ⟨e, rfl⟩ | ⟨r, m, rfl⟩
  · exact .inl (closing_of_start h htask hd ho)
  · exact .inl (closing_of_resume h htask hd (ih _ (hd.shutdown rfl).2))
  · obtain ⟨hw, hp⟩ := hd.shutdown rfl
    exact .inr ⟨hw, hp, r, m, rfl⟩

/-! ### Shutdowns under way -/

/-- A task that is in the middle of a step after its turn was so before. -/
theorem exists_resumed (hw : w.Tame A) (ha : (w.poll t).activity? t = some (.calling p')) :
    ∃ p, w.tasks[t]? = some ⟨.calling p, false⟩ ∧
      ((w.atTurn t).resumeStep t p).2 = .waiting p' := by
  cases ht : w.tasks[t]? with
  | none =>
    rw [poll, ht, activity?, ht] at ha
    cases ha
  | some task =>
    obtain ⟨a, b⟩ := task
    have hact : w.activity? t = some a := by rw [activity?, ht]; rfl
    cases a with
    | running | finished =>
      rw [show w.poll t = w.dismiss t by rw [poll, ht]; rfl] at ha
      cases hact.symm.trans ha
    | watching l v =>
      rw [activity?_poll_watching hw hact] at ha
      rcases hy : ((w.atTurn t).resumeWatcher t l v).2 with v' | u <;> rw [hy] at ha <;> cases ha
    | calling p =>
      cases b with
      | true =>
        have hT := (abandonStep_stretch (A := A) (D := fun _ => True) (t := t) p
          (fun _ _ => trivial) (w.atTurn t)).moves.frame
        have hfin : (w.poll t).activity? t = some (.finished .aborted) := by
          rw [(poll_aborting ht).activity?, activity?_setActivity, if_pos rfl,
            hT.kept t _ (activity?_atTurn_self hact)]
          rfl
        cases hfin.symm.trans ha
      | false =>
        have hT := turn_calling ht (hw t _ hact)
        rw [hT.activity? (poll_calling ht), if_pos rfl] at ha
        refine ⟨p, rfl, ?_⟩
        rcases hy : ((w.atTurn t).resumeStep t p).2 with p₁ | o <;> rw [hy] at ha <;> cases ha
        rfl

/-- A task whose shutdown waits for the watchers is at no critical section. -/
theorem update_engagements_of_joining {m : Nat} (htask : w.tasks[t]? = some ⟨.calling p, false⟩)
    (hp : p.shutdown? = some (l, .joining l r m)) :
    Function.update w.engagements t none = w.engagements := by
  have he : w.engagements t = none := by
    rw [engagements_of_task htask, Progress.engagement_of_shutdown hp]
    rfl
  rw [← he, Function.update_eq_self]

/-- A turn that comes to a shutdown's wait for the watchers keeps what all turns keep. -/
theorem Kept.joined {I : World → (TaskId → Option Engagement) → Prop} {m : Nat}
    (hI : Kept A (fun _ => True) I) (h : Reachable A w)
    (htask : w.tasks[t]? = some ⟨.calling p, false⟩) (hp : p.shutdown? = some (l, .joining l r m))
    (hrest : Rest A (fun _ => True) t (w.atTurn t) ((w.atTurn t).resumeStep t p))
    (hw : I w w.engagements) : I (w.poll t) (w.poll t).engagements := by
  refine hI.moving.over h htask hrest ?_
  rw [update_engagements_of_joining htask hp]
  exact hI.books _ _ _ (unmoved_atTurn w t) hw

/-- The task's own turn leaves the shutdown that it is in the middle of in hand. -/
theorem InHand.own (h : Reachable A w) (ih : ∀ p q, w.activity? t = some (.calling p) →
      p.shutdown? = some (l, q) → InHand A t l w q)
    (ha : (w.poll t).activity? t = some (.calling p')) (hs : p'.shutdown? = some (l, q')) :
    InHand A t l (w.poll t) q' := by
  obtain ⟨p, htask, hp'⟩ := exists_resumed (Reachable.tame h) ha
  have hact : w.activity? t = some (.calling p) := by rw [activity?, htask]; rfl
  have hq := poll_calling htask
  have hshut : (w.poll t).ShuttingDown t l := ⟨p', q', ha, hs⟩
  obtain ⟨w₁, q, hd, hroot, hy⟩ := exists_descends hp' hs
  rcases closing_or_joining h htask hd hroot (ih p · hact) with ⟨y, hc, he⟩ | ⟨rfl, hp, r, m, rfl⟩
  · rw [he] at hy
    obtain ⟨w₂, e | rep⟩ := y
    · -- the visit goes on
      have hy : (w₂, Poll.waiting (Progress.closing l e)) = _ := hy
      obtain ⟨hw₂, hq'⟩ := Prod.mk.inj hy
      cases hq'
      exact hc.inHand h rfl (by rw [hq.locks, hw₂]; rfl) (by rw [hq.log, hw₂]; rfl) hshut
    · -- the visit is over, and the watchers are waited for
      obtain ⟨hset, x, s, n, hx, hacc⟩ := hc.over h rfl
      rcases afterClosing_cases w₂ l rep with ⟨-, hcl⟩ | ⟨m, hcl⟩
      · cases congrArg Prod.snd (hcl.symm.trans hy)
      · obtain ⟨hw₂, hq'⟩ := Prod.mk.inj (hcl.symm.trans hy)
        cases hq'
        have hrest : Rest A (fun _ => True) t (w₂.cancelScope l) ((w.atTurn t).resumeStep t p) :=
          rest_of_shutdown hp' hs rfl (hw₂ ▸ .single (.quiet (quiet_takeTicket _)))
        have hacc' := (kept_accounts A l x s n _).moving.over h htask hrest hacc
        exact .joining x s n _ m (hx.traced h hshut) (hx.lt hacc')
          (kept_settled.moving.over h htask hrest hset) hacc'
  · -- the watchers have been waited for, and still are
    cases ih p _ hact hp with
    | joining x s n r m htr hlt hset hacc =>
      rw [resumeStep_joining] at hy
      split at hy
      · cases congrArg Prod.snd hy
      · obtain ⟨hw₂, hq'⟩ := Prod.mk.inj hy
        cases hq'
        have hrest : Rest A (fun _ => True) t (w.atTurn t) ((w.atTurn t).resumeStep t p) :=
          rest_of_shutdown hp' hs rfl (hw₂ ▸ .refl)
        exact .joining x s n r m (htr.next (.poll t) hshut) hlt
          (kept_settled.joined h htask hp hrest hset)
          ((kept_accounts A l x s n r).joined h htask hp hrest hacc)

/-- In every reachable world every shutdown under way is in hand. -/
theorem inHand_reachable (h : Reachable A w) (ha : w.activity? t = some (.calling p))
    (hs : p.shutdown? = some (l, q)) : InHand A t l w q := by
  induction h generalizing p q with
  | refl => cases ha
  | @tail w w' hr hn ih =>
    obtain ⟨o, hn⟩ := next_iff.1 hn
    by_cases ht : t ∈ o
    · cases hn with
      | poll t' =>
        cases ht
        exact InHand.own hr (fun p q => ih) ha hs
      | spawn | draw | advance => cases ht
    · rcases activity?_before (Reachable.tame hr) hn ht ha with ha' | hnew
      · refine (ih ha' hs).other hr hn ht ⟨p, q, ha, hs⟩ ?_
        rw [engagements_eq, ha']
        exact Progress.engagement_of_shutdown hs
      · cases p with
        | unstarted s => cases hs
        | _ => cases hnew

/-! ### The return of a shutdown -/

/-- In the next turn of the task a shutdown of the lock returns, and answers `r`. -/
def Returns (w : World) (t : TaskId) (l : LockId) (r : Except LockFailure Unit) : Prop :=
  ∃ p w₁ q w₂, w.tasks[t]? = some ⟨.calling p, false⟩ ∧ Descends t (w.atTurn t) p w₁ q ∧
    w₁.Shuts l q ∧ w₁.resumeStep t q = (w₂, .done (.result r))

theorem not_watching_of_watchersEnded {t' : TaskId} {l' : LockId} {v : Watcher}
    (h : w.watchersEnded l = true) (hk : w.locks[l]? = some k) (ht : t' ∈ k.watchers) :
    w.activity? t' ≠ some (.watching l' v) := by
  intro ha
  obtain ⟨b, htask⟩ := exists_task ha
  have hw : w.watchersOf l = k.watchers := by rw [watchersOf, hk]
  have he := List.all_eq_true.1 h t' (hw ▸ ht)
  rw [htask] at he
  cases he

/-- Watchers that have ended by some point of a turn have ended after it. -/
theorem ended_of_watchersEnded {z : World} {k₁ : Lock} {t' : TaskId} (h : Reachable A w)
    (htask : w.tasks[t]? = some ⟨.calling p, false⟩)
    (hm : Moves A (fun _ => True) t (w.atTurn t, c) (z, c'))
    (hrest : Rest A (fun _ => True) t z ((w.atTurn t).resumeStep t p))
    (he : z.watchersEnded l = true) (hz : z.locks[l]? = some k₁)
    (hk : (w.poll t).locks[l]? = some k) (ht' : t' ∈ k.watchers) : (w.poll t).Ended t' := by
  have hact : w.activity? t = some (.calling p) := by rw [activity?, htask]; rfl
  have hros : (w.poll t).rosters[l]? = some k₁.watchers :=
    (kept_rosters A l k₁.watchers).moving.over h htask hrest (getElem?_rosters hz)
  have hws : k₁.watchers = k.watchers := Option.some.inj (hros.symm.trans (getElem?_rosters hk))
  rw [← hws] at ht'
  have hst := staffed_reachable h
  rcases hm.staffedBut (activity?_atTurn_self hact) (hst.atTurn t) l _ (getElem?_rosters hz) t' ht'
    with ⟨rfl, hold⟩ | ⟨hne, ⟨v, hv⟩ | ⟨o, ho⟩⟩
  · -- the task that shuts the lock down is none of its watchers
    rcases hst l _ hold t' ht' with ⟨v, hv⟩ | ⟨o, ho⟩
    · cases hact.symm.trans hv
    · cases hact.symm.trans ho
  · exact absurd hv (not_watching_of_watchersEnded he hz ht')
  · refine ⟨o, ?_⟩
    rw [(turn_calling htask (orderly_of_task h htask)).activity? (poll_calling htask),
      if_neg (Ne.symm hne)]
    exact (Moves.frame hrest).kept t' _ ho

/-- What is known when a shutdown that answers `r` has returned in the turn that begins at `w`. -/
structure Returned (A : Step → Prop) (t : TaskId) (l : LockId) (r : Except LockFailure Unit)
    (w : World) : Prop where
  settled : Settled l (w.poll t) (w.poll t).engagements
  account : ∃ x s n, Origin A t l x s n w ∧ Accounts l x s n r (w.poll t) (w.poll t).engagements
  ended : ∀ k, (w.poll t).locks[l]? = some k → ∀ t' ∈ k.watchers, (w.poll t).Ended t'

/-- A shutdown returns when its release is over and the watchers have ended. -/
theorem returned_of_watchersEnded {z : World} (h : Reachable A w)
    (htask : w.tasks[t]? = some ⟨.calling p, false⟩)
    (hm : Moves A (fun _ => True) t (w.atTurn t, c) (z, c'))
    (hrest : Rest A (fun _ => True) t z ((w.atTurn t).resumeStep t p))
    (he : z.watchersEnded l = true) (hset : Settled l z (Function.update w.engagements t none))
    (hx : Origin A t l x s n w)
    (hacc : Accounts l x s n r z (Function.update w.engagements t none)) : Returned A t l r w := by
  obtain ⟨k₁, hz⟩ := exists_lock_of_isCancelled hset.cancelled
  exact ⟨kept_settled.moving.over h htask hrest hset,
    ⟨x, s, n, hx, (kept_accounts A l x s n r).moving.over h htask hrest hacc⟩,
    fun k hk t' ht' => ended_of_watchersEnded h htask hm hrest he hz hk ht'⟩

theorem Returns.returned (h : Reachable A w) (hr : w.Returns t l r) : Returned A t l r w := by
  obtain ⟨p, w₁, q, w₂, htask, hd, hroot, hy⟩ := hr
  have hact : w.activity? t = some (.calling p) := by rw [activity?, htask]; rfl
  have hrest : ∀ z : World, z.unshare l = w₂ →
      Rest A (fun _ => True) t z ((w.atTurn t).resumeStep t p) := by
    rintro z rfl
    exact unshare_stretch.moves.trans (hd.rest hy)
  rcases closing_or_joining h htask hd hroot (fun q hs => inHand_reachable h hact hs) with
    ⟨⟨w₃, e | rep⟩, hc, he⟩ | ⟨rfl, hp, r', m, rfl⟩
  · cases congrArg Prod.snd (he.symm.trans hy)
  · -- the watchers had ended by the end of the release
    obtain ⟨hset, x, s, n, hx, hacc⟩ := hc.over h rfl
    rcases afterClosing_cases w₃ l rep with ⟨hend, hcl⟩ | ⟨m, hcl⟩
    · obtain ⟨hw₂, hres⟩ := Prod.mk.inj (hcl.symm.trans (he.symm.trans hy))
      cases hres
      exact returned_of_watchersEnded h htask (hc.moves.tail (.cancel l)) (hrest _ hw₂) hend hset hx
        hacc
    · cases congrArg Prod.snd (hcl.symm.trans (he.symm.trans hy))
  · -- the watchers have been waited for
    cases inHand_reachable h hact hp with
    | joining x s n _ m htr hlt hset hacc =>
      rw [resumeStep_joining] at hy
      split at hy
      · next hend =>
        obtain ⟨hw₂, hres⟩ := Prod.mk.inj hy
        cases hres
        refine returned_of_watchersEnded (c := none) h htask .refl (hrest _ hw₂) hend ?_
          (.inr ⟨htr, hlt⟩) ?_ <;> rw [update_engagements_of_joining htask hp]
        · exact (kept_settled (A := A)).books _ _ _ (unmoved_atTurn w t) hset
        · exact (kept_accounts A l x s n r).books _ _ _ (unmoved_atTurn w t) hacc
      · cases congrArg Prod.snd hy

/-- Shutdown is final.  When it returns, the lock is cancelled and not acquired, and its watchers
have ended; from then on its stage never changes, and its instance makes no more lease calls.  It
answers that all is well if its release found nothing held, and otherwise what the call of its
release came to. -/
theorem shutdown_final (h : Reachable A w) (hr : w.Returns t l r) :
    ∃ k, (w.poll t).locks[l]? = some k ∧ k.cancelled = true ∧ k.stage ≠ .acquired ∧
      (∀ t' ∈ k.watchers, (w.poll t).Ended t') ∧
      (∀ w' k', Run A (w.poll t) w' → w'.locks[l]? = some k' → k'.stage = k.stage ∧
        (w'.Sole l k' → ∀ call, w'.requests.count (k.request call) =
          (w.poll t).requests.count (k.request call))) ∧
      ∃ x s, Reachable A x ∧ x.LetsIn t l s ∧
        (x = w ∨ RunWhile A (ShuttingDown · t l) (x.poll t) w) ∧
        (s ≠ .acquired → r = .ok ()) ∧
        (s = .acquired → ∃ n a, x.log.length ≤ n ∧ n < (x.poll t).log.length ∧
          (w.poll t).log[n]? = some ⟨x.now, k.request .release, a⟩ ∧ r = k.verdict a ∧
          (a = none → x.now + k.term.span ≤ (w.poll t).now)) := by
  have hp : Reachable A (w.poll t) := h.tail (.poll t)
  obtain ⟨hset, ⟨x, s, n, hx, hacc⟩, hend⟩ := hr.returned h
  obtain ⟨k, hk⟩ := exists_lock_of_isCancelled hset.cancelled
  refine ⟨k, hk, (isCancelled_eq hk).symm.trans hset.cancelled, fun hs => hset.free ⟨k, hk, hs⟩,
    hend k hk, fun w' k' hr hk' => ⟨?_, fun hs call => ?_⟩, x, s, ?_, ?_, ?_, ?_, ?_⟩
  · obtain ⟨k'', hk'', hs⟩ := atStage_run hp hset ⟨k, hk, rfl⟩ hr
    obtain rfl := Option.some.inj (hk'.symm.trans hk'')
    exact hs
  · exact count_requests_settled hp hset hk hr hk' hs call
  · rcases hx with ⟨rfl, -⟩ | ⟨htr, -⟩
    · exact h
    · exact htr.reachable
  · rcases hx with ⟨rfl, hlet⟩ | ⟨htr, -⟩
    · exact hlet
    · exact htr.letIn
  · exact hx.imp And.left fun ⟨htr, _⟩ => htr.since
  · intro hs
    rcases hacc with ⟨-, hok⟩ | ⟨hs', -⟩
    · exact hok
    · exact absurd hs' hs
  · intro hs
    have hlt := hx.lt hacc hs
    rcases hacc with ⟨hs', -⟩ | ⟨-, hle, -, k₁, a, hk₁, hlog, hres, htime⟩
    · exact absurd hs hs'
    · obtain rfl := Option.some.inj (hk.symm.trans hk₁)
      exact ⟨n, a, hle, hlt, hlog, hres, htime⟩

/-- A task whose shutdown waits for watchers that have ended returns. -/
theorem returns_of_joining {past : List Outcome} {rest : List Step} {m : Nat}
    (htask : w.tasks[t]? = some ⟨.calling (.listing past (.joining l r m) rest), false⟩)
    (he : (w.atTurn t).watchersEnded l = true) : w.Returns t l r :=
  ⟨_, _, _, _, htask, .listing past rest (.here _ _), .inr (.inr ⟨r, m, rfl⟩), by
    rw [resumeStep_joining, if_pos he]
    rfl⟩

/-- The task is in the middle of a list of steps, where a shutdown waits for the watchers. -/
def isJoining (l : LockId) (r : Except LockFailure Unit) : Task → Bool
  | ⟨.calling (.listing _ (.joining l' r' _) _), false⟩ => l' == l && decide (r' = r)
  | _ => false

theorem exists_joining (h : w.tasks[t]?.any (isJoining l r) = true) : ∃ past rest m,
    w.tasks[t]? = some ⟨.calling (.listing past (.joining l r m) rest), false⟩ := by
  cases htask : w.tasks[t]? with
  | none => rw [htask] at h; cases h
  | some task =>
    rw [htask] at h
    change isJoining l r task = true at h
    unfold isJoining at h
    split at h
    · obtain ⟨hl, hr⟩ := Bool.and_eq_true_iff.1 h
      obtain rfl := eq_of_beq hl
      obtain rfl := of_decide_eq_true hr
      exact ⟨_, _, _, rfl⟩
    · cases h

/-- A shutdown whose release call was refused has waited for the watcher of its lock. -/
def refused : World :=
  turn^[10] (ofScript [.create "a" "alpha" (.ofSeconds 15) [.guard (.ofSeconds 5)] "p" ⟨"i"⟩,
    .acquireOnce "a",
    .plan .release ⟨.ofSeconds 2, some (.error (.status 503 none)), .zero, none⟩ 1,
    .spawn "u" (.acquireOnce "a"), .shutdown "a", .stage "a"])

theorem reachable_refused : Reachable (fun _ => True) refused :=
  reachable_ofScript (by simp [Step.Within, Step.AllWithin]) 10

/-- The shutdown returns what its release call was answered. -/
theorem shutdown_final_refused : refused.Returns 0 0 (.error (.call (.status 503 none))) ∧
    ∃ k, (refused.poll 0).locks[0]? = some k ∧ k.cancelled = true ∧ k.stage = .released ∧
      k.watchers = [1] ∧ (refused.poll 0).Ended 1 ∧
      (∀ n k', (turn^[n] (refused.poll 0)).locks[0]? = some k' → k'.stage = .released) ∧
      ∃ (n : Nat) (b : Span) (a : Option Answer),
        (refused.poll 0).log[n]? = some ⟨b, k.request .release, a⟩ ∧
        k.verdict a = .error (.call (.status 503 none)) := by
  obtain ⟨past, rest, m, htask⟩ := exists_joining (w := refused) (t := 0) (l := 0)
    (r := .error (.call (.status 503 none))) (by decide +kernel)
  have hr := returns_of_joining htask (by decide +kernel)
  obtain ⟨k, hk, hc, -, hend, hfinal, x, s, -, -, -, hfree, hheld⟩ :=
    shutdown_final reachable_refused hr
  have he : ((refused.poll 0).locks[0]?.map fun k => (k.stage, k.watchers)) =
      some (.released, [1]) := by decide +kernel
  rw [hk, Option.map_some, Option.some.injEq, Prod.mk.injEq] at he
  obtain ⟨hst, hw⟩ := he
  obtain ⟨n, a, -, -, hn, ha, -⟩ := hheld (Classical.byContradiction fun hs => by cases hfree hs)
  exact ⟨hr, k, hk, hc, hst, hw, hend 1 (by simp [hw]),
    fun n k' hk' => (hfinal _ k' (run_iterate_turn _ n) hk').1.trans hst, n, _, a, hn, ha.symm⟩

end Leasehold.World
