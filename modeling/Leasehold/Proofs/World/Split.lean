import Mathlib.Tactic.Common
import Leasehold.Proofs.World.Part

/-!
# A world that falls into two parts

`Split c R Q x v w` says that the world `w` falls into the part `v` that the choice takes out and
the rest `x`.  Whatever a task of `v` does in its turn it does in `w` as well, and the two worlds
still fall apart in the same way: the rest is as it was.

* `Split.swap`: both parts count alike.
* `Joint`: two computations, in a part and in the whole, that come to the same.
* `Split.update`, `Split.wakeAll`, `Split.called`, …: the elementary changes.
* `Split.visit`: a visit to the critical section.
-/

namespace Leasehold

/-- The world `w` falls into the part `v` that the choice takes out and the rest `x`.  The random
delays to come are for the part. -/
structure Split {S : Setting} (c : Choice S) (R Q : Pairing) (x v w : World) : Prop where
  part : Part c R v w
  rest : Part c.others Q x w
  apart : ∀ t t' u, R.TaskIs t u → ¬Q.TaskIs t' u
  draws : v.draws = w.draws
  calmPart : v.Calm
  calmRest : x.Calm
  calm : w.Calm

/-- Two computations come to the same: the worlds are related, and so are the results. -/
def Joint {α : Type} (P : World → World → Prop) (E : α → α → Prop) (y z : World × α) : Prop :=
  ∃ v w a b, y = (v, a) ∧ z = (w, b) ∧ P v w ∧ E a b

/-- Both wait, or both are done with the same. -/
inductive Poll.Like {α β : Type} (E : α → α → Prop) : Poll α β → Poll α β → Prop
  | waiting {a b : α} : E a b → Like E (.waiting a) (.waiting b)
  | done (r : β) : Like E (.done r) (.done r)

theorem Joint.mk {α : Type} {P : World → World → Prop} {E : α → α → Prop} {v w : World} {a b : α}
    (h : P v w) (hab : E a b) : Joint P E (v, a) (w, b) :=
  ⟨v, w, a, b, rfl, rfl, h, hab⟩

namespace Split

variable {S : Setting} {c : Choice S} {R Q : Pairing} {x v w : World} {t u : TaskId} {l m : LockId}

/-- The rest is what the opposite choice takes out, and the part is then the rest. -/
theorem swap (h : Split c R Q x v w) (hd : x.draws = w.draws) : Split c.others Q R v x w where
  part := h.rest
  rest := c.others_others.symm ▸ h.part
  apart t t' u ht ht' := h.apart t' t u ht' ht
  draws := hd
  calmPart := h.calmRest
  calmRest := h.calmPart
  calm := h.calm

/-- No lock is in both parts. -/
theorem lockApart (h : Split c R Q x v w) (hl : R.LockIs l m) (l' : LockId) : ¬Q.LockIs l' m := by
  intro hl'
  obtain ⟨-, k, -, hk, -, hn⟩ := h.part.locks l m hl
  obtain ⟨-, k', -, hk', -, hn'⟩ := h.rest.locks l' m hl'
  obtain rfl := Option.some.inj (hk.symm.trans hk')
  change (!c.name k.name) = true at hn'
  rw [hn] at hn'
  cases hn'

/-- The same lock in the part and in the whole. -/
theorem lock (h : Split c R Q x v w) (hl : R.LockIs l m) :
    ∃ k ws, v.locks[l]? = some { k with watchers := ws } ∧ w.locks[m]? = some k ∧
      List.Forall₂ R.TaskIs ws k.watchers ∧ c.name k.name = true := by
  obtain ⟨k, k', hk, hk', hlike, hn⟩ := h.part.locks l m hl
  exact ⟨k', k.watchers, hlike.same ▸ hk, hk', hlike.watchers, hn⟩

theorem isCancelled (h : Split c R Q x v w) (hl : R.LockIs l m) :
    v.isCancelled l = w.isCancelled m := by
  obtain ⟨k, ws, hk, hk', -⟩ := h.lock hl
  unfold World.isCancelled
  rw [hk, hk']

theorem lossOf (h : Split c R Q x v w) (hl : R.LockIs l m) : v.lossOf l = w.lossOf m := by
  obtain ⟨k, ws, hk, hk', -⟩ := h.lock hl
  unfold World.lossOf
  rw [hk, hk']

theorem hasFired (h : Split c R Q x v w) (due i j : Nat) :
    v.hasFired ⟨due, i⟩ = w.hasFired ⟨due, j⟩ := by
  unfold World.hasFired
  rw [h.part.clock]

/-! ### Books -/

theorem ticket (h : Split c R Q x v w) (i j : Nat) :
    Split c R Q x { v with ticket := i } { w with ticket := j } where
  part := { h.part with }
  rest := { h.rest with }
  apart := h.apart
  draws := h.draws
  calmPart := { h.calmPart with }
  calmRest := h.calmRest
  calm := { h.calm with }

/-- A timer for the same millisecond. -/
theorem timer (h : Split c R Q x v w) (d : Span) :
    ∃ due i j, v.timer d = ((v.timer d).1, ⟨due, i⟩) ∧ w.timer d = ((w.timer d).1, ⟨due, j⟩) ∧
      Split c R Q x (v.timer d).1 (w.timer d).1 := by
  refine ⟨(w.now + d).ceilMillis, v.ticket, w.ticket, ?_, rfl, h.ticket _ _⟩
  rw [← h.part.now]
  rfl

theorem note (h : Split c R Q x v w) (e e' : String) : Split c R Q x (v.note e) (w.note e') where
  part := { h.part with }
  rest := { h.rest with }
  apart := h.apart
  draws := h.draws
  calmPart := { h.calmPart with }
  calmRest := h.calmRest
  calm := { h.calm with }

/-- The random delays to come are given. -/
theorem withDraws (h : Split c R Q x v w) (ds : List Draw) :
    Split c R Q x { v with draws := ds } { w with draws := ds } :=
  { h with
    part := { h.part with }
    rest := { h.rest with }
    draws := rfl
    calmPart := { h.calmPart with }
    calm := { h.calm with } }

theorem takeDraw (h : Split c R Q x v w) :
    Joint (Split c R Q x) (· = ·) v.takeDraw w.takeDraw := by
  unfold World.takeDraw
  rw [h.draws]
  split
  · exact .mk h rfl
  · exact .mk (h.withDraws _) rfl

/-- The process exits. -/
theorem exit (h : Split c R Q x v w) (status : Nat) :
    Split c R Q x { v with exited := some status } { w with exited := some status } where
  part := { h.part with exited := fun h => by cases h }
  rest := { h.rest with exited := fun h => by cases h }
  apart := h.apart
  draws := h.draws
  calmPart := { h.calmPart with }
  calmRest := h.calmRest
  calm := { h.calm with }

/-! ### Who is woken -/

/-- An event that is the same in the part and in the whole, and does not concern the rest. -/
theorem wakeAll (h : Split c R Q x v w) {p q : Wait → Bool}
    (hpq : ∀ x y, Wait.Like R x y → p x = q y) (hq : ∀ x y, Wait.Like Q x y → q y = false) :
    Split c R Q x (v.wakeAll p) (w.wakeAll q) where
  part := h.part.wakeAll h.calmPart.unyielding h.calm.unyielding hpq
  rest := h.rest.wakeAll_rest h.calm.unyielding hq
  apart := h.apart
  draws := by
    rw [World.draws_wakeAll h.calmPart.unyielding, World.draws_wakeAll h.calm.unyielding]
    exact h.draws
  calmPart := h.calmPart.wakeAll p
  calmRest := h.calmRest
  calm := h.calm.wakeAll q

/-! ### Changes of a lock -/

/-- The same change of the same lock. -/
theorem update (h : Split c R Q x v w) (hl : R.LockIs l m) (f : Lock → Lock)
    (hf : ∀ k ws, f { k with watchers := ws } = { f k with watchers := ws })
    (hn : ∀ k, (f k).name = k.name) (hq : ∀ k, (f k).queue = k.queue) :
    Split c R Q x (v.updateLock l f) (w.updateLock m f) where
  part := h.part.update hl hf hn
  rest := h.rest.update_rest (h.lockApart hl) f
  apart := h.apart
  draws := h.draws
  calmPart := h.calmPart.updateLock hq
  calmRest := h.calmRest
  calm := h.calm.updateLock hq

/-- An event in the part, which nobody in the rest can wait for. -/
theorem wakeFor (h : Split c R Q x v w) {y z : Wait} (hyz : y.Like R z)
    (hz : ∀ y' : Wait, ¬y'.Like Q z) : Split c R Q x (v.wakeAll (· == y)) (w.wakeAll (· == z)) := by
  refine h.wakeAll (fun y' z' hyz' => ?_) fun y' z' hyz' => ?_
  · rw [Bool.eq_iff_iff, beq_iff_eq, beq_iff_eq]
    exact hyz.eq_iff h.part.distinctTasks h.part.distinctLocks hyz'
  · exact beq_eq_false_iff_ne.2 fun he => hz y' (he ▸ hyz')

theorem cancelScope (h : Split c R Q x v w) (hl : R.LockIs l m) :
    Split c R Q x (v.cancelScope l) (w.cancelScope m) := by
  unfold World.cancelScope
  rw [h.isCancelled hl]
  split
  · exact h
  · refine wakeFor (h.update hl (fun k => { k with cancelled := true }) (fun _ _ => rfl)
      (fun _ => rfl) fun _ => rfl) (.scope hl) fun y hy => ?_
    cases hy with
    | scope hl' => exact h.lockApart hl _ hl'

theorem raiseLoss (h : Split c R Q x v w) (hl : R.LockIs l m) (reason : String) :
    Split c R Q x (v.raiseLoss l reason) (w.raiseLoss m reason) := by
  obtain ⟨k, ws, hk, hk', -⟩ := h.lock hl
  unfold World.raiseLoss
  rw [hk, hk']
  dsimp only
  have hu := h.update hl
    (fun k' => { k' with lossCell := (k.lossCell.raise ⟨k.name.text, k.id, reason⟩).1 })
    (fun _ _ => rfl) (fun _ => rfl) fun _ => rfl
  split
  · refine cancelScope (hu.wakeFor (.loss hl) fun y hy => ?_) hl
    cases hy with
    | loss hl' => exact h.lockApart hl _ hl'
  · exact hu.cancelScope hl

theorem share (h : Split c R Q x v w) (hl : R.LockIs l m) :
    Split c R Q x (v.share l) (w.share m) :=
  h.update hl _ (fun _ _ => rfl) (fun _ => rfl) fun _ => rfl

theorem setStage (h : Split c R Q x v w) (hl : R.LockIs l m) (s : Stage) :
    Split c R Q x (v.setStage l s) (w.setStage m s) :=
  h.update hl _ (fun _ _ => rfl) (fun _ => rfl) fun _ => rfl

theorem unshare (h : Split c R Q x v w) (hl : R.LockIs l m) :
    Split c R Q x (v.unshare l) (w.unshare m) := by
  have hu := h.update hl (fun k => { k with shares := k.shares - 1 }) (fun _ _ => rfl)
    (fun _ => rfl) fun _ => rfl
  obtain ⟨k, ws, hk, hk', -⟩ := hu.lock hl
  unfold World.unshare
  dsimp only
  rw [hk, hk']
  dsimp only
  split
  · exact hu.cancelScope hl
  · exact hu

theorem dropLock (h : Split c R Q x v w) (hl : R.LockIs l m) :
    Joint (Split c R Q x) (· = ·) (v.dropLock l) (w.dropLock m) := by
  obtain ⟨k, ws, hk, hk', -⟩ := h.lock hl
  unfold World.dropLock
  rw [hk, hk']
  dsimp only
  split
  · exact .mk (unshare (h.update hl (fun k => { k with listed := false }) (fun _ _ => rfl)
      (fun _ => rfl) fun _ => rfl) hl) rfl
  · exact .mk h rfl

/-! ### New tasks and locks -/

/-- A new task of the part. -/
theorem spawn (h : Split c R Q x v w) {a b : Activity} (hab : a.Like c R b) :
    Split c (R.withTask w.tasks.length) Q x (v.spawn a).1 (w.spawn b).1 where
  part := h.part.spawn hab
  rest := h.rest.spawn_rest b
  apart t t' u ht ht' := by
    rcases Part.withTask_cases ht with ht | ⟨-, rfl⟩
    · exact h.apart t t' u ht ht'
    · exact Nat.lt_irrefl _ (h.rest.taskIs_lt ht').2
  draws := h.draws
  calmPart := h.calmPart.spawn a
  calmRest := h.calmRest
  calm := h.calm.spawn b

/-- A new watcher of a lock of the part. -/
theorem watch (h : Split c R Q x v w) (hl : R.LockIs l m) {a : Watcher} (ha : a.Like a) :
    ∃ R', R.Within R' ∧ Split c R' Q x
      ((v.spawn (.watching l a)).1.updateLock l fun k =>
        { k with watchers := k.watchers ++ [(v.spawn (.watching l a)).2] })
      ((w.spawn (.watching m a)).1.updateLock m fun k =>
        { k with watchers := k.watchers ++ [(w.spawn (.watching m a)).2] }) := by
  have hs := h.spawn (.watching hl ha)
  have hR := R.within_withTask w.tasks.length
  have hl' := hR.lockIs hl
  have ht : (R.withTask w.tasks.length).TaskIs v.tasks.length w.tasks.length := by
    rw [← h.part.allTasks]
    exact Part.taskIs_withTask R _
  exact ⟨_, hR, {
    part := hs.part.staff hl' ht
    rest := hs.rest.update_rest (hs.lockApart hl') _
    apart := hs.apart
    draws := hs.draws
    calmPart := hs.calmPart.updateLock fun _ => rfl
    calmRest := hs.calmRest
    calm := hs.calm.updateLock fun _ => rfl }⟩

/-- A new lock of the part. -/
theorem found (h : Split c R Q x v w) (k : Lock) (hw : k.watchers = []) (hq : k.queue = [])
    (hn : c.name k.name = true) :
    Split c (R.withLock w.locks.length) Q x { v with locks := v.locks ++ [k] }
      { w with locks := w.locks ++ [k] } where
  part := h.part.found k hw hn
  rest := h.rest.found_rest k
  apart := h.apart
  draws := h.draws
  calmPart := h.calmPart.found hq
  calmRest := h.calmRest
  calm := h.calm.found hq

/-- A lock of the part gets a label. -/
theorem label (h : Split c R Q x v w) (hl : R.LockIs l m) {s : String} (hs : c.label s = true) :
    Split c R Q x { v with labels := (s, l) :: v.labels }
      { w with labels := (s, m) :: w.labels } where
  part := h.part.label hl hs
  rest := h.rest.label_rest (by simp [Choice.others, hs])
  apart := h.apart
  draws := h.draws
  calmPart := { h.calmPart with }
  calmRest := h.calmRest
  calm := { h.calm with }

/-! ### Turns -/

theorem setActivity (h : Split c R Q x v w) (ht : R.TaskIs t u) {a b : Activity}
    (hab : a.Like c R b) : Split c R Q x (v.setActivity t a) (w.setActivity u b) where
  part := h.part.setActivity ht hab
  rest := h.rest.setActivity_rest (fun t' => h.apart t t' u ht) b
  apart := h.apart
  draws := h.draws
  calmPart := h.calmPart.modifyTask _
  calmRest := h.calmRest
  calm := h.calm.modifyTask _

theorem dismiss (h : Split c R Q x v w) (ht : R.TaskIs t u) :
    Split c R Q x (v.dismiss t) (w.dismiss u) where
  part := h.part.dismiss h.calmPart h.calm ht
  rest := h.rest.dismiss_rest fun t' => h.apart t t' u ht
  apart := h.apart
  draws := h.draws
  calmPart := h.calmPart.dismiss t
  calmRest := h.calmRest
  calm := h.calm.dismiss u

theorem finish (h : Split c R Q x v w) (ht : R.TaskIs t u) (o : Outcome) :
    Split c R Q x (v.finish t o) (w.finish u o) := by
  refine (h.setActivity ht (.finished o)).wakeFor (.finish ht) fun y hy => ?_
  cases hy with
  | finish ht' => exact h.apart _ _ u ht ht'

theorem wake (h : Split c R Q x v w) (ht : R.TaskIs t u) :
    Split c R Q x (v.wake t) (w.wake u) := by
  obtain ⟨y, z, hy, hz, -⟩ := h.part.tasks t u ht
  obtain ⟨hv, r, hr, -⟩ := h.calmPart.wake hy
  obtain ⟨hw, r', hr', -⟩ := h.calm.wake hz
  exact {
    part := h.part.wake h.calmPart h.calm ht
    rest := h.rest.wake_rest h.calm hz fun t' => h.apart t t' u ht
    apart := h.apart
    draws := by
      rw [hr, hr']
      exact h.draws
    calmPart := hv
    calmRest := h.calmRest
    calm := hw }

/-- A task of the part is told to give up. -/
theorem abortTask (h : Split c R Q x v w) (ht : R.TaskIs t u) :
    Split c R Q x (v.abortTask t) (w.abortTask u) := by
  obtain ⟨y, z, hy, hz, hlike⟩ := h.part.tasks t u ht
  have hm : Split c R Q x
      { v with tasks := v.tasks.modify t fun task => { task with aborting := true } }
      { w with tasks := w.tasks.modify u fun task => { task with aborting := true } } :=
    { h with
      part := h.part.modifyTask ht fun _ _ hyz => ⟨hyz.activity, rfl⟩
      rest := h.rest.modifyTask_rest (fun t' => h.apart t t' u ht) _
      calmPart := h.calmPart.modifyTask _
      calm := h.calm.modifyTask _ }
  unfold World.abortTask
  rw [hy, hz]
  dsimp only
  rw [hlike.activity.isFinished]
  split
  · exact h
  · exact hm.wake ht

/-! ### What happens to the whole world -/

/-- The parent scope ends for both parts. -/
theorem cancelParent (h : Split c R Q x v w) (p : String) :
    Split c R Q (x.cancelParent p) (v.cancelParent p) (w.cancelParent p) where
  part := h.part.cancelParent h.calmPart h.calm p
  rest := h.rest.cancelParent h.calmRest h.calm p
  apart := h.apart
  draws := by
    rw [(h.calmPart.cancelParent p).2, (h.calm.cancelParent p).2]
    exact h.draws
  calmPart := (h.calmPart.cancelParent p).1
  calmRest := (h.calmRest.cancelParent p).1
  calm := (h.calm.cancelParent p).1

/-- Time passes for both parts. -/
theorem advanceTo (h : Split c R Q x v w) (n : Nat) :
    Split c R Q (x.advanceTo n) (v.advanceTo n) (w.advanceTo n) where
  part := h.part.advanceTo h.calmPart h.calm n
  rest := h.rest.advanceTo h.calmRest h.calm n
  apart := h.apart
  draws := by
    rw [(h.calmPart.advanceTo n).2, (h.calm.advanceTo n).2]
    exact h.draws
  calmPart := (h.calmPart.advanceTo n).1
  calmRest := (h.calmRest.advanceTo n).1
  calm := (h.calm.advanceTo n).1

/-! ### Calls -/

/-- A call about an object of the part. -/
theorem called (h : Split c R Q x v w) {n : LockName} {r : Request} (hn : c.name n = true)
    (hr : r.object? = some n.backing)
    (hc : r = .createObject n.backing → v.store.containers.contains sharedContainer =
      w.store.containers.contains sharedContainer) :
    Split c R Q x (v.called r) (w.called r) where
  part := h.part.called h.calmPart h.calm hn hr hc
  rest := h.rest.called_rest fun n' hn' he => by
    obtain rfl := LockName.backing_inj (Option.some.inj (he.symm.trans hr))
    change (!c.name n') = true at hn'
    rw [hn] at hn'
    cases hn'
  apart := h.apart
  draws := h.draws
  calmPart := h.calmPart.called r
  calmRest := h.calmRest
  calm := h.calm.called r

/-- A call about no object at all. -/
theorem calledContainer (h : Split c R Q x v w) (name : String) :
    Split c R Q x (v.called (.createContainer name)) (w.called (.createContainer name)) where
  part := (h.part.called_rest fun _ _ he => by cases he).called_part fun _ _ he => by cases he
  rest := h.rest.called_rest fun _ _ he => by cases he
  apart := h.apart
  draws := h.draws
  calmPart := h.calmPart.called _
  calmRest := h.calmRest
  calm := h.calm.called _

/-! ### Visits -/

theorem request_object? (k : Lock) (call : LeaseCall) :
    (k.request call).object? = some k.name.backing := by
  cases call <;> rfl

theorem concluded (h : Split c R Q x v w) (hl : R.LockIs l m) (call : LeaseCall) (a : Answer) :
    Split c R Q x (v.concluded l call a) (w.concluded m call a) := by
  cases call with
  | acquire =>
    cases a with
    | ok u => exact h.setStage hl _
    | error e => exact h
  | renew => exact h
  | release => exact h.cancelScope hl

/-- A visit is over at once, in the part and in the whole, with the same reply. -/
theorem visit (h : Split c R Q x v w) (hl : R.LockIs l m) (t u : TaskId) (errand : Errand) :
    ∃ v' w' r, v.visit t l errand = (v', .done r) ∧ w.visit u m errand = (w', .done r) ∧
      Split c R Q x v' w' := by
  obtain ⟨k, ws, hk, hk', -, hn⟩ := h.lock hl
  rw [World.visit_eq h.calmPart hk, World.visit_eq h.calm hk']
  unfold World.visitAtOnce
  cases errand.leaseCall? with
  | none => exact ⟨_, _, _, rfl, rfl, h⟩
  | some call =>
    dsimp only
    have href : ({ k with watchers := ws } : Lock).refusal call = k.refusal call := by
      cases call <;> rfl
    have hreq : ({ k with watchers := ws } : Lock).request call = k.request call := by
      cases call <;> rfl
    rw [href, hreq]
    cases k.refusal call with
    | some e => exact ⟨_, _, _, rfl, rfl, h⟩
    | none =>
      dsimp only
      have hs := h.setStage hl call.during
      have hc : k.request call = .createObject k.name.backing →
          (v.setStage l call.during).store.containers.contains sharedContainer =
            (w.setStage m call.during).store.containers.contains sharedContainer := by
        cases call <;> (intro he; cases he)
      have ha := (hs.part.answer_eq hs.calmPart hs.calm hn (request_object? k call) hc).1
      rw [ha]
      refine ⟨_, _, _, rfl, ?_, (hs.called hn (request_object? k call) hc).concluded hl call _⟩
      rfl

end Split

end Leasehold
