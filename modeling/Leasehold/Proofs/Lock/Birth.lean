import Leasehold.Proofs.Lock.WaitingRun
import Leasehold.Proofs.World.Story

/-!
# The birth of a lock

A construction adds an instance to the world and gives it to the owner of its label, who drops an
older one.

* `World.Born`, `born_build`: the new instance.
* `isCancelled_cancelParent`: the end of a parent scope is that of its instances.
* `runnable_cancelParent`: it wakes the tasks that wait for it.
-/

namespace Leasehold.World

variable {A : Step → Prop} {R : Prop} {t : TaskId} {w w' w₁ : World} {l l' : LockId} {k : Lock}
  {p q : Progress} {x : Stint} {name : String} {c : Creation}

/-! ### Labels in the middle of a turn -/

theorem poised_unstarted (s : Step) : w.Poised A R (.calling (.unstarted s)) :=
  poised_of_idle rfl rfl rfl fun _ _ he => by cases he

/-- The labels are those of their locks when a turn comes to a step. -/
theorem Descends.follows (h : Descends t w p w₁ q) (hp : w.Poised A R (.calling p)) :
    Follows A w w₁ := by
  have ticket (w : World) : Follows A w w.takeTicket.1 := .quiet (quiet_takeTicket w) rfl
  induction h generalizing R with
  | here w p => exact .refl A w
  | listing past rest _ ih => exact ih hp.of_listing
  | working l n _ _ ih => exact ih hp.of_working
  | settling past s rest _ _ ih => exact ih (R := R) (poised_unstarted s)
  | steps s rest _ ih => exact ih (R := R) (poised_unstarted s)
  | @exclusive w w' w₁ q l g label s rest _ hy _ _ ih =>
    have h := (rested_startLocking (A := A) (t := t) (w := w.share l) (l := l)).after follows_share
    rw [hy] at h
    exact (h.toFollows.trans (ticket w')).trans (ih (R := R) (poised_unstarted s))
  | @opening w w' w₁ q g l s rest a hy _ _ ih =>
    have h := rested_resumeAttempt (t := t) hp.rests
    rw [hy] at h
    exact (h.toFollows.trans (ticket w')).trans (ih (R := R) (poised_unstarted s))

/-- The labels are those of their locks when a stint begins. -/
theorem Stint.By.labelled (hx : x.By t) (h : Reachable A x.turn) : x.start.Labelled A := by
  obtain ⟨p, hp, hd⟩ := hx.comes
  have hw := waits_reachable h
  obtain ⟨-, hself⟩ := hw.poised.atTurn t
  have hpo := hself (.calling p) (by rw [World.activity?, hp]; rfl)
  exact (hd.follows hpo).labelled (hw.labelled.of_eq rfl (outlives_of_locks rfl))

/-! ### Owners -/

theorem quiet_unshare (l : LockId) : ∃ f, (w.updateLock l f).Quiet (w.unshare l) := by
  unfold unshare
  dsimp only
  split
  · split
    · have hq := quiet_cancelScope (w.updateLock l fun k => { k with shares := k.shares - 1 }) l
      rw [updateLock_updateLock] at hq
      exact ⟨_, hq⟩
    · exact ⟨_, .refl _⟩
  · exact ⟨_, .refl _⟩

/-- To drop a lock changes that lock only. -/
theorem quiet_dropLock (l : LockId) : ∃ f, (w.updateLock l f).Quiet (w.dropLock l).1 := by
  have hid : w.updateLock l id = w := updateLock_eq_self w fun _ _ => rfl
  unfold dropLock
  split
  · split
    · obtain ⟨f, hf⟩ := quiet_unshare (w := w.updateLock l fun k => { k with listed := false }) l
      rw [updateLock_updateLock] at hf
      exact ⟨_, hf⟩
    · exact ⟨id, by rw [hid]; exact .refl w⟩
  · exact ⟨id, by rw [hid]; exact .refl w⟩

/-! ### Parents -/

theorem activity?_foldl_cancelScope (ls : List LockId) :
    (ls.foldl cancelScope w).activity? = w.activity? := by
  induction ls generalizing w with
  | nil => rfl
  | cons l ls ih => exact ih.trans (quiet_cancelScope w l).activity?

theorem isCancelled_foldl_cancelScope {ls : List LockId} (hl : l ∈ ls)
    (hk : w.locks[l]? = some k) : (ls.foldl cancelScope w).isCancelled l = true := by
  induction ls generalizing w k with
  | nil => cases hl
  | cons m ls ih =>
    rcases List.mem_cons.1 hl with rfl | hl
    · have ho := (foldl_cancelScope_stretch (A := fun _ => True) (D := fun _ => True) (t := 0) ls
        (w.cancelScope l)).moves.outlives
      obtain ⟨k', hk', -⟩ := outlives_cancelScope (l := l) l k hk
      obtain ⟨k'', hk'', he⟩ := ho l k' hk'
      exact (isCancelled_eq hk'').trans
        (he.cancelled ((isCancelled_eq hk').symm.trans (isCancelled_cancelScope hk)))
    · obtain ⟨k', hk', -⟩ := outlives_cancelScope (l := m) l k hk
      exact ih hl hk'

/-- The end of a parent scope is the end of its locks. -/
theorem isCancelled_cancelParent (hk : w.locks[l]? = some k)
    (hn : w.isParentCancelled k.parent = false) :
    (w.cancelParent k.parent).isCancelled l = true := by
  unfold cancelParent
  rw [if_neg (fun h => by rw [isParentCancelled, h] at hn; cases hn)]
  dsimp only
  rw [isCancelled, (quiet_wakeAll _ _).locks, ← isCancelled]
  refine isCancelled_foldl_cancelScope (k := k) ?_ hk
  refine List.mem_reverse.2 (List.mem_map.2 ⟨(k, l), ?_, rfl⟩)
  exact List.mem_filter.2 ⟨List.mk_mem_zipIdx_iff_getElem?.2 hk, beq_self_eq_true _⟩

/-- The end of a parent scope wakes the tasks that wait for it. -/
theorem runnable_cancelParent {a : Activity} {n : Nat} (hn : w.isParentCancelled name = false)
    (ha : w.activity? t = some a) (hx : ∀ ws, (.parent name, n) ∈ a.waits ws) :
    (w.cancelParent name).Runnable t := by
  unfold cancelParent
  rw [if_neg (fun h => by rw [isParentCancelled, h] at hn; cases hn)]
  dsimp only
  generalize hv : List.foldl cancelScope { w with cancelledParents := name :: w.cancelledParents }
    _ = v
  have ha' : v.activity? t = some a := by
    rw [← hv, activity?_foldl_cancelScope]
    exact ha
  obtain ⟨b, ht⟩ := exists_task ha'
  exact runnable_wakeAll v ht (hx _) (beq_self_eq_true _)

/-! ### Construction -/

/-- After a construction in `w` there is one more instance: it is idle and not lost, its scope is
cancelled if its parent's is and ends with it, and its owner has it under its label. -/
structure Born (w : World) (c : Creation) (w' : World) : Prop where
  lock : ∃ k, w'.locks[w.locks.length]? = some k ∧ k.name = c.name ∧ k.term = c.term ∧
    k.id = c.id ∧ k.parent = c.parent ∧ k.stage = .idle ∧ k.lossCell.loss = none ∧
    k.cancelled = w'.isParentCancelled c.parent
  owned : w'.owned? c.label = some w.locks.length
  parent : (w'.cancelParent c.parent).isCancelled w.locks.length = true

theorem Born.of_length {w₁ : World} (h : w.Born c w')
    (hl : w.locks.length = w₁.locks.length) : w₁.Born c w' :=
  ⟨hl ▸ h.lock, hl ▸ h.owned, hl ▸ h.parent⟩

/-- The new instance is in place when its label has been given to it. -/
theorem born_of_lock (s : Strategy) (ws : List TaskId)
    (hk : w'.locks[w.locks.length]? = some { w.newLock c with strategy := s, watchers := ws })
    (hp : w'.cancelledParents = w.cancelledParents)
    (hl : w'.handle? c.label = some w.locks.length) : w.Born c w' where
  lock := by
    refine ⟨_, hk, rfl, rfl, rfl, rfl, rfl, rfl, ?_⟩
    exact congrArg (List.contains · c.parent) hp.symm
  owned := by
    unfold owned?
    rw [hl]
    dsimp only
    rw [hk]
    rfl
  parent := by
    cases hc : w'.isParentCancelled c.parent with
    | false => exact isCancelled_cancelParent hk hc
    | true =>
      have hc' : w'.cancelledParents.contains c.parent = true := hc
      unfold cancelParent
      rw [if_pos hc', isCancelled_eq hk]
      exact (congrArg (List.contains · c.parent) hp.symm).trans hc

/-- A construction hands the label over, and the owner of an older lock drops it. -/
theorem build_eq (w : World) (c : Creation) {v : World}
    (hv : { w.built c with labels := (c.label, w.locks.length) :: (w.built c).labels } = v) :
    (w.build c).1 = ((w.built c).labels.lookup c.label).elim v fun l' => (v.dropLock l').1 := by
  rw [← hv]
  unfold build
  dsimp only
  split <;> next ho => rw [built, ho]; rfl

/-- The older lock is not the new one. -/
theorem ne_of_lookup_built (hL : w.Labelled A)
    (ho : (w.built c).labels.lookup c.label = some l) : l ≠ w.locks.length := by
  rw [labels_built] at ho
  obtain ⟨xs, ys, he, -⟩ := List.lookup_eq_some_iff.1 ho
  obtain ⟨k, hk, -⟩ := hL c.label l (by rw [he]; simp)
  rintro rfl
  rw [List.getElem?_eq_none (Nat.le_refl _)] at hk
  cases hk

/-- What a construction leaves behind: a new instance, and the store and the calls as they were. -/
theorem born_build (hL : w.Labelled A) (c : Creation) : w.Born c (w.build c).1 ∧
    (w.build c).1.store = w.store ∧ (w.build c).1.log = w.log := by
  have hf := founding_built w c
  obtain ⟨s, ws, hl⟩ := hf.locks
  generalize hv : { w.built c with labels := (c.label, w.locks.length) :: (w.built c).labels } = v
  have hvl : v.locks = w.locks ++ [{ w.newLock c with strategy := s, watchers := ws }] := by
    rw [← hv]
    exact hl
  have hvp : v.cancelledParents = w.cancelledParents := by
    rw [← hv]
    exact hf.parents
  have hk : v.locks[w.locks.length]? = some { w.newLock c with strategy := s, watchers := ws } := by
    rw [hvl, List.getElem?_concat_length]
  have hh : v.handle? c.label = some w.locks.length := by
    rw [← hv]
    exact List.lookup_cons_self
  rw [build_eq w c hv]
  cases ho : (w.built c).labels.lookup c.label with
  | none =>
    refine ⟨born_of_lock s ws hk hvp hh, ?_, ?_⟩ <;> rw [Option.elim_none, ← hv]
    · exact hf.store
    · exact hf.log
  | some l' =>
    rw [Option.elim_some]
    obtain ⟨f, hq⟩ := quiet_dropLock (w := v) l'
    have hne := ne_of_lookup_built hL ho
    refine ⟨born_of_lock s ws ?_ (hq.parents.trans hvp) ?_, ?_, ?_⟩
    · rw [hq.locks, getElem?_updateLock, if_neg hne, hk]
    · unfold handle?
      rw [labels_dropLock]
      exact hh
    · rw [hq.store, ← hv]
      exact hf.store
    · rw [hq.log, ← hv]
      exact hf.log

end Leasehold.World
