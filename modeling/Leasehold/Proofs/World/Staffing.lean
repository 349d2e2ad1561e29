import Leasehold.Proofs.World.Reachable

/-!
# The watchers of a lock

The watchers of a lock are spawned when it is built, and they are the same ever after.

* `World.rosters`: the watchers of each lock; `Move.rosters`: a move changes none of them.
* `staffing_built`: what a construction adds, a roster of tasks that watch the new lock and can run.
* `staffed_reachable`: in every reachable world a task on the roster of a lock watches it or has
  ended.
-/

namespace Leasehold.World

variable {A : Step → Prop} {D : Deed → Prop} {t : TaskId} {w w' w'' : World}
  {c c' : Option Engagement} {l : LockId}

/-! ### Rosters -/

/-- The watchers of each lock. -/
def rosters (w : World) : List (List TaskId) := w.locks.map (·.watchers)

theorem rosters_of_locks (h : w'.locks = w.locks) : w'.rosters = w.rosters := by
  rw [rosters, h, rosters]

theorem rosters_updateLock {f : Lock → Lock} (hf : ∀ k, (f k).watchers = k.watchers) :
    (w.updateLock l f).rosters = w.rosters := by
  show (w.locks.modify l f).map (·.watchers) = _
  rw [map_modify_of _ f id hf, List.modify_id]
  rfl

theorem Quiet.rosters (h : w.Quiet w') : w'.rosters = w.rosters := rosters_of_locks h.locks

theorem rosters_leave (t : TaskId) : (w.leave t l).rosters = w.rosters :=
  (quiet_leave w t l).rosters.trans (rosters_updateLock fun _ => rfl)

theorem rosters_cancelScope : (w.cancelScope l).rosters = w.rosters :=
  (quiet_cancelScope w l).rosters.trans (rosters_updateLock fun _ => rfl)

theorem rosters_concluded (call : LeaseCall) (a : Answer) :
    (w.concluded l call a).rosters = w.rosters := by
  cases call with
  | acquire =>
    cases a with
    | ok u => exact rosters_updateLock fun _ => rfl
    | error e => rfl
  | renew => rfl
  | release => exact rosters_cancelScope

theorem getElem?_rosters {k : Lock} (hk : w.locks[l]? = some k) :
    w.rosters[l]? = some k.watchers := by
  rw [rosters, List.getElem?_map, hk]
  rfl

theorem watchersOf_eq (w : World) (l : LockId) : w.watchersOf l = w.rosters[l]?.getD [] := by
  unfold watchersOf rosters
  rw [List.getElem?_map]
  cases w.locks[l]? <;> rfl

/-- A move changes no roster, unless it builds a lock. -/
theorem Move.rosters (h : Move A D t w c w' c') :
    w'.rosters = w.rosters ∨ ∃ cr, cr.From A ∧ w' = w.built cr := by
  cases h with
  | quiet h => exact .inl h.rosters
  | own l f g => exact .inl (rosters_updateLock fun _ => rfl)
  | cancel l => exact .inl rosters_cancelScope
  | lose l reason _ _ _ =>
    exact .inl ((quiet_raiseLoss w l reason).rosters.trans (rosters_updateLock fun _ => rfl))
  | parent | foreign | revoke | inject | plan | spawn | told | forget => exact .inl rfl
  | build cr hc => exact .inr ⟨cr, hc, rfl⟩
  | enqueue l errand _ => exact .inl (rosters_updateLock fun _ => rfl)
  | leave l e _ _ => exact .inl (rosters_leave t)
  | abandon l e _ _ => exact .inl (rosters_leave t)
  | send l k errand call _ _ _ _ _ =>
    exact .inl ((rosters_of_locks (locks_sent _)).trans (rosters_updateLock fun _ => rfl))
  | arrive l call r n p => exact .inl (rosters_of_locks (locks_settleCall w r p))
  | receive l call r n a => exact .inl ((rosters_leave t).trans (rosters_concluded call a))
  | ask r _ => exact .inl (rosters_of_locks (locks_sent r))
  | provision r n p => exact .inl (rosters_of_locks (locks_settleCall w r p))

/-! ### Construction -/

/-- A construction has got so far: the new lock has a roster of tasks that watch it, and all new
tasks can run. -/
structure Staffing (w : World) (cr : Creation) (w' : World) : Prop where
  roster : ∃ ws, w'.rosters = w.rosters ++ [ws] ∧
    ∀ t ∈ ws, ∃ v, w'.activity? t = some (.watching w.locks.length v)
  kept : ∀ t a, w.activity? t = some a → w'.activity? t = some a
  fresh : ∀ t, w.activity? t = none → ∀ a, w'.activity? t = some a → w'.Runnable t ∧
    ∃ b v, b ∈ cr.behaviors ∧ b.watcher? = some v ∧ a = .watching w.locks.length v

theorem activity?_spawn {a b : Activity} (h : (w.spawn a).1.activity? t = some b) :
    w.activity? t = some b ∨ t = w.tasks.length ∧ b = a := by
  unfold activity? at h ⊢
  obtain ⟨task, ht, rfl⟩ := Option.map_eq_some_iff.1 h
  rcases getElem?_concat_cases (show (w.tasks ++ [⟨a, false⟩])[t]? = some task from ht) with
    ht | ⟨rfl, rfl⟩
  · exact .inl (by rw [ht]; rfl)
  · exact .inr ⟨rfl, rfl⟩

theorem activity?_spawn_kept {a b : Activity} (h : w.activity? t = some b) :
    (w.spawn a).1.activity? t = some b := by
  unfold activity? at h ⊢
  obtain ⟨task, ht, rfl⟩ := Option.map_eq_some_iff.1 h
  rw [show (w.spawn a).1.tasks = w.tasks ++ [⟨a, false⟩] from rfl, getElem?_concat_of_some ht]
  rfl

theorem activity?_spawn_self (a : Activity) :
    (w.spawn a).1.activity? w.tasks.length = some a := by
  show ((w.tasks ++ [⟨a, false⟩])[w.tasks.length]?).map _ = _
  rw [List.getElem?_concat_length]
  rfl

namespace Staffing

variable {cr : Creation} {b : Behavior} {v : Watcher}

/-- The lock itself, before any behavior is applied. -/
theorem start (w : World) (cr : Creation) :
    w.Staffing cr { w with locks := w.locks ++ [w.newLock cr] } where
  roster := ⟨[], by simp [rosters, newLock], by simp⟩
  kept _ _ h := h
  fresh t h a ha := by
    rw [show ({ w with locks := w.locks ++ [w.newLock cr] } : World).activity? t = w.activity? t
      from rfl, h] at ha
    cases ha

/-- A change that concerns neither tasks nor rosters. -/
theorem congr (h : w.Staffing cr w') (ht : w''.tasks = w'.tasks)
    (hr : w''.rosters = w'.rosters) (hrun : ∀ t, w'.Runnable t → w''.Runnable t) :
    w.Staffing cr w'' := by
  have ha : w''.activity? = w'.activity? := by
    unfold activity?
    rw [ht]
  refine ⟨?_, fun t a h' => ?_, fun t hn a h' => ?_⟩
  · rw [hr, ha]
    exact h.roster
  · rw [ha]
    exact h.kept t a h'
  · rw [ha] at h'
    exact (h.fresh t hn a h').imp_left (hrun t)

/-- A behavior spawns a watcher and puts it on the roster. -/
theorem watch (h : w.Staffing cr w') (hb : b ∈ cr.behaviors) (hv : b.watcher? = some v)
    {f : Lock → Lock} (hf : ∀ k, (f k).watchers = k.watchers ++ [w'.tasks.length]) :
    w.Staffing cr ((w'.spawn (.watching w.locks.length v)).1.updateLock w.locks.length f) := by
  obtain ⟨ws, hws, hall⟩ := h.roster
  have hact : ((w'.spawn (.watching w.locks.length v)).1.updateLock w.locks.length f).activity? =
      (w'.spawn (.watching w.locks.length v)).1.activity? := rfl
  refine ⟨⟨ws ++ [w'.tasks.length], ?_, fun t ht => ?_⟩, fun t a ha => ?_, fun t hn a ha => ?_⟩
  · show (w'.locks.modify w.locks.length f).map (·.watchers) = _
    have hlen : w.locks.length = w.rosters.length := (List.length_map ..).symm
    rw [map_modify_of (fun k : Lock => k.watchers) f (· ++ [w'.tasks.length]) hf,
      show w'.locks.map (fun k : Lock => k.watchers) = w'.rosters from rfl, hws, hlen,
      List.modify_eq_take_cons_drop (by simp)]
    simp
  · rw [hact]
    rcases List.mem_append.1 ht with ht | ht
    · obtain ⟨v', hv'⟩ := hall t ht
      exact ⟨v', activity?_spawn_kept hv'⟩
    · rw [List.mem_singleton.1 ht]
      exact ⟨v, activity?_spawn_self _⟩
  · rw [hact]
    exact activity?_spawn_kept (h.kept t a ha)
  · rw [hact] at ha
    rcases activity?_spawn ha with ha | ⟨rfl, rfl⟩
    · obtain ⟨hr, hex⟩ := h.fresh t hn a ha
      exact ⟨hr.imp_left (List.mem_append_left _), hex⟩
    · exact ⟨.inl (List.mem_append_right _ (List.mem_singleton.2 rfl)), b, v, hb, hv, rfl⟩

/-- One more behavior is applied. -/
theorem applyBehavior (h : w.Staffing cr w') (k : Lock) (hb : b ∈ cr.behaviors) :
    w.Staffing cr (w'.applyBehavior w.locks.length k b) := by
  cases b with
  | renewal | guard | alarm => exact h.watch hb rfl fun _ => rfl
  | probe tag panics =>
    refine watch ?_ hb rfl fun _ => rfl
    exact h.congr rfl rfl fun _ hr => hr
  | retry | wrap => exact h.congr rfl (rosters_updateLock fun _ => rfl) fun _ hr => hr

theorem foldl (k : Lock) (bs : List Behavior) (hbs : ∀ b ∈ bs, b ∈ cr.behaviors)
    (h : w.Staffing cr w') :
    w.Staffing cr (bs.foldl (fun w' b => w'.applyBehavior w.locks.length k b) w') := by
  induction bs generalizing w' with
  | nil => exact h
  | cons b bs ih =>
    exact ih (fun b hb => hbs b (List.mem_cons_of_mem _ hb))
      (h.applyBehavior k (hbs b List.mem_cons_self))

end Staffing

/-- What a construction leaves behind of watchers. -/
theorem staffing_built (w : World) (cr : Creation) : w.Staffing cr (w.built cr) :=
  (Staffing.start w cr).foldl (w.newLock cr) cr.behaviors fun _ h => h

/-! ### Runs -/

/-- The task watches the lock, or has ended. -/
def Staffs (w : World) (l : LockId) (t : TaskId) : Prop :=
  (∃ v, w.activity? t = some (.watching l v)) ∨ w.Ended t

/-- Every task on the roster of a lock watches it, or has ended. -/
def Staffed (w : World) : Prop := ∀ l ws, w.rosters[l]? = some ws → ∀ t ∈ ws, w.Staffs l t

theorem Frame.staffs {t' : TaskId} (h : Frame A w w') (hs : w.Staffs l t') : w'.Staffs l t' :=
  hs.imp (fun ⟨v, ha⟩ => ⟨v, h.kept t' _ ha⟩) fun ⟨o, ha⟩ => ⟨o, h.kept t' _ ha⟩

/-- In the course of a turn of task `t` that began with the rosters `rs`: every task on a roster
watches the lock or has ended, but for `t` itself on a roster from before. -/
def StaffedBut (t : TaskId) (rs : List (List TaskId)) (w : World) : Prop :=
  ∀ l ws, w.rosters[l]? = some ws → ∀ t' ∈ ws,
    t' = t ∧ rs[l]? = some ws ∨ t' ≠ t ∧ w.Staffs l t'

theorem StaffedBut.move {rs : List (List TaskId)} (h : StaffedBut t rs w)
    (hrun : w.activity? t = some .running) (hm : Move A D t w c w' c') : StaffedBut t rs w' := by
  intro l ws hl t' ht'
  rcases hm.rosters with he | ⟨cr, hcr, rfl⟩
  · rw [he] at hl
    exact (h l ws hl t' ht').imp_right fun ⟨hne, hs⟩ => ⟨hne, hm.frame.staffs hs⟩
  · obtain ⟨⟨ws', hws, hall⟩, hkept, -⟩ := staffing_built w cr
    rw [hws] at hl
    rcases getElem?_concat_cases hl with hl | ⟨rfl, rfl⟩
    · exact (h l ws hl t' ht').imp_right fun ⟨hne, hs⟩ => ⟨hne, hm.frame.staffs hs⟩
    · -- the task whose turn it is runs, so it is none of the new watchers
      obtain ⟨v, hv⟩ := hall t' ht'
      have hlen : w.rosters.length = w.locks.length := List.length_map ..
      refine .inr ⟨?_, .inl ⟨v, by rw [hlen]; exact hv⟩⟩
      rintro rfl
      cases hv.symm.trans (hkept t' _ hrun)

theorem activity?_atTurn_self {a : Activity} (h : w.activity? t = some a) :
    (w.atTurn t).activity? t = some .running := by
  rw [atTurn, activity?_setActivity, if_pos rfl]
  show (w.activity? t).map _ = _
  rw [h]
  rfl

theorem Moves.staffedBut {rs : List (List TaskId)} {x y : World × Option Engagement}
    (h : Moves A D t x y) (hrun : x.1.activity? t = some .running) (hx : StaffedBut t rs x.1) :
    StaffedBut t rs y.1 := by
  induction h with
  | refl => exact hx
  | tail hm hm' ih => exact ih.move ((Moves.frame hm).kept t _ hrun) hm'

theorem Staffed.atTurn (hs : w.Staffed) (t : TaskId) : StaffedBut t w.rosters (w.atTurn t) := by
  intro l ws hl t' ht'
  by_cases hne : t' = t
  · exact .inl ⟨hne, hl⟩
  · refine .inr ⟨hne, (hs l ws hl t' ht').imp (fun ⟨v, ha⟩ => ⟨v, ?_⟩) fun ⟨o, ha⟩ => ⟨o, ?_⟩⟩ <;>
    · rw [activity?_atTurn (Ne.symm hne)]
      exact ha

/-- A turn keeps the rosters staffed. -/
theorem Staffed.poll (hs : w.Staffed) (hw : w.Tame A) (t : TaskId) : (w.poll t).Staffed := by
  cases poll_cases hw t with
  | absent _ he => rwa [he]
  | ended a _ _ he => rwa [he]
  | turn w' a a' hT hq =>
    have hrun := activity?_atTurn_self hT.before
    have h₁ := hT.stretch.moves.staffedBut hrun (hs.atTurn t)
    intro l ws hl t' ht'
    rw [hq.rosters] at hl
    rcases h₁ l ws hl t' ht' with ⟨rfl, hold⟩ | ⟨hne, hst⟩
    · -- the task itself, as it was before the turn
      rcases hs l ws hold t' ht' with ⟨v, ha⟩ | hend
      · have hact := activity?_poll_watching hw ha
        rcases hy : ((w.atTurn t').resumeWatcher t' l v).2 with v' | u <;> rw [hy] at hact
        · exact .inl ⟨v', hact⟩
        · exact .inr ⟨_, hact⟩
      · exact .inr (hend.next hw (.poll t'))
    · refine hst.imp (fun ⟨v, ha⟩ => ⟨v, ?_⟩) fun ⟨o, ha⟩ => ⟨o, ?_⟩ <;>
      · rw [hT.activity? hq, if_neg (Ne.symm hne)]
        exact ha

/-- In every reachable world the tasks on the roster of a lock watch it, or have ended. -/
theorem staffed_reachable (h : Reachable A w) : w.Staffed := by
  induction h with
  | refl =>
    intro l ws hl
    cases hl
  | @tail w w' hr hn ih =>
    cases hn with
    | spawn s hs => exact fun l ws hl t ht => (frame_spawn hs).staffs (ih l ws hl t ht)
    | poll t => exact ih.poll (Reachable.tame hr) t
    | draw ds => exact ih
    | advance _ _ =>
      have hl := later_advance w
      intro l ws hws t ht
      rw [hl.quiet.rosters] at hws
      unfold Staffs Ended
      rw [hl.activity?]
      exact ih l ws hws t ht

/-- The watchers of a lock remain the same. -/
theorem kept_rosters (A : Step → Prop) (l : LockId) (ws : List TaskId) :
    Kept A (fun _ => True) fun w _ => w.rosters[l]? = some ws where
  books w w' E hu h := by rwa [rosters_of_locks hu.locks]
  later w n E _ h := h
  move D w w' E t c' _ h hm := by
    rcases hm.rosters with he | ⟨cr, hcr, rfl⟩
    · rwa [he]
    · obtain ⟨⟨ws', hws, -⟩, -, -⟩ := staffing_built w cr
      rw [hws]
      exact getElem?_concat_of_some h

/-- No run changes the watchers of a lock. -/
theorem rosters_run (h : Reachable A w) {ws : List TaskId} (hl : w.rosters[l]? = some ws)
    (hr : Run A w w') : w'.rosters[l]? = some ws :=
  (kept_rosters A l ws).run (Reachable.tame h) hl hr

end Leasehold.World
