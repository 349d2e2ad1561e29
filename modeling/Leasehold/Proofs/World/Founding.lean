import Leasehold.Proofs.World.Move

/-!
# What the construction of an instance leaves behind

`World.Founding w c bs w'` says what `w'` is after the instance of a construction `c` has been added
to `w` and the behaviors `bs` have been applied to it: one more lock, idle and with nobody at its
critical section, and one watcher for each behavior that has one, about to have its first turn.

* `founding_built`: this is what `World.built` leaves behind.
-/

namespace Leasehold

/-- The watcher that a behavior starts. -/
def Behavior.watcher? : Behavior → Option Watcher
  | renewal => some .renewalStart
  | guard grace => some (.guardStart grace)
  | alarm grace action => some (.alarmStart grace action)
  | probe tag _ => some (.probeStart tag)
  | retry _ | wrap .. => none

/-- A watcher before its first turn is engaged in nothing. -/
theorem Behavior.engagement_of_watcher? {b : Behavior} {v : Watcher} (h : b.watcher? = some v)
    (l : LockId) : v.engagement l = none := by
  cases b <;> simp only [watcher?, Option.some.injEq, reduceCtorEq] at h <;> subst h <;> rfl

namespace World

variable {w w' : World} {c : Creation} {bs : List Behavior} {b : Behavior}

/-- One more instance with watchers that are about to have their first turn. -/
structure Founding (w : World) (c : Creation) (bs : List Behavior) (w' : World) : Prop where
  clock : w'.clock = w.clock
  store : w'.store = w.store
  plans : w'.plans = w.plans
  log : w'.log = w.log
  parents : w'.cancelledParents = w.cancelledParents
  locks : ∃ s ws, w'.locks = w.locks ++ [{ w.newLock c with strategy := s, watchers := ws }]
  tasks : ∃ new, w'.tasks = w.tasks ++ new ∧
    ∀ task ∈ new, ∃ b v, b ∈ bs ∧ b.watcher? = some v ∧
      task.activity = .watching w.locks.length v
  runnable : ∀ t, w.Runnable t → w'.Runnable t
  watching : ∀ b ∈ bs, ∀ v, b.watcher? = some v → ∃ t, w.tasks.length ≤ t ∧ w'.Runnable t ∧
    w'.tasks[t]?.map (·.activity) = some (.watching w.locks.length v)

namespace Founding

theorem start (w : World) (c : Creation) :
    w.Founding c [] { w with locks := w.locks ++ [w.newLock c] } where
  clock := rfl
  store := rfl
  plans := rfl
  log := rfl
  parents := rfl
  locks := ⟨_, _, rfl⟩
  tasks := ⟨[], by simp, by simp⟩
  runnable _ h := h
  watching := by simp

/-- A change of the instance's strategy or watchers. -/
theorem update (h : w.Founding c bs w') {f : Lock → Lock}
    (hf : ∀ k, ∃ s ws, f k = { k with strategy := s, watchers := ws }) :
    w.Founding c bs (w'.updateLock w.locks.length f) := by
  obtain ⟨s, ws, hl⟩ := h.locks
  obtain ⟨s', ws', hf⟩ := hf { w.newLock c with strategy := s, watchers := ws }
  have hl' : (w'.updateLock w.locks.length f).locks =
      w.locks ++ [{ w.newLock c with strategy := s', watchers := ws' }] := by
    show w'.locks.modify w.locks.length f = _
    rw [hl, List.modify_eq_take_cons_drop (by simp)]
    simp [hf]
  exact { h with locks := ⟨s', ws', hl'⟩ }

theorem note (h : w.Founding c bs w') (event : String) : w.Founding c bs (w'.note event) :=
  { h with }

/-- A behavior without a watcher. -/
theorem wrap (h : w.Founding c bs w') (hb : b.watcher? = none) : w.Founding c (bs ++ [b]) w' where
  clock := h.clock
  store := h.store
  plans := h.plans
  log := h.log
  parents := h.parents
  locks := h.locks
  tasks := by
    obtain ⟨new, ht, hn⟩ := h.tasks
    refine ⟨new, ht, fun task hm => ?_⟩
    obtain ⟨b', v, hb', hv⟩ := hn task hm
    exact ⟨b', v, List.mem_append_left _ hb', hv⟩
  runnable := h.runnable
  watching b' hb' v hv := by
    rcases List.mem_append.1 hb' with hb' | hb'
    · exact h.watching b' hb' v hv
    · rw [List.mem_singleton.1 hb', hb] at hv
      cases hv

/-- A behavior with a watcher, which is spawned. -/
theorem spawn (h : w.Founding c bs w') {v : Watcher} (hb : b.watcher? = some v) :
    w.Founding c (bs ++ [b]) (w'.spawn (.watching w.locks.length v)).1 := by
  obtain ⟨new, ht, hn⟩ := h.tasks
  have hrun : ∀ t, w'.Runnable t → (w'.spawn (.watching w.locks.length v)).1.Runnable t :=
    fun t hr => hr.imp_left (List.mem_append_left _)
  refine ⟨h.clock, h.store, h.plans, h.log, h.parents, h.locks, ?_, ?_, ?_⟩
  · refine ⟨new ++ [⟨.watching w.locks.length v, false⟩], ?_, fun task hm => ?_⟩
    · show w'.tasks ++ _ = _
      rw [ht, List.append_assoc]
    · rcases List.mem_append.1 hm with hm | hm
      · obtain ⟨b', v', hb', hv'⟩ := hn task hm
        exact ⟨b', v', List.mem_append_left _ hb', hv'⟩
      · rw [List.mem_singleton.1 hm]
        exact ⟨b, v, by simp, hb, rfl⟩
  · exact fun t hr => hrun t (h.runnable t hr)
  · intro b' hb' v' hv'
    rcases List.mem_append.1 hb' with hb' | hb'
    · obtain ⟨t, hle, hr, hta⟩ := h.watching b' hb' v' hv'
      refine ⟨t, hle, hrun t hr, ?_⟩
      have hlt : t < w'.tasks.length := by
        by_contra hge
        rw [List.getElem?_eq_none (by omega)] at hta
        cases hta
      show (w'.tasks ++ _)[t]?.map _ = _
      rw [List.getElem?_append_left hlt]
      exact hta
    · rw [List.mem_singleton.1 hb', hb] at hv'
      cases hv'
      refine ⟨w'.tasks.length, ?_, Or.inl ?_, ?_⟩
      · rw [ht, List.length_append]
        omega
      · show _ ∈ w'.ready ++ [_]
        simp
      · show (w'.tasks ++ _)[_]?.map _ = _
        simp

/-- One more behavior is applied. -/
theorem applyBehavior (h : w.Founding c bs w') (k : Lock) (b : Behavior) :
    w.Founding c (bs ++ [b]) (w'.applyBehavior w.locks.length k b) := by
  cases b with
  | renewal | guard | alarm => exact (h.spawn rfl).update fun k => ⟨_, _, rfl⟩
  | probe tag panics => exact ((h.note _).spawn rfl).update fun k => ⟨_, _, rfl⟩
  | retry | wrap => exact (h.wrap rfl).update fun k => ⟨_, _, rfl⟩

theorem foldl (k : Lock) (more : List Behavior) (h : w.Founding c bs w') :
    w.Founding c (bs ++ more)
      (more.foldl (fun w' b => w'.applyBehavior w.locks.length k b) w') := by
  induction more generalizing bs w' with
  | nil => rwa [List.append_nil]
  | cons b more ih =>
    rw [List.foldl_cons, ← List.singleton_append, ← List.append_assoc]
    exact ih (h.applyBehavior k b)

end Founding

/-- What a construction leaves behind. -/
theorem founding_built (w : World) (c : Creation) : w.Founding c c.behaviors (w.built c) :=
  (Founding.start w c).foldl (w.newLock c) c.behaviors

end World

end Leasehold
