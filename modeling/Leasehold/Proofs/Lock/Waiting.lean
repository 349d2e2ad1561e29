import Leasehold.Proofs.Lock.RenewalLoop
import Leasehold.Proofs.World.Clock
import Leasehold.Proofs.World.Staffing

/-!
# What tasks wait for

A task that waits between two turns misses nothing: if what it waits for has come, it is about to
have its turn.

* `Deadline`: the times for which releases of a lock may wait.
* `Entry`s of activities: `Activity.visit?`, `Activity.joins?`.
* `World.Rests`: the visit that a task is in the middle of, and the cancellations that it waits for.
* `World.Poised`: what holds of every task between two turns; `Poised.mono`.
-/

namespace Leasehold

/-! ### Deadlines -/

/-- How long a release of a lock may wait: the term of the lock, the grace of one of its guards or
alarms, or a deadline that a script sets for a lock of its label. -/
inductive Deadline (A : Step → Prop) (k : Lock) : Span → Prop
  | term : Deadline A k k.term.span
  | grace {label name term behaviors parent d} :
      A (.create label name term behaviors parent k.id) →
      (.guard d ∈ behaviors ∨ ∃ action, .alarm d action ∈ behaviors) → Deadline A k d
  | within {label name term behaviors parent d} :
      A (.create label name term behaviors parent k.id) → A (.unlockWithin label d) →
      Deadline A k d

theorem Deadline.congr {A : Step → Prop} {k k' : Lock} {d : Span} (h : Deadline A k d)
    (ht : k'.term = k.term) (hi : k'.id = k.id) : Deadline A k' d := by
  cases h with
  | term => exact ht ▸ .term
  | grace hA hb => exact .grace (hi ▸ hA) hb
  | within hA hd => exact .within (hi ▸ hA) hd

/-- How long a watcher will wait for its release. -/
def Watcher.grace? : Watcher → Option Span
  | guardStart d | guardWait d _ _ | alarmStart d _ | alarmWait d _ _ _ => some d
  | _ => none

/-- The watcher has not had a turn yet. -/
def Watcher.Starts : Watcher → Prop
  | renewalStart | guardStart _ | alarmStart .. | probeStart _ => True
  | _ => False

/-- The watcher of a behavior has the grace of the behavior. -/
theorem Behavior.grace_of_watcher? {b : Behavior} {v : Watcher} {d : Span}
    (h : b.watcher? = some v) (hd : v.grace? = some d) :
    b = .guard d ∨ ∃ action, b = .alarm d action := by
  cases b with
  | guard grace => cases h; cases hd; exact .inl rfl
  | alarm grace action => cases h; cases hd; exact .inr ⟨action, rfl⟩
  | renewal | probe => cases h; cases hd
  | retry | wrap => cases h

/-! ### Where a task is -/

/-- The visit to the critical section that an acquisition is in the middle of. -/
def Attempt.entry? : Attempt → Option Entry
  | entering e => some e
  | retrying _ _ a | wrapping _ a => a.entry?
  | pausing .. => none

/-- The visit that a watcher is in the middle of. -/
def Watcher.entry? : Watcher → Option Entry
  | renewalLook _ e | renewalCall _ e | guardRelease e | alarmRelease _ _ e => some e
  | _ => none

/-- The visit that a step is in the middle of, with the lock. -/
def Progress.visit? : Progress → Option (LockId × Entry)
  | acquiring l a | opening l _ a => a.entry?.map (l, ·)
  | visiting l _ e | observing l e | closing l e | ending l _ e => some (l, e)
  | working _ _ p | listing _ p _ => p.visit?
  | _ => none

/-- The visit that a task is in the middle of, with the lock. -/
def Activity.visit? : Activity → Option (LockId × Entry)
  | watching l v => v.entry?.map (l, ·)
  | calling p => p.visit?
  | running | finished _ => none

/-- The lock whose watchers a step waits for. -/
def Progress.joins? : Progress → Option LockId
  | joining l _ _ => some l
  | working _ _ p | listing _ p _ => p.joins?
  | _ => none

/-- The lock whose watchers a task waits for. -/
def Activity.joins? : Activity → Option LockId
  | calling p => p.joins?
  | _ => none

/-- A task that waits for the answer to a lease call is in the middle of a visit. -/
theorem Attempt.entry_of_engagement {l : LockId} {e : Engagement} {a : Attempt}
    (h : a.engagement l = some e) : ∃ en, a.entry? = some en ∧ en.engagement l = e := by
  induction a with
  | entering en => exact ⟨en, rfl, Option.some.inj h⟩
  | retrying inner b a ih | wrapping tag a ih => exact ih h
  | pausing => cases h

theorem Watcher.entry_of_engagement {l : LockId} {e : Engagement} {v : Watcher}
    (h : v.engagement l = some e) : ∃ en, v.entry? = some en ∧ en.engagement l = e := by
  cases v with
  | renewalLook tick en | renewalCall tick en | guardRelease en | alarmRelease action loss en =>
    exact ⟨en, rfl, Option.some.inj h⟩
  | renewalStart | renewalTick | guardStart | guardWait | alarmStart | alarmWait | probeStart
  | probeWait => cases h

theorem Entry.lock?_engagement (e : Entry) (l : LockId) : (e.engagement l).lock? = some l := by
  cases e <;> rfl

theorem Progress.visit_of_engagement {l : LockId} {e : Engagement} {p : Progress}
    (h : p.engagement = some e) (hl : e.lock? = some l) :
    ∃ en, p.visit? = some (l, en) ∧ en.engagement l = e := by
  have attempt : ∀ {l' : LockId} {a : Attempt}, a.engagement l' = some e →
      ∃ en, a.entry?.map (l', ·) = some (l, en) ∧ en.engagement l = e := by
    intro l' a ha
    obtain ⟨en, hen, rfl⟩ := Attempt.entry_of_engagement ha
    rw [Entry.lock?_engagement] at hl
    cases hl
    exact ⟨en, by rw [hen]; rfl, rfl⟩
  have visit : ∀ {l' : LockId} {en : Entry}, some (en.engagement l') = some e →
      ∃ en', some (l', en) = some (l, en') ∧ en'.engagement l = e := by
    intro l' en he
    cases he
    rw [Entry.lock?_engagement] at hl
    cases hl
    exact ⟨en, rfl, rfl⟩
  induction p with
  | acquiring l' a | opening l' work a => exact attempt h
  | visiting l' owned en | observing l' en | closing l' en | ending l' o en => exact visit h
  | working l' n p ih | listing past p rest ih => exact ih h
  | provisioning c f n =>
    cases h
    cases hl
  | unstarted | joining | sleeping | listening | awaiting | forever | settling => cases h

theorem Activity.visit_of_engagement {l : LockId} {e : Engagement} {a : Activity}
    (h : a.engagement = some e) (hl : e.lock? = some l) :
    ∃ en, a.visit? = some (l, en) ∧ en.engagement l = e := by
  cases a with
  | watching l' v =>
    obtain ⟨en, hen, rfl⟩ := Watcher.entry_of_engagement h
    rw [Entry.lock?_engagement] at hl
    cases hl
    exact ⟨en, by rw [visit?, hen]; rfl, rfl⟩
  | calling p => exact Progress.visit_of_engagement h hl
  | running | finished => cases h

/-- What a visit is engaged in, its task is. -/
theorem Attempt.engagement_of_entry {l : LockId} {e : Entry} {a : Attempt}
    (h : a.entry? = some e) : a.engagement l = some (e.engagement l) := by
  induction a with
  | entering e' => cases h; rfl
  | retrying inner b a ih | wrapping tag a ih => exact ih h
  | pausing => cases h

theorem Progress.engagement_of_visit {l : LockId} {e : Entry} {p : Progress}
    (h : p.visit? = some (l, e)) : p.engagement = some (e.engagement l) := by
  induction p with
  | acquiring l' a | opening l' work a =>
    obtain ⟨e', he, hl⟩ := Option.map_eq_some_iff.1 h
    cases hl
    exact Attempt.engagement_of_entry he
  | visiting | observing | closing | ending => cases h; rfl
  | working l' n p ih | listing past p rest ih => exact ih h
  | _ => cases h

theorem Activity.engagement_of_visit {l : LockId} {e : Entry} {a : Activity}
    (h : a.visit? = some (l, e)) : a.engagement = some (e.engagement l) := by
  cases a with
  | watching l' v =>
    obtain ⟨e', he, hl⟩ := Option.map_eq_some_iff.1 h
    cases hl
    cases v <;> cases he <;> rfl
  | calling p => exact Progress.engagement_of_visit h
  | running | finished => cases h

/-! ### Waits -/

/-- A visit waits for the cancellation of its own lock only. -/
theorem Entry.lock_of_waits {l l' : LockId} {n : Nat} {e : Entry}
    (h : (Wait.scope l', n) ∈ e.waits l) : l' = l := by
  cases e <;> simp [waits, Flight.waits] at h <;> exact h.1

theorem Attempt.lock_of_waits {l l' : LockId} {n : Nat} {a : Attempt}
    (h : (Wait.scope l', n) ∈ a.waits l) : l' = l := by
  induction a with
  | entering e => exact Entry.lock_of_waits h
  | retrying inner b a ih | wrapping tag a ih => exact ih h
  | pausing => simp [waits] at h; exact h.1

theorem Watcher.lock_of_waits {l l' : LockId} {n : Nat} {v : Watcher}
    (h : (Wait.scope l', n) ∈ v.waits l) : l' = l := by
  cases v with
  | renewalLook tick e | renewalCall tick e | guardRelease e | alarmRelease action loss e =>
    exact Entry.lock_of_waits h
  | renewalTick | guardWait | alarmWait | probeWait => simp [waits] at h; exact h.1
  | _ => simp [waits] at h

/-- The cancellations that a step waits for do not depend on the watchers of locks. -/
theorem Progress.mem_waits_scope {f g : LockId → List TaskId} {l : LockId} {n : Nat}
    {p : Progress} (h : (Wait.scope l, n) ∈ p.waits f) : (Wait.scope l, n) ∈ p.waits g := by
  induction p with
  | joining l' r m => simp [waits] at h
  | working l' m p ih =>
    rcases List.mem_cons.1 h with h | h
    · cases h
    · exact List.mem_cons_of_mem _ (ih h)
  | listing past p rest ih => exact ih h
  | _ => exact h

theorem Activity.mem_waits_scope {f g : LockId → List TaskId} {l : LockId} {n : Nat}
    {a : Activity} (h : (Wait.scope l, n) ∈ a.waits f) : (Wait.scope l, n) ∈ a.waits g := by
  cases a with
  | calling p => exact Progress.mem_waits_scope h
  | _ => exact h

/-- A task that waits for the watchers of a lock is woken by the end of each of them. -/
theorem Progress.mem_waits_finish {f : LockId → List TaskId} {l : LockId} {t : TaskId}
    {p : Progress} (h : p.joins? = some l) (ht : t ∈ f l) :
    ∃ n, (Wait.finish t, n) ∈ p.waits f := by
  induction p with
  | joining l' r n =>
    cases h
    exact ⟨n, List.mem_map.2 ⟨t, ht, rfl⟩⟩
  | working l' n p ih =>
    obtain ⟨m, hm⟩ := ih h
    exact ⟨m, List.mem_cons_of_mem _ hm⟩
  | listing past p rest ih => exact ih h
  | _ => cases h

theorem Activity.mem_waits_finish {f : LockId → List TaskId} {l : LockId} {t : TaskId}
    {a : Activity} (h : a.joins? = some l) (ht : t ∈ f l) :
    ∃ n, (Wait.finish t, n) ∈ a.waits f := by
  cases a with
  | calling p => exact Progress.mem_waits_finish h ht
  | _ => cases h

/-- A visit that waits for a time makes its task wait for it. -/
theorem Attempt.mem_waits {l : LockId} {e : Entry} {a : Attempt} (h : a.entry? = some e)
    {x : Wait × Nat} (hx : x ∈ e.waits l) : x ∈ a.waits l := by
  induction a with
  | entering e' => cases h; exact hx
  | retrying inner b a ih | wrapping tag a ih => exact ih h
  | pausing => cases h

theorem Progress.mem_waits {ws : LockId → List TaskId} {l : LockId} {e : Entry} {p : Progress}
    (h : p.visit? = some (l, e)) {x : Wait × Nat} (hx : x ∈ e.waits l) : x ∈ p.waits ws := by
  induction p with
  | acquiring l' a | opening l' work a =>
    obtain ⟨e', he, hl⟩ := Option.map_eq_some_iff.1 h
    cases hl
    exact Attempt.mem_waits he hx
  | visiting | observing | closing | ending => cases h; exact hx
  | working l' n p ih => exact List.mem_cons_of_mem _ (ih h)
  | listing past p rest ih => exact ih h
  | _ => cases h

theorem Activity.mem_waits {ws : LockId → List TaskId} {l : LockId} {e : Entry} {a : Activity}
    (h : a.visit? = some (l, e)) {x : Wait × Nat} (hx : x ∈ e.waits l) : x ∈ a.waits ws := by
  cases a with
  | watching l' v =>
    obtain ⟨e', he, hl⟩ := Option.map_eq_some_iff.1 h
    cases hl
    cases v <;> cases he <;> exact hx
  | calling p => exact Progress.mem_waits h hx
  | running | finished => cases h

namespace World

variable {A : Step → Prop} {D : Deed → Prop} {t : TaskId} {w w' w'' : World}
  {c c' : Option Engagement} {l : LockId} {R R' : Prop} {a : Activity}

/-! ### Locks and labels -/

/-- A release of the lock may wait so long. -/
def Allows (A : Step → Prop) (w : World) (l : LockId) (d : Span) : Prop :=
  ∃ k, w.locks[l]? = some k ∧ Deadline A k d

theorem Allows.outlives {d : Span} (h : w.Allows A l d) (ho : w.Outlives w') :
    w'.Allows A l d := by
  obtain ⟨k, hk, hd⟩ := h
  obtain ⟨k', hk', he⟩ := ho l k hk
  exact ⟨k', hk', hd.congr he.term he.id⟩

/-- Every label is that of a lock which a script built under it. -/
def Labelled (A : Step → Prop) (w : World) : Prop :=
  ∀ label l, (label, l) ∈ w.labels → ∃ k, w.locks[l]? = some k ∧
    ∃ name term behaviors parent, A (.create label name term behaviors parent k.id)

theorem Labelled.of_eq (h : w.Labelled A) (hl : w'.labels = w.labels) (ho : w.Outlives w') :
    w'.Labelled A := by
  intro label l hm
  rw [hl] at hm
  obtain ⟨k, hk, name, term, behaviors, parent, hA⟩ := h label l hm
  obtain ⟨k', hk', he⟩ := ho l k hk
  exact ⟨k', hk', name, term, behaviors, parent, he.id ▸ hA⟩

/-- A script that may set a deadline for a label sets one that the lock of the label allows. -/
theorem Labelled.allows (h : w.Labelled A) {label : String} {d : Span}
    (hl : w.handle? label = some l) (hA : A (.unlockWithin label d)) : w.Allows A l d := by
  obtain ⟨xs, ys, he, -⟩ := List.lookup_eq_some_iff.1 hl
  obtain ⟨k, hk, name, term, behaviors, parent, hc⟩ := h label l (by rw [he]; simp)
  exact ⟨k, hk, .within hc hA⟩

/-! ### What a wait comes to -/

/-- The lock is there, and not cancelled unless `R`. -/
def Live (w : World) (R : Prop) (l : LockId) : Prop :=
  ∃ k, w.locks[l]? = some k ∧ (k.cancelled = false ∨ R)

/-- One of the watchers of the lock has not ended. -/
def Unfinished (w : World) (l : LockId) : Prop :=
  ∃ ws t a, w.rosters[l]? = some ws ∧ t ∈ ws ∧ w.activity? t = some a ∧ a.isFinished = false

/-- A shutdown that does not find every watcher ended waits for one that has not. -/
theorem unfinished_of_watchersEnded (h : w.watchersEnded l = false) : w.Unfinished l := by
  obtain ⟨t, ht, ha⟩ := List.all_eq_false.1 h
  cases htask : w.tasks[t]? with
  | none => simp [htask] at ha
  | some task =>
    rw [htask] at ha
    cases hk : w.locks[l]? with
    | none => simp [watchersOf, hk] at ht
    | some k =>
      refine ⟨k.watchers, t, task.activity, getElem?_rosters hk, ?_, ?_, Bool.eq_false_iff.2 ha⟩
      · simpa [watchersOf, hk] using ht
      · rw [activity?, htask]
        rfl

/-- A release waits for its answer, and has done so for no longer than it may; the end of its
deadline is ahead, or has come and `R`. -/
structure Limited (A : Step → Prop) (w : World) (R : Prop) (l : LockId) (f : Flight)
    (limit : Timer) : Prop where
  sent : ∃ r b d, w.ledger.Sent f.record r b ∧ w.Allows A l d ∧ limit.due ≤ (b + d).ceilMillis
  ahead : w.clock < limit.due ∨ w.clock = limit.due ∧ R

/-- What is known of a task that waits for `waits` in the middle of a visit, and misses none of them
unless `R`. -/
structure Rests (A : Step → Prop) (w : World) (R : Prop) (waits : List (Wait × Nat))
    (visit : Option (LockId × Entry)) : Prop where
  live : ∀ l n, (.scope l, n) ∈ waits → w.Live R l
  there : ∀ l e, visit = some (l, e) → ∃ k, w.locks[l]? = some k
  errand : ∀ l d, visit = some (l, .queued (.release d)) → w.Allows A l d
  limit : ∀ l f limit, visit = some (l, .releasing f limit) → w.Limited A R l f limit

/-- What is known of a task between two turns, if it is about to have a turn or not `R`. -/
structure Poised (A : Step → Prop) (w : World) (R : Prop) (a : Activity) : Prop where
  rests : w.Rests A R (a.waits w.watchersOf) a.visit?
  joins : ∀ l, a.joins? = some l → w.Unfinished l ∨ R
  grace : ∀ l v d, a = .watching l v → v.grace? = some d → w.Allows A l d
  awake : ∀ l v, a = .watching l v → v.Starts → R

theorem Live.mono (h : w.Live R l) (hR : R → R') : w.Live R' l := by
  obtain ⟨k, hk, hc⟩ := h
  exact ⟨k, hk, hc.imp_right hR⟩

theorem Limited.mono {f : Flight} {limit : Timer} (h : w.Limited A R l f limit)
    (ho : w.Outlives w') (hc : w'.clock = w.clock)
    (hs : ∀ n r b, w.ledger.Sent n r b → w'.ledger.Sent n r b) (hR : R → R') :
    w'.Limited A R' l f limit where
  sent := by
    obtain ⟨r, b, d, hsent, hd, hle⟩ := h.sent
    exact ⟨r, b, d, hs _ _ _ hsent, hd.outlives ho, hle⟩
  ahead := by
    rw [hc]
    exact h.ahead.imp_right (And.imp_right hR)

/-- Time stands still, and what a task waits for does not come unless the task is woken. -/
theorem Poised.mono (h : w.Poised A R a) (ho : w.Outlives w') (hc : w'.clock = w.clock)
    (hs : ∀ n r b, w.ledger.Sent n r b → w'.ledger.Sent n r b) (hR : R → R')
    (hlive : ∀ l n, (.scope l, n) ∈ a.waits w.watchersOf → w.Live R l → w'.Live R' l)
    (hjoin : ∀ l, a.joins? = some l → w.Unfinished l → w'.Unfinished l ∨ R') :
    w'.Poised A R' a where
  rests := by
    refine ⟨fun l n hx => ?_, fun l e he => ?_, fun l d he => ?_, fun l f limit he => ?_⟩
    · have hx' := Activity.mem_waits_scope (g := w.watchersOf) hx
      exact hlive l n hx' (h.rests.live l n hx')
    · obtain ⟨k, hk⟩ := h.rests.there l e he
      obtain ⟨k', hk', -⟩ := ho l k hk
      exact ⟨k', hk'⟩
    · exact (h.rests.errand l d he).outlives ho
    · exact (h.rests.limit l f limit he).mono ho hc hs hR
  joins l hl := (h.joins l hl).elim (hjoin l hl) fun hr => .inr (hR hr)
  grace l v d ha hd := (h.grace l v d ha hd).outlives ho
  awake l v ha hv := hR (h.awake l v ha hv)

end World

end Leasehold
