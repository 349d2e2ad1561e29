import Mathlib.Data.List.Forall2
import Mathlib.Tactic.Common
import Leasehold.Proofs.Name.Grammar
import Leasehold.Proofs.World.Calm

/-!
# Parts of a world

Some lock names, chosen among all, take a part out of a world: their locks with the watchers, the
tasks of their callers, the records of their objects and the calls about these.  A smaller world is
this *part* if it has all of that and nothing else, whatever numbers its locks and tasks go by.

* `Choice` chooses names, and with them the labels under which their locks are created.
* `Pairing` says which lock and which task of the whole each one of the part is.
* `Wait.Like`, `Watcher.Like`, …, `Activity.Like`: the same up to numbers and tickets.
* `Part c R v w`: the world `v` is the part of `w` that `c` chooses.
* `Part.update`, `Part.wakeAll`, `Part.called`: a change made in both worlds keeps the part.
* `Part.update_rest`, `Part.wakeAll_rest`, `Part.called_rest`: the part knows nothing of a change
  that is made elsewhere in the whole.
-/

namespace Leasehold

/-! ### Commands -/

/-- Under which labels locks of which names are created, and the parent scope that they share. -/
structure Setting where
  names : String → String
  parent : String

/-- What can be asked of the lock of a label: to be created, or an operation. -/
inductive Command
  | create (term : Span) (behaviors : List Behavior) (id : LeaseId)
  | lock
  | renew
  | unlock
  | shutdown
  | drop
  /-- An exclusive section around work that is done at once. -/
  | exclusive
  | acquireOnce
  | handleRenew
  | handleUnlock
  | unlockWithin (deadline : Span)
  | stage
  | cancel
  | isCancelled
  | isLost
  | loss
  | waitLoss (limit : Span)

/-- The step by which a task does what is asked of the lock of a label. -/
def Command.step (S : Setting) (label : String) : Command → Step
  | create term behaviors id => .create label (S.names label) term behaviors S.parent id
  | lock => .lock label
  | renew => .renew label
  | unlock => .unlock label
  | shutdown => .shutdown label
  | drop => .drop label
  | exclusive => .exclusive label []
  | acquireOnce => .acquireOnce label
  | handleRenew => .handleRenew label
  | handleUnlock => .handleUnlock label
  | unlockWithin deadline => .unlockWithin label deadline
  | stage => .stage label
  | cancel => .cancel label
  | isCancelled => .isCancelled label
  | isLost => .isLost label
  | loss => .loss label
  | waitLoss limit => .waitLoss label limit

/-- Some lock names, and the labels under which their locks are created. -/
structure Choice (S : Setting) where
  name : LockName → Bool
  label : String → Bool
  agree : ∀ s n, LockName.parse (S.names s) = .ok n → label s = name n

/-- All that is not chosen. -/
def Choice.others {S : Setting} (c : Choice S) : Choice S where
  name n := !c.name n
  label s := !c.label s
  agree s n h := by rw [c.agree s n h]

theorem Choice.others_others {S : Setting} (c : Choice S) : c.others.others = c := by
  cases c
  simp [others]

/-! ### Pairings -/

/-- Which task and which lock of a world each one of its part is. -/
structure Pairing where
  tasks : List TaskId
  locks : List LockId

namespace Pairing

/-- The task `t` of the part is the task `u` of the whole. -/
def TaskIs (R : Pairing) (t u : TaskId) : Prop := R.tasks[t]? = some u

/-- The lock `l` of the part is the lock `m` of the whole. -/
def LockIs (R : Pairing) (l m : LockId) : Prop := R.locks[l]? = some m

/-- All tasks and locks of the one pairing are paired in the same way in the other. -/
structure Within (R Q : Pairing) : Prop where
  tasks : R.tasks <+: Q.tasks
  locks : R.locks <+: Q.locks

variable {R Q P : Pairing} {t u : TaskId} {l m : LockId}

theorem Within.refl (R : Pairing) : R.Within R := ⟨List.prefix_rfl, List.prefix_rfl⟩

theorem Within.trans (h : R.Within Q) (h' : Q.Within P) : R.Within P :=
  ⟨h.tasks.trans h'.tasks, h.locks.trans h'.locks⟩

theorem getElem?_of_prefix {α : Type} {xs ys : List α} (h : xs <+: ys) {i : Nat} {x : α}
    (hi : xs[i]? = some x) : ys[i]? = some x := by
  obtain ⟨zs, rfl⟩ := h
  rw [List.getElem?_append_left (List.getElem?_eq_some_iff.1 hi).1]
  exact hi

theorem Within.taskIs (h : R.Within Q) (ht : R.TaskIs t u) : Q.TaskIs t u :=
  getElem?_of_prefix h.tasks ht

theorem Within.lockIs (h : R.Within Q) (hl : R.LockIs l m) : Q.LockIs l m :=
  getElem?_of_prefix h.locks hl

theorem taskIs_inj (hR : R.tasks.Nodup) {t' : TaskId} (h : R.TaskIs t u) (h' : R.TaskIs t' u) :
    t = t' :=
  (List.getElem?_inj (List.getElem?_eq_some_iff.1 h).1 hR).1 (h.trans h'.symm)

theorem lockIs_inj (hR : R.locks.Nodup) {l' : LockId} (h : R.LockIs l m) (h' : R.LockIs l' m) :
    l = l' :=
  (List.getElem?_inj (List.getElem?_eq_some_iff.1 h).1 hR).1 (h.trans h'.symm)

/-- The same task in both worlds. -/
theorem taskIs_iff (hR : R.tasks.Nodup) {t' u' : TaskId} (h : R.TaskIs t u)
    (h' : R.TaskIs t' u') : t' = t ↔ u' = u := by
  constructor
  · rintro rfl
    exact Option.some.inj (h'.symm.trans h)
  · rintro rfl
    exact taskIs_inj hR h' h

/-- The same lock in both worlds. -/
theorem lockIs_iff (hR : R.locks.Nodup) {l' m' : LockId} (h : R.LockIs l m)
    (h' : R.LockIs l' m') : l' = l ↔ m' = m := by
  constructor
  · rintro rfl
    exact Option.some.inj (h'.symm.trans h)
  · rintro rfl
    exact lockIs_inj hR h' h

/-- One more task on either side. -/
def withTask (R : Pairing) (u : TaskId) : Pairing := { R with tasks := R.tasks ++ [u] }

/-- One more lock on either side. -/
def withLock (R : Pairing) (m : LockId) : Pairing := { R with locks := R.locks ++ [m] }

theorem within_withTask (R : Pairing) (u : TaskId) : R.Within (R.withTask u) :=
  ⟨List.prefix_append _ _, List.prefix_rfl⟩

theorem within_withLock (R : Pairing) (m : LockId) : R.Within (R.withLock m) :=
  ⟨List.prefix_rfl, List.prefix_append _ _⟩

end Pairing

/-! ### The same up to numbers and tickets -/

section Like

variable {S : Setting}

/-- Two tasks wait for the same. -/
inductive Wait.Like (R : Pairing) : Wait → Wait → Prop
  | time (due : Nat) : Like R (.time due) (.time due)
  | scope {l m : LockId} : R.LockIs l m → Like R (.scope l) (.scope m)
  | loss {l m : LockId} : R.LockIs l m → Like R (.loss l) (.loss m)
  | finish {t u : TaskId} : R.TaskIs t u → Like R (.finish t) (.finish u)

/-- The same event in both worlds. -/
theorem Wait.Like.eq_iff {R : Pairing} {x y x' y' : Wait} (h : x.Like R y) (ht : R.tasks.Nodup)
    (hl : R.locks.Nodup) (h' : x'.Like R y') : x' = x ↔ y' = y := by
  cases h with
  | time due => cases h' <;> simp
  | scope hlm =>
    cases h' with
    | scope hlm' => simp [Pairing.lockIs_iff hl hlm hlm']
    | _ => simp
  | loss hlm =>
    cases h' with
    | loss hlm' => simp [Pairing.lockIs_iff hl hlm hlm']
    | _ => simp
  | finish htu =>
    cases h' with
    | finish htu' => simp [Pairing.taskIs_iff ht htu htu']
    | _ => simp

/-- Two acquisitions that pause until the same instant, in the same layers. -/
inductive Attempt.Like : Attempt → Attempt → Prop
  | pausing (inner : Strategy) (b : Backoff) (due i j n o : Nat) :
      Like (.pausing inner b ⟨due, i⟩ n) (.pausing inner b ⟨due, j⟩ o)
  | retrying (inner : Strategy) (b : Backoff) {a a' : Attempt} :
      Like a a' → Like (.retrying inner b a) (.retrying inner b a')
  | wrapping (tag : String) {a a' : Attempt} : Like a a' → Like (.wrapping tag a) (.wrapping tag a')

/-- Two watchers in the same phase, outside the critical section. -/
inductive Watcher.Like : Watcher → Watcher → Prop
  | renewalStart : Like .renewalStart .renewalStart
  | renewalTick (tick : Span) (due i j n o : Nat) :
      Like (.renewalTick tick ⟨due, i⟩ n) (.renewalTick tick ⟨due, j⟩ o)
  | guardStart (grace : Span) : Like (.guardStart grace) (.guardStart grace)
  | guardWait (grace : Span) (i j n o : Nat) : Like (.guardWait grace i n) (.guardWait grace j o)
  | alarmStart (grace : Span) (action : FatalAction) :
      Like (.alarmStart grace action) (.alarmStart grace action)
  | alarmWait (grace : Span) (action : FatalAction) (i j n o : Nat) :
      Like (.alarmWait grace action i n) (.alarmWait grace action j o)
  | probeStart (tag : String) : Like (.probeStart tag) (.probeStart tag)
  | probeWait (tag : String) (n o : Nat) : Like (.probeWait tag n) (.probeWait tag o)

/-- Two operations that have come equally far. -/
inductive Progress.Like (c : Choice S) (R : Pairing) : Progress → Progress → Prop
  | unstarted (label : String) (command : Command) : c.label label = true →
      Like c R (.unstarted (command.step S label)) (.unstarted (command.step S label))
  | acquiring {l m : LockId} {a a' : Attempt} : R.LockIs l m → a.Like a' →
      Like c R (.acquiring l a) (.acquiring m a')
  | opening {l m : LockId} {a a' : Attempt} : R.LockIs l m → a.Like a' →
      Like c R (.opening l [] a) (.opening m [] a')
  | joining {l m : LockId} (r : Except LockFailure Unit) (n o : Nat) : R.LockIs l m →
      Like c R (.joining l r n) (.joining m r o)
  | listening {l m : LockId} (due i j n o : Nat) : R.LockIs l m →
      Like c R (.listening l n ⟨due, i⟩) (.listening m o ⟨due, j⟩)

/-- Two tasks do the same. -/
inductive Activity.Like (c : Choice S) (R : Pairing) : Activity → Activity → Prop
  | running : Like c R .running .running
  | watching {l m : LockId} {a a' : Watcher} : R.LockIs l m → a.Like a' →
      Like c R (.watching l a) (.watching m a')
  | calling {p p' : Progress} : p.Like c R p' → Like c R (.calling p) (.calling p')
  | finished (o : Outcome) : Like c R (.finished o) (.finished o)

variable {c : Choice S} {R Q : Pairing}

theorem Progress.Like.within {p p' : Progress} (h : p.Like c R p') (hR : R.Within Q) :
    p.Like c Q p' := by
  cases h with
  | unstarted label command hl => exact .unstarted label command hl
  | acquiring hl ha => exact .acquiring (hR.lockIs hl) ha
  | opening hl ha => exact .opening (hR.lockIs hl) ha
  | joining r n o hl => exact .joining r n o (hR.lockIs hl)
  | listening due i j n o hl => exact .listening due i j n o (hR.lockIs hl)

theorem Activity.Like.within {a a' : Activity} (h : a.Like c R a') (hR : R.Within Q) :
    a.Like c Q a' := by
  cases h with
  | running => exact .running
  | watching hl ha => exact .watching (hR.lockIs hl) ha
  | calling hp => exact .calling (hp.within hR)
  | finished o => exact .finished o

theorem Activity.Like.isFinished {a a' : Activity} (h : a.Like c R a') :
    a'.isFinished = a.isFinished := by
  cases h <;> rfl

/-- The same, in the same order, up to tickets. -/
def LikeWaits (R : Pairing) : List (Wait × Nat) → List (Wait × Nat) → Prop :=
  List.Forall₂ fun x y => x.1.Like R y.1

theorem Attempt.Like.waits {a a' : Attempt} (h : a.Like a') {l m : LockId} (hl : R.LockIs l m) :
    LikeWaits R (a.waits l) (a'.waits m) := by
  induction h with
  | pausing inner b due i j n o => exact .cons (.time due) (.cons (.scope hl) .nil)
  | retrying inner b _ ih => exact ih
  | wrapping tag _ ih => exact ih

theorem Watcher.Like.waits {a a' : Watcher} (h : a.Like a') {l m : LockId} (hl : R.LockIs l m) :
    LikeWaits R (a.waits l) (a'.waits m) := by
  cases h with
  | renewalStart | guardStart | alarmStart | probeStart => exact .nil
  | renewalTick tick due i j n o => exact .cons (.time due) (.cons (.scope hl) .nil)
  | guardWait | alarmWait => exact .cons (.loss hl) (.cons (.scope hl) .nil)
  | probeWait => exact .cons (.scope hl) .nil

/-- What wakes tasks that do the same is the same, if they wait for the same watchers. -/
theorem Activity.Like.waits {a a' : Activity} (h : a.Like c R a') {f g : LockId → List TaskId}
    (hfg : ∀ l m, R.LockIs l m → List.Forall₂ R.TaskIs (f l) (g m)) :
    LikeWaits R (a.waits f) (a'.waits g) := by
  cases h with
  | running | finished => exact .nil
  | watching hl ha => exact ha.waits hl
  | calling hp =>
    cases hp with
    | unstarted => exact .nil
    | acquiring hl ha | opening hl ha => exact ha.waits hl
    | joining r n o hl =>
      refine List.forall₂_map_left_iff.2 (List.forall₂_map_right_iff.2 ?_)
      exact (hfg _ _ hl).imp fun _ _ ht => Wait.Like.finish ht
    | listening due i j n o hl => exact .cons (.loss hl) (.cons (.time due) .nil)

/-- Of two lists that agree, either both or none have an element that matters. -/
theorem LikeWaits.exists_iff {xs ys : List (Wait × Nat)} (h : LikeWaits R xs ys)
    {p q : Wait → Bool} (hpq : ∀ x y, x.Like R y → p x = q y) :
    (∃ x ∈ xs, p x.1 = true) ↔ ∃ y ∈ ys, q y.1 = true := by
  induction h with
  | nil => simp
  | cons hx _ ih => simp only [List.exists_mem_cons_iff, ih, hpq _ _ hx]

end Like

/-! ### Parts -/

/-- The lock of the part is the lock of the whole, with watchers that go by other numbers. -/
structure LikeLock (R : Pairing) (k k' : Lock) : Prop where
  watchers : List.Forall₂ R.TaskIs k.watchers k'.watchers
  same : k = { k' with watchers := k.watchers }

/-- A task that does the same and was told the same. -/
structure LikeTask {S : Setting} (c : Choice S) (R : Pairing) (x y : Task) : Prop where
  activity : x.activity.Like c R y.activity
  aborting : x.aborting = y.aborting

/-- Those of a list of labelled numbers whose labels are chosen are paired with the ones of another
list, in the same order and under the same labels. -/
def Labelled (E : Nat → Nat → Prop) (p : String → Bool) (xs ys : List (String × Nat)) : Prop :=
  List.Forall₂ (fun x y => x.1 = y.1 ∧ E x.2 y.2) xs (ys.filter fun y => p y.1)

/-- What goes by a label. -/
def labelled (s : String) (xs : List (String × Nat)) : List Nat :=
  (xs.filter fun x => x.1 == s).map (·.2)

namespace Labelled

variable {E : Nat → Nat → Prop} {p : String → Bool} {xs ys : List (String × Nat)} {s : String}
  {i j : Nat}

theorem imp (h : Labelled E p xs ys) {E' : Nat → Nat → Prop} (hE : ∀ i j, E i j → E' i j) :
    Labelled E' p xs ys :=
  List.Forall₂.imp (fun _ _ hxy => ⟨hxy.1, hE _ _ hxy.2⟩) h

theorem cons (h : Labelled E p xs ys) (hs : p s = true) (hij : E i j) :
    Labelled E p ((s, i) :: xs) ((s, j) :: ys) := by
  unfold Labelled
  rw [List.filter_cons, if_pos hs]
  exact .cons ⟨rfl, hij⟩ h

theorem cons_rest (h : Labelled E p xs ys) (hs : p s = false) :
    Labelled E p xs ((s, j) :: ys) := by
  unfold Labelled
  rw [List.filter_cons, if_neg (Bool.eq_false_iff.1 hs)]
  exact h

theorem concat (h : Labelled E p xs ys) (hs : p s = true) (hij : E i j) :
    Labelled E p (xs ++ [(s, i)]) (ys ++ [(s, j)]) := by
  unfold Labelled
  rw [List.filter_append, List.filter_cons, if_pos hs]
  exact List.rel_append h (.cons ⟨rfl, hij⟩ .nil)

theorem concat_rest (h : Labelled E p xs ys) (hs : p s = false) :
    Labelled E p xs (ys ++ [(s, j)]) := by
  unfold Labelled
  rw [List.filter_append, List.filter_cons, if_neg (Bool.eq_false_iff.1 hs), List.filter_nil,
    List.append_nil]
  exact h

/-- What goes by one of the chosen labels. -/
theorem labelled (h : Labelled E p xs ys) (hs : p s = true) :
    List.Forall₂ E (labelled s xs) (labelled s ys) := by
  have hys : Leasehold.labelled s (ys.filter fun y => p y.1) = Leasehold.labelled s ys := by
    unfold Leasehold.labelled
    rw [List.filter_filter]
    congr 2
    funext y
    by_cases hy : y.1 = s <;> simp [hy, hs]
  rw [← hys]
  unfold Labelled at h
  generalize (ys.filter fun y => p y.1) = zs at h
  induction h with
  | nil => exact .nil
  | @cons x y _ _ hxy _ ih =>
    unfold Leasehold.labelled at ih ⊢
    rw [List.filter_cons, List.filter_cons, hxy.1]
    split
    · exact .cons hxy.2 ih
    · exact ih

end Labelled

/-- The records of the calls about an object. -/
def callsAbout (o : ObjectPath) (log : List CallRecord) : List CallRecord :=
  log.filter fun r => r.request.object? = some o

/-- The world `v` is the part of `w` that the choice takes out. -/
structure Part {S : Setting} (c : Choice S) (R : Pairing) (v w : World) : Prop where
  clock : v.clock = w.clock
  parents : v.cancelledParents = w.cancelledParents
  exited : w.exited = none → v.exited = none
  tasks : ∀ t u, R.TaskIs t u →
    ∃ x y, v.tasks[t]? = some x ∧ w.tasks[u]? = some y ∧ LikeTask c R x y
  allTasks : R.tasks.length = v.tasks.length
  locks : ∀ l m, R.LockIs l m →
    ∃ k k', v.locks[l]? = some k ∧ w.locks[m]? = some k' ∧ LikeLock R k k' ∧
      c.name k'.name = true
  allLocks : R.locks.length = v.locks.length
  ready : ∀ t u, R.TaskIs t u → (t ∈ v.ready ↔ u ∈ w.ready)
  slots : ∀ n, c.name n = true → v.store.slot? n.backing = w.store.slot? n.backing
  log : ∀ n, c.name n = true → callsAbout n.backing v.log = callsAbout n.backing w.log
  labels : Labelled R.LockIs c.label v.labels w.labels
  distinctTasks : R.tasks.Nodup
  distinctLocks : R.locks.Nodup

/-- At the start there is nothing to choose from. -/
theorem part_start {S : Setting} (c : Choice S) : Part c ⟨[], []⟩ .start .start where
  clock := rfl
  parents := rfl
  exited _ := rfl
  tasks t u ht := by cases ht
  allTasks := rfl
  locks l m hl := by cases hl
  allLocks := rfl
  ready t u ht := by cases ht
  slots _ _ := rfl
  log _ _ := rfl
  labels := .nil
  distinctTasks := .nil
  distinctLocks := .nil

namespace Part

variable {S : Setting} {c : Choice S} {R : Pairing} {v w : World} {t u : TaskId} {l m : LockId}

theorem now (h : Part c R v w) : v.now = w.now := congrArg Span.ofMillis h.clock

/-- Locks that are the same have the same watchers. -/
theorem watchersOf (h : Part c R v w) (hl : R.LockIs l m) :
    List.Forall₂ R.TaskIs (v.watchersOf l) (w.watchersOf m) := by
  obtain ⟨k, k', hk, hk', hlike, -⟩ := h.locks l m hl
  unfold World.watchersOf
  rw [hk, hk']
  exact hlike.watchers

/-! #### Who is woken -/

/-- A task waits for an event in the part if it waits for it in the whole. -/
theorem heeds_iff (h : Part c R v w) (ht : R.TaskIs t u) {p q : Wait → Bool}
    (hpq : ∀ x y, x.Like R y → p x = q y) : v.Heeds p t ↔ w.Heeds q u := by
  obtain ⟨x, y, hx, hy, hlike⟩ := h.tasks t u ht
  have hiff := (hlike.activity.waits fun l m hl => h.watchersOf hl).exists_iff hpq
  unfold World.Heeds
  rw [hx, hy]
  constructor
  · rintro ⟨z, hz, hw⟩
    cases hz
    exact ⟨y, rfl, hiff.1 hw⟩
  · rintro ⟨z, hz, hw⟩
    cases hz
    exact ⟨x, rfl, hiff.2 hw⟩

/-- An event that no task of the part waits for. -/
theorem not_heeds (h : Part c R v w) (ht : R.TaskIs t u) {q : Wait → Bool}
    (hq : ∀ x y, Wait.Like R x y → q y = false) : ¬w.Heeds q u := by
  rw [← h.heeds_iff ht (p := fun _ => false) fun x y hxy => (hq x y hxy).symm]
  rintro ⟨x, -, y, -, hy⟩
  cases hy

/-- An event wakes the same tasks in the part and in the whole. -/
theorem wakeAll (h : Part c R v w) (hv : v.yielded = []) (hw : w.yielded = []) {p q : Wait → Bool}
    (hpq : ∀ x y, x.Like R y → p x = q y) : Part c R (v.wakeAll p) (w.wakeAll q) := by
  obtain ⟨r, hr, -, hm⟩ := World.wakeAll_eq hv p
  obtain ⟨r', hr', -, hm'⟩ := World.wakeAll_eq hw q
  rw [hr, hr']
  refine { h with ready := fun t u ht => ?_ }
  rw [hm, hm', h.ready t u ht, h.heeds_iff ht hpq]

/-- An event that does not concern the part wakes nobody in it. -/
theorem wakeAll_rest (h : Part c R v w) (hw : w.yielded = []) {q : Wait → Bool}
    (hq : ∀ x y, Wait.Like R x y → q y = false) : Part c R v (w.wakeAll q) := by
  obtain ⟨r, hr, -, hm⟩ := World.wakeAll_eq hw q
  rw [hr]
  refine { h with ready := fun t u ht => ?_ }
  rw [hm, h.ready t u ht, or_iff_left (h.not_heeds ht hq)]

/-! #### Changes of a lock -/

/-- Changes of the same lock that leave it the same. -/
theorem change (h : Part c R v w) (hl : R.LockIs l m) {f g : Lock → Lock}
    (hfg : ∀ k k', LikeLock R k k' → LikeLock R (f k) (g k')) (hn : ∀ k, (g k).name = k.name) :
    Part c R (v.updateLock l f) (w.updateLock m g) := by
  refine { h with
    locks := fun l' m' hl' => ?_
    allLocks := h.allLocks.trans (List.length_modify _ _ _).symm }
  obtain ⟨k, k', hk, hk', hlike, hname⟩ := h.locks l' m' hl'
  rw [World.getElem?_updateLock, World.getElem?_updateLock, hk, hk']
  by_cases he : l = l'
  · subst he
    obtain rfl := Option.some.inj (hl.symm.trans hl')
    rw [if_pos rfl, if_pos rfl]
    exact ⟨_, _, rfl, rfl, hfg k k' hlike, (hn k').symm ▸ hname⟩
  · have he' : m ≠ m' := fun hm => he (Pairing.lockIs_inj h.distinctLocks (hm ▸ hl) hl')
    rw [if_neg he, if_neg he']
    exact ⟨k, k', rfl, rfl, hlike, hname⟩

/-- The same change of the same lock. -/
theorem update (h : Part c R v w) (hl : R.LockIs l m) {f : Lock → Lock}
    (hf : ∀ k ws, f { k with watchers := ws } = { f k with watchers := ws })
    (hn : ∀ k, (f k).name = k.name) : Part c R (v.updateLock l f) (w.updateLock m f) := by
  have hw (k : Lock) : (f k).watchers = k.watchers := by
    have hk := congrArg Lock.watchers (hf k k.watchers)
    exact hk
  refine h.change hl (fun k k' hlike => ⟨?_, ?_⟩) hn
  · rw [hw, hw]
    exact hlike.watchers
  · rw [hlike.same, hf]

/-- A change of a lock outside the part. -/
theorem update_rest (h : Part c R v w) (hm : ∀ l, ¬R.LockIs l m) (f : Lock → Lock) :
    Part c R v (w.updateLock m f) := by
  refine { h with locks := fun l' m' hl' => ?_ }
  have hne : m ≠ m' := by
    rintro rfl
    exact hm l' hl'
  rw [World.getElem?_updateLock, if_neg hne]
  exact h.locks l' m' hl'

/-! #### Calls -/

theorem callsAbout_called {o : ObjectPath} {r : Request} (hr : r.object? ≠ some o) :
    callsAbout o (w.called r).log = callsAbout o w.log := by
  show callsAbout o (w.log ++ [_]) = _
  unfold callsAbout
  rw [List.filter_append, List.filter_cons_of_neg (by simpa using hr), List.filter_nil,
    List.append_nil]

theorem slot?_called {o : ObjectPath} {r : Request} (hr : r.object? ≠ some o) :
    (w.called r).store.slot? o = w.store.slot? o := Store.slot?_serve_of_ne hr

/-- A call about something else. -/
theorem called_rest (h : Part c R v w) {r : Request}
    (hr : ∀ n, c.name n = true → r.object? ≠ some n.backing) : Part c R v (w.called r) :=
  { h with
    slots := fun n hn => (h.slots n hn).trans (slot?_called (hr n hn)).symm
    log := fun n hn => (h.log n hn).trans (callsAbout_called (hr n hn)).symm }

/-- A call about something else, in the part itself. -/
theorem called_part (h : Part c R v w) {r : Request}
    (hr : ∀ n, c.name n = true → r.object? ≠ some n.backing) : Part c R (v.called r) w :=
  { h with
    slots := fun n hn => (slot?_called (hr n hn)).trans (h.slots n hn)
    log := fun n hn => (callsAbout_called (hr n hn)).trans (h.log n hn) }

/-- A call about an object of the part is answered the same in the part and in the whole. -/
theorem answer_eq (h : Part c R v w) (hv : v.Calm) (hw : w.Calm) {n : LockName} {r : Request}
    (hn : c.name n = true) (hr : r.object? = some n.backing)
    (hc : r = .createObject n.backing → v.store.containers.contains sharedContainer =
      w.store.containers.contains sharedContainer) :
    (v.store.serve v.now r).2 = (w.store.serve w.now r).2 ∧
      (v.called r).store.slot? n.backing = (w.called r).store.slot? n.backing := by
  show _ ∧ (v.store.serve v.now r).1.slot? n.backing = (w.store.serve w.now r).1.slot? n.backing
  rw [Store.serve_eq hv.faultless, Store.serve_eq hw.faultless, ← h.now]
  exact Store.perform_congr hr (h.slots n hn) hc

/-- A call about an object of the part. -/
theorem called (h : Part c R v w) (hv : v.Calm) (hw : w.Calm) {n : LockName} {r : Request}
    (hn : c.name n = true) (hr : r.object? = some n.backing)
    (hc : r = .createObject n.backing → v.store.containers.contains sharedContainer =
      w.store.containers.contains sharedContainer) :
    Part c R (v.called r) (w.called r) := by
  obtain ⟨ha, hslot⟩ := h.answer_eq hv hw hn hr hc
  have hother {n' : LockName} (hne : n' ≠ n) : r.object? ≠ some n'.backing := fun he =>
    hne (LockName.backing_inj (Option.some.inj (he.symm.trans hr)))
  refine { h with slots := fun n' hn' => ?_, log := fun n' hn' => ?_ }
  · by_cases hne : n' = n
    · rw [hne]
      exact hslot
    · rw [slot?_called (hother hne), slot?_called (hother hne)]
      exact h.slots n' hn'
  · by_cases hne : n' = n
    · subst hne
      have hl := h.log n' hn
      unfold callsAbout at hl ⊢
      show (v.log ++ [_]).filter _ = (w.log ++ [_]).filter _
      rw [List.filter_append, List.filter_append, hl, ha, h.now]
    · rw [callsAbout_called (hother hne), callsAbout_called (hother hne)]
      exact h.log n' hn'

/-! #### Tasks -/

/-- A task that changes in the same way. -/
theorem modifyTask (h : Part c R v w) (ht : R.TaskIs t u) {f g : Task → Task}
    (hfg : ∀ x y, LikeTask c R x y → LikeTask c R (f x) (g y)) :
    Part c R { v with tasks := v.tasks.modify t f } { w with tasks := w.tasks.modify u g } := by
  refine { h with
    tasks := fun t' u' ht' => ?_
    allTasks := h.allTasks.trans (List.length_modify _ _ _).symm }
  obtain ⟨x, y, hx, hy, hlike⟩ := h.tasks t' u' ht'
  by_cases he : t = t'
  · subst he
    obtain rfl := Option.some.inj (ht.symm.trans ht')
    refine ⟨f x, g y, ?_, ?_, hfg x y hlike⟩
    · rw [List.getElem?_modify_eq, hx]
      rfl
    · rw [List.getElem?_modify_eq, hy]
      rfl
  · -- Another task of the part is another task of the whole.
    have he' : u ≠ u' := fun hu => he (Pairing.taskIs_inj h.distinctTasks (hu ▸ ht) ht')
    refine ⟨x, y, ?_, ?_, hlike⟩
    · rw [List.getElem?_modify_ne _ _ he, hx]
    · rw [List.getElem?_modify_ne _ _ he', hy]

/-- A change of a task outside the part. -/
theorem modifyTask_rest (h : Part c R v w) (hu : ∀ t, ¬R.TaskIs t u) (f : Task → Task) :
    Part c R v { w with tasks := w.tasks.modify u f } := by
  refine { h with tasks := fun t' u' ht' => ?_ }
  have hne : u ≠ u' := by
    rintro rfl
    exact hu t' ht'
  obtain ⟨x, y, hx, hy, hlike⟩ := h.tasks t' u' ht'
  exact ⟨x, y, hx, by rw [List.getElem?_modify_ne _ _ hne, hy], hlike⟩

theorem setActivity (h : Part c R v w) (ht : R.TaskIs t u) {a b : Activity} (hab : a.Like c R b) :
    Part c R (v.setActivity t a) (w.setActivity u b) :=
  h.modifyTask ht fun _ _ hxy => ⟨hab, hxy.aborting⟩

theorem setActivity_rest (h : Part c R v w) (hu : ∀ t, ¬R.TaskIs t u) (b : Activity) :
    Part c R v (w.setActivity u b) :=
  h.modifyTask_rest hu _

/-- A task is woken. -/
theorem wake (h : Part c R v w) (hv : v.Calm) (hw : w.Calm) (ht : R.TaskIs t u) :
    Part c R (v.wake t) (w.wake u) := by
  obtain ⟨y, z, hy, hz, -⟩ := h.tasks t u ht
  obtain ⟨-, r, hr, hm⟩ := hv.wake hy
  obtain ⟨-, r', hr', hm'⟩ := hw.wake hz
  rw [hr, hr']
  refine { h with ready := fun t' u' ht' => ?_ }
  rw [hm, hm', h.ready t' u' ht', Pairing.taskIs_iff h.distinctTasks ht ht']

theorem wake_rest (h : Part c R v w) (hw : w.Calm) {task : Task} (hz : w.tasks[u]? = some task)
    (hu : ∀ t, ¬R.TaskIs t u) : Part c R v (w.wake u) := by
  obtain ⟨-, r, hr, hm⟩ := hw.wake hz
  rw [hr]
  refine { h with ready := fun t' u' ht' => ?_ }
  have hne : u' ≠ u := by
    rintro rfl
    exact hu t' ht'
  rw [hm, h.ready t' u' ht', or_iff_left hne]

/-- The turn of a task begins. -/
theorem dismiss (h : Part c R v w) (hv : v.Calm) (hw : w.Calm) (ht : R.TaskIs t u) :
    Part c R (v.dismiss t) (w.dismiss u) := by
  refine { h with ready := fun t' u' ht' => ?_ }
  show t' ∈ v.ready.erase t ↔ u' ∈ w.ready.erase u
  rw [hv.nodup.mem_erase_iff, hw.nodup.mem_erase_iff, h.ready t' u' ht', Ne, Ne,
    Pairing.taskIs_iff h.distinctTasks ht ht']

theorem dismiss_rest (h : Part c R v w) (hu : ∀ t, ¬R.TaskIs t u) :
    Part c R v (w.dismiss u) := by
  refine { h with ready := fun t' u' ht' => ?_ }
  have hne : u' ≠ u := by
    rintro rfl
    exact hu t' ht'
  exact (h.ready t' u' ht').trans (List.mem_erase_of_ne hne).symm

theorem taskIs_lt (h : Part c R v w) (ht : R.TaskIs t u) :
    t < v.tasks.length ∧ u < w.tasks.length := by
  obtain ⟨x, y, hx, hy, -⟩ := h.tasks t u ht
  exact ⟨(List.getElem?_eq_some_iff.1 hx).1, (List.getElem?_eq_some_iff.1 hy).1⟩

theorem lockIs_lt (h : Part c R v w) (hl : R.LockIs l m) :
    l < v.locks.length ∧ m < w.locks.length := by
  obtain ⟨k, k', hk, hk', -⟩ := h.locks l m hl
  exact ⟨(List.getElem?_eq_some_iff.1 hk).1, (List.getElem?_eq_some_iff.1 hk').1⟩

/-- More pairs leave the locks of the part as they are. -/
theorem likeLock_within {Q : Pairing} {k k' : Lock} (h : LikeLock R k k') (hR : R.Within Q) :
    LikeLock Q k k' :=
  ⟨h.watchers.imp fun _ _ => hR.taskIs, h.same⟩

theorem withTask_cases {n : TaskId} (ht : (R.withTask n).TaskIs t u) :
    R.TaskIs t u ∨ t = R.tasks.length ∧ u = n := by
  rcases getElem?_concat_cases ht with ht | ⟨rfl, rfl⟩
  · exact .inl ht
  · exact .inr ⟨rfl, rfl⟩

theorem taskIs_withTask (R : Pairing) (n : TaskId) : (R.withTask n).TaskIs R.tasks.length n :=
  List.getElem?_concat_length ..

/-- A new task on either side. -/
theorem spawn (h : Part c R v w) {a b : Activity} (hab : a.Like c R b) :
    Part c (R.withTask w.tasks.length) (v.spawn a).1 (w.spawn b).1 := by
  have hR := R.within_withTask w.tasks.length
  refine { h with
    tasks := fun t u ht => ?_
    allTasks := ?_
    locks := fun l m hl => ?_
    ready := fun t u ht => ?_
    labels := h.labels.imp fun _ _ => hR.lockIs
    distinctTasks := ?_ }
  · show ∃ x y, (v.tasks ++ [_])[t]? = some x ∧ (w.tasks ++ [_])[u]? = some y ∧ _
    rcases withTask_cases ht with ht | ⟨rfl, rfl⟩
    · obtain ⟨x, y, hx, hy, hlike⟩ := h.tasks t u ht
      exact ⟨x, y, getElem?_concat_of_some hx, getElem?_concat_of_some hy,
        hlike.activity.within hR, hlike.aborting⟩
    · rw [h.allTasks]
      exact ⟨_, _, List.getElem?_concat_length .., List.getElem?_concat_length ..,
        hab.within hR, rfl⟩
  · show (R.tasks ++ [_]).length = (v.tasks ++ [_]).length
    rw [List.length_append, List.length_append, h.allTasks]
    rfl
  · obtain ⟨k, k', hk, hk', hlike, hname⟩ := h.locks l m hl
    exact ⟨k, k', hk, hk', likeLock_within hlike hR, hname⟩
  · show t ∈ v.ready ++ [v.tasks.length] ↔ u ∈ w.ready ++ [w.tasks.length]
    rcases withTask_cases ht with ht | ⟨rfl, rfl⟩
    · have hlt := h.taskIs_lt ht
      rw [List.mem_append, List.mem_append, List.mem_singleton, List.mem_singleton, h.ready t u ht,
        or_iff_left (Nat.ne_of_lt hlt.1), or_iff_left (Nat.ne_of_lt hlt.2)]
    · rw [h.allTasks]
      simp
  · refine World.nodup_concat_of_not_mem h.distinctTasks fun hu => ?_
    obtain ⟨t, ht⟩ := List.mem_iff_getElem?.1 hu
    exact Nat.lt_irrefl _ (h.taskIs_lt ht).2

theorem spawn_rest (h : Part c R v w) (b : Activity) : Part c R v (w.spawn b).1 := by
  refine { h with tasks := fun t u ht => ?_, ready := fun t u ht => ?_ }
  · obtain ⟨x, y, hx, hy, hlike⟩ := h.tasks t u ht
    exact ⟨x, y, hx, getElem?_concat_of_some hy, hlike⟩
  · have hne : u ≠ w.tasks.length := Nat.ne_of_lt (h.taskIs_lt ht).2
    show _ ↔ u ∈ w.ready ++ [w.tasks.length]
    rw [h.ready t u ht, List.mem_append, List.mem_singleton, or_iff_left hne]

/-! #### New locks -/

theorem withLock_cases {n : LockId} (hl : (R.withLock n).LockIs l m) :
    R.LockIs l m ∨ l = R.locks.length ∧ m = n := by
  rcases getElem?_concat_cases hl with hl | ⟨rfl, rfl⟩
  · exact .inl hl
  · exact .inr ⟨rfl, rfl⟩

theorem lockIs_withLock (R : Pairing) (n : LockId) : (R.withLock n).LockIs R.locks.length n :=
  List.getElem?_concat_length ..

/-- A new lock without watchers. -/
theorem found (h : Part c R v w) (k : Lock) (hk : k.watchers = []) (hn : c.name k.name = true) :
    Part c (R.withLock w.locks.length) { v with locks := v.locks ++ [k] }
      { w with locks := w.locks ++ [k] } := by
  have hR := R.within_withLock w.locks.length
  refine { h with
    tasks := fun t u ht => ?_
    locks := fun l m hl => ?_
    allLocks := ?_
    labels := h.labels.imp fun _ _ => hR.lockIs
    distinctLocks := ?_ }
  · obtain ⟨x, y, hx, hy, hlike⟩ := h.tasks t u ht
    exact ⟨x, y, hx, hy, hlike.activity.within hR, hlike.aborting⟩
  · show ∃ k₁ k₂, (v.locks ++ [k])[l]? = some k₁ ∧ (w.locks ++ [k])[m]? = some k₂ ∧ _
    rcases withLock_cases hl with hl | ⟨rfl, rfl⟩
    · obtain ⟨k₁, k₂, hk₁, hk₂, hlike, hname⟩ := h.locks l m hl
      exact ⟨k₁, k₂, getElem?_concat_of_some hk₁, getElem?_concat_of_some hk₂,
        likeLock_within hlike hR, hname⟩
    · rw [h.allLocks]
      refine ⟨k, k, List.getElem?_concat_length .., List.getElem?_concat_length .., ⟨?_, rfl⟩, hn⟩
      rw [hk]
      exact .nil
  · show (R.locks ++ [_]).length = (v.locks ++ [_]).length
    rw [List.length_append, List.length_append, h.allLocks]
    rfl
  · refine World.nodup_concat_of_not_mem h.distinctLocks fun hm => ?_
    obtain ⟨l, hl⟩ := List.mem_iff_getElem?.1 hm
    exact Nat.lt_irrefl _ (h.lockIs_lt hl).2

theorem found_rest (h : Part c R v w) (k : Lock) :
    Part c R v { w with locks := w.locks ++ [k] } := by
  refine { h with locks := fun l m hl => ?_ }
  obtain ⟨k₁, k₂, hk₁, hk₂, hlike⟩ := h.locks l m hl
  exact ⟨k₁, k₂, hk₁, getElem?_concat_of_some hk₂, hlike⟩

/-- A lock gets a label. -/
theorem label (h : Part c R v w) (hl : R.LockIs l m) {s : String} (hs : c.label s = true) :
    Part c R { v with labels := (s, l) :: v.labels } { w with labels := (s, m) :: w.labels } :=
  { h with labels := h.labels.cons hs hl }

theorem label_rest (h : Part c R v w) {s : String} (hs : c.label s = false) :
    Part c R v { w with labels := (s, m) :: w.labels } :=
  { h with labels := h.labels.cons_rest hs }

/-- A lock gets a watcher. -/
theorem staff (h : Part c R v w) (hl : R.LockIs l m) (ht : R.TaskIs t u) :
    Part c R (v.updateLock l fun k => { k with watchers := k.watchers ++ [t] })
      (w.updateLock m fun k => { k with watchers := k.watchers ++ [u] }) := by
  refine h.change hl (fun k k' hlike => ⟨?_, ?_⟩) fun _ => rfl
  · exact List.rel_append hlike.watchers (.cons ht .nil)
  · rw [hlike.same]

/-! #### What happens to the whole world -/

theorem cancelParent (h : Part c R v w) (hv : v.Calm) (hw : w.Calm) (p : String) :
    Part c R (v.cancelParent p) (w.cancelParent p) := by
  by_cases hp : p ∈ w.cancelledParents
  · have hc : w.cancelledParents.contains p = true := by simpa using hp
    unfold World.cancelParent
    rw [h.parents, if_pos hc, if_pos hc]
    exact h
  have hchild {l m : LockId} (hl : R.LockIs l m) : l ∈ v.children p ↔ m ∈ w.children p := by
    obtain ⟨k, k', hk, hk', hlike, -⟩ := h.locks l m hl
    have hparent : k.parent = k'.parent := by rw [hlike.same]
    rw [World.mem_children, World.mem_children, hk, hk']
    simp [hparent]
  have hcancelled {l m : LockId} (hl : R.LockIs l m) : v.isCancelled l = w.isCancelled m := by
    obtain ⟨k, k', hk, hk', hlike, -⟩ := h.locks l m hl
    unfold World.isCancelled
    rw [hk, hk', hlike.same]
  obtain ⟨-, r, hr, hm⟩ := World.cancelParent_eq hv (p := p) (by rwa [h.parents])
  obtain ⟨-, r', hr', hm'⟩ := World.cancelParent_eq hw hp
  rw [hr, hr']
  refine { h with
    parents := congrArg (p :: ·) h.parents
    locks := fun l m hl => ?_
    allLocks := h.allLocks.trans List.length_mapIdx.symm
    ready := fun t u ht => ?_ }
  · obtain ⟨k, k', hk, hk', hlike, hname⟩ := h.locks l m hl
    dsimp only
    rw [List.getElem?_mapIdx, List.getElem?_mapIdx, hk, hk']
    refine ⟨_, _, rfl, rfl, ⟨hlike.watchers, ?_⟩, hname⟩
    simp only [hchild hl]
    rw [hlike.same]
  · rw [hm, hm', h.ready t u ht, h.heeds_iff ht fun y z hyz => ?_]
    cases hyz with
    | scope hl => simp only [World.endsWith, hchild hl, hcancelled hl]
    | time | loss | finish => rfl

theorem advanceTo (h : Part c R v w) (hv : v.Calm) (hw : w.Calm) (n : Nat) :
    Part c R (v.advanceTo n) (w.advanceTo n) := by
  have hn : Part c R { v with clock := n } { w with clock := n } := { h with clock := rfl }
  refine hn.wakeAll hv.unyielding hw.unyielding fun y z hyz => ?_
  cases hyz <;> rfl

/-! #### Labels -/

theorem lookup_eq_head? (s : String) (xs : List (String × Nat)) :
    xs.lookup s = (labelled s xs).head? := by
  induction xs with
  | nil => rfl
  | cons x xs ih =>
    obtain ⟨s', i⟩ := x
    unfold labelled at ih ⊢
    rw [List.lookup_cons, List.filter_cons]
    by_cases he : s = s'
    · subst he
      simp
    · rw [beq_eq_false_iff_ne.2 he, if_neg (by simpa using Ne.symm he)]
      exact ih

/-- A label of the part stands for the same lock in the part and in the whole, if for any. -/
theorem lookup (h : Part c R v w) {s : String} (hs : c.label s = true) :
    v.labels.lookup s = none ∧ w.labels.lookup s = none ∨
      ∃ l m, v.labels.lookup s = some l ∧ w.labels.lookup s = some m ∧ R.LockIs l m := by
  have hl := h.labels.labelled hs
  rw [lookup_eq_head?, lookup_eq_head?]
  generalize labelled s v.labels = ls at hl ⊢
  generalize labelled s w.labels = ms at hl ⊢
  cases hl with
  | nil => exact .inl ⟨rfl, rfl⟩
  | cons hlm _ => exact .inr ⟨_, _, rfl, rfl, hlm⟩

end Part

end Leasehold
