import Mathlib.Tactic.Common
import Leasehold.Proofs.Lock.PartTurns
import Leasehold.Proofs.World.Clock

/-!
# Locks of different names do not interfere

A *session* is a run in which locks are created and used over one store, under one parent scope,
with every call answered at once.  Locks go by labels, and each label stands for locks of one name.
What happens next is an event: an operation is asked for, a task has its turn with the random delays
that are drawn in it, a caller gives up, the parent scope is cancelled, or time passes.  Events may
follow each other in any order.

* `Session.Event`, `Session.after`: what happens, and what it leads to.
* `Session.Possible`: the tasks that have turns can run, and time passes only if none can.
* `Session.Parted`: a session falls into two, of the labels that are chosen and of the others.
* `Session.parted_after`: it does so after any events.
* `Session.noninterference`: the locks of a name show the same whether or not the operations on
  locks of other names are left out.
-/

namespace Leasehold

/-- Whether locks of a name are created under a label. -/
def Setting.standsFor (S : Setting) (a : LockName) (label : String) : Bool :=
  match LockName.parse (S.names label) with
  | .ok n => decide (n = a)
  | .error _ => false

/-- One name alone. -/
def Choice.only (S : Setting) (a : LockName) : Choice S where
  name n := decide (n = a)
  label := S.standsFor a
  agree s n h := by
    unfold Setting.standsFor
    split <;> rename_i h' <;> rw [h] at h' <;> cases h'
    rfl

/-- A world with the tasks of those who have asked for an operation, each with the label of the lock
that it is about. -/
structure Session where
  world : World
  callers : List (String × TaskId)

/-- Who acts for the locks of a label: one who has asked for an operation, or a watcher. -/
inductive Party
  | caller (n : Nat)
  | watcher (lock n : Nat)

/-- A lock but for the numbers of its watchers. -/
def Lock.face (k : Lock) : Lock := { k with watchers := [] }

namespace Session

/-- Nothing has happened. -/
def start : Session := ⟨.start, []⟩

/-- The locks that were created under a label, the first one first. -/
def locks (s : Session) (label : String) : List LockId := (labelled label s.world.labels).reverse

/-- The task of one who acts for the locks of a label. -/
def task? (s : Session) (label : String) : Party → Option TaskId
  | .caller n => (labelled label s.callers)[n]?
  | .watcher lock n => (s.locks label)[lock]?.bind fun l => (s.world.watchersOf l)[n]?

/-- What happens next. -/
inductive Event
  /-- Something is asked of the lock of a label. -/
  | call (label : String) (command : Command)
  /-- A task has its turn; the delays that it draws are given. -/
  | turn (label : String) (party : Party) (draws : List Draw)
  /-- A caller gives up. -/
  | abort (label : String) (n : Nat)
  /-- The parent scope of all locks is cancelled. -/
  | cancelParent
  /-- Time passes. -/
  | pass (millis : Nat)

/-- The label of the locks that an event is about. -/
def Event.label? : Event → Option String
  | call label _ | turn label _ _ | abort label _ => some label
  | cancelParent | pass _ => none

/-- Whether an event is about one of some labels, or about all locks. -/
def Event.isAbout (labels : String → Bool) (e : Event) : Bool :=
  match e.label? with
  | some label => labels label
  | none => true

/-- What an event leads to. -/
def next (S : Setting) (s : Session) : Event → Session
  | .call label command =>
    let (w, t) := s.world.spawn (.calling (.unstarted (command.step S label)))
    ⟨w, s.callers ++ [(label, t)]⟩
  | .turn label party draws =>
    match s.task? label party with
    | some t => { s with
        world := { World.poll { s.world with draws := draws } t with draws := [] } }
    | none => s
  | .abort label n =>
    match s.task? label (.caller n) with
    | some t => { s with world := s.world.abortTask t }
    | none => s
  | .cancelParent => { s with world := s.world.cancelParent S.parent }
  | .pass n => { s with world := s.world.advanceTo (s.world.clock + n) }

/-- What events lead to, one after the other. -/
def after (S : Setting) (es : List Event) : Session := es.foldl (next S) start

/-- The event can happen: the process has not exited, a task that has a turn can run, and time
passes only if no task can run, not beyond the next timer. -/
def Allows (s : Session) (e : Event) : Prop :=
  s.world.exited = none ∧
    match e with
    | .turn label party _ => ∃ t, s.task? label party = some t ∧ s.world.Runnable t
    | .pass n => (∀ t, ¬s.world.Runnable t) ∧
        ∀ due ∈ s.world.dues, s.world.clock + n ≤ max s.world.clock due
    | _ => True

/-- The events can happen one after the other. -/
inductive Possible (S : Setting) : List Event → Prop
  | nil : Possible S []
  | concat {es : List Event} {e : Event} : Possible S es → (after S es).Allows e →
      Possible S (es ++ [e])

instance (w : World) (t : TaskId) : Decidable (w.Runnable t) :=
  inferInstanceAs (Decidable (_ ∨ _))

theorem allows_turn_iff {s : Session} {label : String} {party : Party} {draws : List Draw} :
    s.Allows (.turn label party draws) ↔
      s.world.exited = none ∧ ∃ t ∈ s.task? label party, s.world.Runnable t :=
  Iff.rfl

theorem allows_pass_iff {s : Session} {n : Nat} :
    s.Allows (.pass n) ↔ s.world.exited = none ∧ (s.world.ready = [] ∧ s.world.yielded = []) ∧
      ∀ due ∈ s.world.dues, s.world.clock + n ≤ max s.world.clock due := by
  have hnone : (∀ t, ¬s.world.Runnable t) ↔ s.world.ready = [] ∧ s.world.yielded = [] := by
    simp only [World.Runnable, not_or, forall_and, List.eq_nil_iff_forall_not_mem]
  rw [← hnone]
  exact Iff.rfl

instance (s : Session) : (e : Event) → Decidable (s.Allows e)
  | .turn .. => decidable_of_iff _ allows_turn_iff.symm
  | .pass _ => decidable_of_iff _ allows_pass_iff.symm
  | .call .. | .abort .. | .cancelParent => inferInstanceAs (Decidable (_ ∧ True))

/-- Events are possible if each of them can happen after those before it. -/
theorem possible_iff {S : Setting} {es : List Event} :
    Possible S es ↔ ∀ n, ∀ h : n < es.length, (after S (es.take n)).Allows es[n] := by
  constructor
  · intro h
    induction h with
    | nil => exact fun n hn => absurd hn (Nat.not_lt_zero n)
    | @concat es e _ ha ih =>
      intro n hn
      rw [List.length_append, List.length_singleton] at hn
      rcases Nat.lt_or_eq_of_le (Nat.le_of_lt_succ hn) with hn' | rfl
      · rw [List.take_append_of_le_length (Nat.le_of_lt hn'), List.getElem_append_left hn']
        exact ih n hn'
      · rw [List.take_left, List.getElem_concat_length rfl]
        exact ha
  · induction es using List.reverseRecOn with
    | nil => exact fun _ => .nil
    | append_singleton es e ih =>
      intro h
      refine .concat (ih fun n hn => ?_) ?_
      · have := h n (by rw [List.length_append]; omega)
        rwa [List.take_append_of_le_length (Nat.le_of_lt hn), List.getElem_append_left hn] at this
      · have := h es.length (by simp)
        rwa [List.take_left, List.getElem_concat_length rfl] at this

instance (S : Setting) (es : List Event) : Decidable (Possible S es) :=
  decidable_of_iff _ possible_iff.symm

/-! ### A session falls into two -/

variable {S : Setting} {c : Choice S} {R Q : Pairing} {x r s : Session}

/-- The session `s` falls into `r`, of the labels that are chosen, and `x`, of all others. -/
structure Parted (c : Choice S) (R Q : Pairing) (x r s : Session) : Prop where
  split : Split c R Q x.world r.world s.world
  callers : Labelled R.TaskIs c.label r.callers s.callers
  others : Labelled Q.TaskIs c.others.label x.callers s.callers
  spent : s.world.draws = []
  spentRest : x.world.draws = []

namespace Parted

theorem swap (h : Parted c R Q x r s) : Parted c.others Q R r x s where
  split := h.split.swap (h.spentRest.trans h.spent.symm)
  callers := h.others
  others := c.others_others.symm ▸ h.callers
  spent := h.spent
  spentRest := h.split.draws.trans h.spent

/-- Of two lists that agree, either both have an element at a place or none. -/
theorem getElem?_cases {E : Nat → Nat → Prop} {xs ys : List Nat} (h : List.Forall₂ E xs ys)
    (n : Nat) : xs[n]? = none ∧ ys[n]? = none ∨
      ∃ i j, xs[n]? = some i ∧ ys[n]? = some j ∧ E i j := by
  induction h generalizing n with
  | nil => exact .inl ⟨rfl, rfl⟩
  | cons hij _ ih =>
    cases n with
    | zero => exact .inr ⟨_, _, rfl, rfl, hij⟩
    | succ n => exact ih n

theorem locks (h : Parted c R Q x r s) {label : String} (hl : c.label label = true) :
    List.Forall₂ R.LockIs (r.locks label) (s.locks label) :=
  List.rel_reverse (h.split.part.labels.labelled hl)

/-- Who acts for a chosen label has a task in both sessions or in none, and it is the same. -/
theorem task? (h : Parted c R Q x r s) {label : String} (hl : c.label label = true) (p : Party) :
    r.task? label p = none ∧ s.task? label p = none ∨
      ∃ t u, r.task? label p = some t ∧ s.task? label p = some u ∧ R.TaskIs t u := by
  cases p with
  | caller n => exact getElem?_cases (h.callers.labelled hl) n
  | watcher lock n =>
    unfold Session.task?
    dsimp only
    rcases getElem?_cases (h.locks hl) lock with ⟨hr, hs⟩ | ⟨l, m, hr, hs, hlm⟩
    · rw [hr, hs]
      exact .inl ⟨rfl, rfl⟩
    · rw [hr, hs]
      exact getElem?_cases (h.split.part.watchersOf hlm) n

/-- An event about a chosen label happens in the session of these labels, and not in the other. -/
theorem next (h : Parted c R Q x r s) {e : Event} {label : String} (he : e.label? = some label)
    (hl : c.label label = true) :
    ∃ R', R.Within R' ∧ Parted c R' Q x (r.next S e) (s.next S e) := by
  cases e with
  | call label' command =>
    obtain rfl := Option.some.inj he
    have hs := h.split.spawn (.calling (.unstarted label' command hl))
    have hR := R.within_withTask s.world.tasks.length
    have ht : (R.withTask s.world.tasks.length).TaskIs r.world.tasks.length
        s.world.tasks.length := by
      rw [← h.split.part.allTasks]
      exact Part.taskIs_withTask R _
    exact ⟨_, hR, {
      split := hs
      callers := (h.callers.imp fun _ _ => hR.taskIs).concat hl ht
      others := h.others.concat_rest (by simp [Choice.others, hl])
      spent := h.spent
      spentRest := h.spentRest }⟩
  | turn label' party draws =>
    -- The delays that are drawn in the turn are given for it alone: none are left for another one.
    obtain rfl := Option.some.inj he
    unfold Session.next
    dsimp only
    rcases h.task? hl party with ⟨hr, hs⟩ | ⟨t, u, hr, hs, ht⟩
    · rw [hr, hs]
      exact ⟨R, .refl R, h⟩
    · rw [hr, hs]
      obtain ⟨R', hR, hp⟩ := (h.split.withDraws draws).poll ht
      exact ⟨R', hR, {
        split := hp.withDraws []
        callers := h.callers.imp fun _ _ => hR.taskIs
        others := h.others
        spent := rfl
        spentRest := h.spentRest }⟩
  | abort label' n =>
    obtain rfl := Option.some.inj he
    unfold Session.next
    dsimp only
    rcases h.task? hl (.caller n) with ⟨hr, hs⟩ | ⟨t, u, hr, hs, ht⟩
    · rw [hr, hs]
      exact ⟨R, .refl R, h⟩
    · rw [hr, hs]
      exact ⟨R, .refl R, { h with
        split := h.split.abortTask ht
        spent := (World.draws_abortTask _ u).trans h.spent }⟩
  | cancelParent | pass n => cases he

/-- An event about all locks happens in both. -/
theorem nextAll (h : Parted c R Q x r s) {e : Event} (he : e.label? = none) :
    Parted c R Q (x.next S e) (r.next S e) (s.next S e) := by
  cases e with
  | cancelParent =>
    exact { h with
      split := h.split.cancelParent S.parent
      spent := (h.split.calm.cancelParent _).2.trans h.spent
      spentRest := (h.split.calmRest.cancelParent _).2.trans h.spentRest }
  | pass n =>
    unfold Session.next
    dsimp only
    rw [h.split.part.clock, h.split.rest.clock]
    exact { h with
      split := h.split.advanceTo _
      spent := (h.split.calm.advanceTo _).2.trans h.spent
      spentRest := (h.split.calmRest.advanceTo _).2.trans h.spentRest }
  | call | turn | abort => cases he

end Parted

theorem parted_start (c : Choice S) : Parted c ⟨[], []⟩ ⟨[], []⟩ start start start where
  split := {
    part := part_start c
    rest := part_start c.others
    apart := by rintro t t' u ht; cases ht
    draws := rfl
    calmPart := World.calm_start
    calmRest := World.calm_start
    calm := World.calm_start }
  callers := .nil
  others := .nil
  spent := rfl
  spentRest := rfl

/-- The events about chosen labels, with those about all locks. -/
def about (c : Choice S) (es : List Event) : List Event := es.filter (Event.isAbout c.label)

theorem after_concat (es : List Event) (e : Event) : after S (es ++ [e]) = (after S es).next S e :=
  List.foldl_concat ..

theorem about_concat (c : Choice S) (es : List Event) (e : Event) :
    about c (es ++ [e]) = if e.isAbout c.label then about c es ++ [e] else about c es := by
  unfold about
  rw [List.filter_append, List.filter_cons, List.filter_nil]
  split
  · rfl
  · rw [List.append_nil]

/-- **A session falls into two**, whatever happens in it: what becomes of the locks of chosen labels
and of the others is what becomes of them on their own. -/
theorem parted_after (c : Choice S) (es : List Event) :
    ∃ R Q, Parted c R Q (after S (about c.others es)) (after S (about c es)) (after S es) := by
  -- The last event happens in the session that it is about, or in both.
  induction es using List.reverseRecOn with
  | nil => exact ⟨_, _, parted_start c⟩
  | append_singleton es e ih =>
    obtain ⟨R, Q, h⟩ := ih
    rw [about_concat, about_concat, after_concat]
    unfold Event.isAbout
    cases he : e.label? with
    | none =>
      dsimp only
      rw [if_pos rfl, if_pos rfl, after_concat, after_concat]
      exact ⟨R, Q, h.nextAll he⟩
    | some label =>
      dsimp only
      by_cases hl : c.label label = true
      · have hl' : ¬c.others.label label = true := by simp [Choice.others, hl]
        obtain ⟨R', -, h'⟩ := h.next he hl
        rw [if_neg hl', if_pos hl, after_concat]
        exact ⟨R', Q, h'⟩
      · have hl' : c.others.label label = true := by simp [Choice.others, hl]
        obtain ⟨Q', -, h'⟩ := h.swap.next he hl'
        rw [if_pos hl', if_neg hl, after_concat]
        have hs := h'.swap
        rw [c.others_others] at hs
        exact ⟨R, Q', hs⟩

/-! ### What the locks of a name show -/

/-- The locks of a name show the same in two sessions. -/
structure Alike (S : Setting) (a : LockName) (r s : Session) : Prop where
  clock : r.world.clock = s.world.clock
  parents : r.world.cancelledParents = s.world.cancelledParents
  /-- Whoever acts for a lock of the name is there in both sessions or in none, and has the same
  outcome or none as yet. -/
  outcomes : ∀ label party, S.standsFor a label = true →
    (r.task? label party).map r.world.outcome? = (s.task? label party).map s.world.outcome?
  /-- The locks: their stages, scopes, losses and all else but the numbers of their watchers. -/
  locks : ∀ label, S.standsFor a label = true →
    (r.locks label).map (fun l => r.world.locks[l]?.map Lock.face) =
      (s.locks label).map fun l => s.world.locks[l]?.map Lock.face
  /-- The calls about the object of the name: when they were sent, what they asked for, and what
  they were answered. -/
  calls : callsAbout a.backing r.world.log = callsAbout a.backing s.world.log
  /-- The lease record of the object. -/
  record : r.world.store.slot? a.backing = s.world.store.slot? a.backing
  holder : r.world.store.holder r.world.now a.backing = s.world.store.holder s.world.now a.backing

theorem Parted.outcome? (h : Parted c R Q x r s) {t u : TaskId} (ht : R.TaskIs t u) :
    r.world.outcome? t = s.world.outcome? u := by
  obtain ⟨⟨a, b⟩, ⟨a', b'⟩, hy, hz, ⟨hab, -⟩⟩ := h.split.part.tasks t u ht
  unfold World.outcome?
  rw [hy, hz]
  cases hab <;> rfl

theorem Parted.alike {a : LockName} (h : Parted (.only S a) R Q x r s) : Alike S a r s where
  clock := h.split.part.clock
  parents := h.split.part.parents
  outcomes label party hl := by
    rcases h.task? hl party with ⟨hr, hs⟩ | ⟨t, u, hr, hs, ht⟩
    · rw [hr, hs]
      rfl
    · rw [hr, hs, Option.map_some, Option.map_some, h.outcome? ht]
  locks label hl := by
    have hlocks := h.locks hl
    generalize r.locks label = ls at hlocks ⊢
    generalize s.locks label = ms at hlocks ⊢
    induction hlocks with
    | nil => rfl
    | cons hlm _ ih =>
      obtain ⟨k, k', hk, hk', hlike, -⟩ := h.split.part.locks _ _ hlm
      rw [List.map_cons, List.map_cons, ih, hk, hk', hlike.same]
      rfl
  calls := h.split.part.log a (decide_eq_true rfl)
  record := h.split.part.slots a (decide_eq_true rfl)
  holder := by
    unfold Store.holder Store.activeLease?
    rw [h.split.part.slots a (decide_eq_true rfl), h.split.part.now]

/-! ### What can happen -/

/-- Every task of the session of the chosen labels is a task of the whole session. -/
theorem Parted.exists_taskIs (h : Parted c R Q x r s) {t : TaskId} (ht : t < r.world.tasks.length) :
    ∃ u, R.TaskIs t u :=
  ⟨_, List.getElem?_eq_getElem (h.split.part.allTasks.symm ▸ ht)⟩

theorem Parted.runnable_iff (h : Parted c R Q x r s) {t u : TaskId} (ht : R.TaskIs t u) :
    r.world.Runnable t ↔ s.world.Runnable u := by
  unfold World.Runnable
  rw [h.split.calmPart.unyielding, h.split.calm.unyielding, h.split.part.ready t u ht]
  simp

theorem Parted.dues (h : Parted c R Q x r s) {due : Nat} (hd : due ∈ r.world.dues) :
    due ∈ s.world.dues := by
  obtain ⟨y, hy, hd⟩ := List.mem_flatMap.1 hd
  obtain ⟨⟨wait, n⟩, hn, hw⟩ := List.mem_filterMap.1 hd
  obtain ⟨t, hlt, rfl⟩ := List.mem_iff_getElem.1 hy
  obtain ⟨u, ht⟩ := h.exists_taskIs hlt
  obtain ⟨y', z, hy', hz, hlike⟩ := h.split.part.tasks t u ht
  obtain rfl := Option.some.inj ((List.getElem?_eq_getElem hlt).symm.trans hy')
  cases wait with
  | time due' =>
    obtain rfl := Option.some.inj hw
    -- The task of the whole waits for the same instant.
    have hwaits := hlike.activity.waits fun l m hl => h.split.part.watchersOf hl
    have hiff := hwaits.exists_iff (p := fun y => decide (y = .time due'))
      (q := fun y => decide (y = .time due')) fun y z hyz => by cases hyz <;> simp
    obtain ⟨⟨wait, o⟩, ho, hwait⟩ := hiff.1 ⟨_, hn, decide_eq_true rfl⟩
    obtain rfl := of_decide_eq_true hwait
    exact World.mem_dues (congrArg (Option.map Task.activity) hz) ho
  | scope | parent | loss | finish => cases hw

/-- What can happen in the whole session to a chosen label, or to all locks, can happen in the
session of the chosen labels. -/
theorem Parted.allows (h : Parted c R Q x r s) {e : Event} (he : e.isAbout c.label = true)
    (ha : s.Allows e) : r.Allows e := by
  refine ⟨h.split.part.exited ha.1, ?_⟩
  have ha := ha.2
  cases e with
  | turn label party draws =>
    obtain ⟨u, hu, hrun⟩ := ha
    rcases h.task? he party with ⟨-, hs⟩ | ⟨t, u', hr, hs, ht⟩
    · rw [hs] at hu
      cases hu
    · obtain rfl := Option.some.inj (hs.symm.trans hu)
      exact ⟨t, hr, (h.runnable_iff ht).2 hrun⟩
  | pass n =>
    refine ⟨fun t hrun => ?_, fun due hd => ?_⟩
    · -- A task that can run in the session of the chosen labels could run in the whole session.
      have hready : t ∈ r.world.ready := by
        unfold World.Runnable at hrun
        rw [h.split.calmPart.unyielding] at hrun
        simpa using hrun
      obtain ⟨u, ht⟩ := h.exists_taskIs (h.split.calmPart.bounded t hready)
      exact ha.1 u ((h.runnable_iff ht).1 hrun)
    · rw [h.split.part.clock]
      exact ha.2 due (h.dues hd)
  | call | abort | cancelParent => trivial

/-- The events about chosen labels are possible on their own. -/
theorem Possible.about {es : List Event} (h : Possible S es) (c : Choice S) :
    Possible S (about c es) := by
  induction h with
  | nil => exact .nil
  | @concat es e _ ha ih =>
    rw [about_concat]
    split
    · next he =>
      obtain ⟨R, Q, hp⟩ := parted_after c es
      exact .concat ih (hp.allows he ha)
    · exact ih

/-- **Locks of different names do not interfere.**  In a session with any events, leave out all that
is about locks of other names than one: what is left can still happen, and at every moment the locks
of the name show the same. -/
theorem noninterference (S : Setting) (a : LockName) (es : List Event) :
    (Possible S es → Possible S (about (.only S a) es)) ∧
      ∀ n, Alike S a (after S (about (.only S a) (es.take n))) (after S (es.take n)) := by
  refine ⟨fun h => h.about _, fun n => ?_⟩
  obtain ⟨R, Q, h⟩ := parted_after (.only S a) (es.take n)
  exact h.alike

/-- The locks "alpha" and "beta" are in use side by side; then the second one is given up, and the
first one is left to renew its lease. -/
def sideBySide : List Event :=
  [.call "alpha" (.create (.ofSeconds 15) [.renewal] ⟨"i"⟩), .turn "alpha" (.caller 0) [],
    .call "beta" (.create (.ofSeconds 15) [.renewal] ⟨"j"⟩), .turn "beta" (.caller 0) [],
    .call "alpha" .lock, .call "beta" .lock, .turn "beta" (.caller 1) [],
    .turn "alpha" (.caller 1) [], .turn "beta" (.watcher 0 0) [], .turn "alpha" (.watcher 0 0) [],
    .call "beta" .shutdown, .turn "beta" (.caller 2) [], .turn "beta" (.watcher 0 0) [],
    .turn "beta" (.caller 2) [], .pass 7500, .turn "alpha" (.watcher 0 0) []]

def process : Setting := ⟨id, "process"⟩

def alpha : LockName := ⟨"alpha", by decide +kernel⟩

/-- All this can happen, and what is about the lock "alpha" can happen alone, with the same
calls. -/
theorem noninterference_sideBySide :
    Possible process sideBySide ∧ Possible process (about (.only process alpha) sideBySide) ∧
      (about (.only process alpha) sideBySide).length = 7 ∧
      (callsAbout alpha.backing
          (after process (about (.only process alpha) sideBySide)).world.log).map
            (fun r => (r.time, r.request)) =
        [(.zero, .createObject alpha.backing), (.zero, .acquire alpha.backing ⟨"i"⟩ 15),
          (.ofMillis 7500, .renew alpha.backing ⟨"i"⟩)] := by
  have hp : Possible process sideBySide := by decide +kernel
  obtain ⟨habout, halike⟩ := noninterference process alpha sideBySide
  have hcalls := (halike sideBySide.length).calls
  rw [List.take_length] at hcalls
  refine ⟨hp, habout hp, by decide +kernel, ?_⟩
  rw [hcalls]
  decide +kernel

end Session

end Leasehold
