import Leasehold.Proofs.World.Descent
import Leasehold.Proofs.World.Staffing

/-!
# The story of a step

What becomes of one step of a script is told turn by turn.  In each of its turns the task comes to
the step, goes on with it, and leaves off where it has to wait; until its next turn anything else
may happen.

* `World.Stint`: what a task does about a step in one turn.
* `World.Story`: the stints of a step from its beginning on, the latest one first.
* `Stint.By.moves`, `Stint.By.turned`: the moves of a turn before a step and those of the step.
* `Stint.By.waits`: when a step waits, its task waits in the middle of it.
* `Story.run`: between two stints of a story there is a run.
-/

namespace Leasehold

/-- A step is `q`, or is in the middle of it. -/
inductive Progress.Holds (q : Progress) : Progress → Prop
  | here : Holds q q
  | listing {p : Progress} (past : List Outcome) (rest : List Step) :
      Holds q p → Holds q (.listing past p rest)
  | working {p : Progress} (l : LockId) (n : Nat) : Holds q p → Holds q (.working l n p)

theorem Progress.Holds.engagement {p q : Progress} (h : q.Holds p) :
    p.engagement = q.engagement := by
  induction h with
  | here => rfl
  | listing _ _ _ ih | working _ _ _ ih => exact ih

theorem Poll.waiting_of_calling {p : Progress} {y : Poll Progress Outcome}
    (h : y.calling = .calling p) : y = .waiting p := by
  cases y with
  | waiting p' => cases h; rfl
  | done o => cases h

theorem Poll.done_of_calling {o : Outcome} {y : Poll Progress Outcome}
    (h : y.calling = .finished o) : y = .done o := by
  cases y with
  | waiting p' => cases h
  | done o' => cases h; rfl

namespace World

/-- What a task does about a step in one turn: the turn begins at `turn` and comes to the step at
`start`, where the step is as far as `before`; it leaves off at `finish` with the result. -/
structure Stint where
  turn : World
  start : World
  before : Progress
  finish : World
  result : Poll Progress Outcome

/-- In its turn the task comes to the step and goes on with it. -/
structure Stint.By (t : TaskId) (x : Stint) : Prop where
  comes : ∃ p, x.turn.tasks[t]? = some ⟨.calling p, false⟩ ∧
    Descends t (x.turn.atTurn t) p x.start x.before
  goes : x.start.resumeStep t x.before = (x.finish, x.result)

/-- A run in which the task has no turn. -/
def Meanwhile (A : Step → Prop) (t : TaskId) (w w' : World) : Prop :=
  Relation.ReflTransGen (fun w w' => ∃ o, NextBy A w o w' ∧ t ∉ o) w w'

/-- The stints of a step, the latest one first: it begins, and goes on from where it has waited. -/
inductive Story (A : Step → Prop) (t : TaskId) (s : Step) : List Stint → Prop
  | begins {x : Stint} : Reachable A x.turn → x.By t → x.before = .unstarted s → Story A t s [x]
  | goesOn {x y : Stint} {xs : List Stint} : Story A t s (x :: xs) →
      x.result = .waiting y.before → Meanwhile A t (x.turn.poll t) y.turn → y.By t →
      Story A t s (y :: x :: xs)

variable {A : Step → Prop} {D : Deed → Prop} {t : TaskId} {w w' w₁ w₂ : World} {l : LockId}
  {p p' q q' : Progress} {s : Step} {x y : Stint} {xs : List Stint} {o : Outcome}

/-! ### Within a turn -/

/-- When a step within a turn has to wait, the turn is over. -/
theorem Descends.waiting (h : Descends t w p w₁ q) (hq : w₁.resumeStep t q = (w₂, .waiting q')) :
    ∃ p', w.resumeStep t p = (w₂, .waiting p') ∧ q'.Holds p' := by
  induction h with
  | here w p => exact ⟨q', hq, .here⟩
  | listing past rest _ ih =>
    obtain ⟨p', hp, hh⟩ := ih hq
    exact ⟨.listing past p' rest, by rw [resumeStep, hp], .listing past rest hh⟩
  | working l n hl _ ih =>
    obtain ⟨p', hp, hh⟩ := ih hq
    exact ⟨.working l n p', by rw [resumeStep, hl, hp], .working l n hh⟩
  | settling past s rest hr _ ih =>
    obtain ⟨p', hp, hh⟩ := ih hq
    have hp : World.startStep _ t s = _ := hp
    exact ⟨.listing past p' rest, by rw [resumeStep, if_pos hr, nextStep, hp],
      .listing past rest hh⟩
  | steps s rest _ ih =>
    obtain ⟨p', hp, hh⟩ := ih hq
    have hp : World.startStep _ t s = _ := hp
    exact ⟨.listing [] p' rest, by rw [resumeStep, startStep, startSteps, hp],
      .listing [] rest hh⟩
  | @exclusive w w' w₁ q l g label s rest ho hy hl _ ih =>
    obtain ⟨p', hp, hh⟩ := ih hq
    have hp : World.startStep _ t s = _ := hp
    refine ⟨.working l w'.takeTicket.2 (.listing [] p' rest), ?_,
      .working _ _ (.listing [] rest hh)⟩
    rw [resumeStep, startStep, onOwned, ho]
    dsimp only
    rw [hy]
    dsimp only
    rw [startWork]
    dsimp only
    rw [hl]
    dsimp only
    rw [startSteps, hp]
  | @opening w w' w₁ q g l s rest a hy hl _ ih =>
    obtain ⟨p', hp, hh⟩ := ih hq
    have hp : World.startStep _ t s = _ := hp
    refine ⟨.working l w'.takeTicket.2 (.listing [] p' rest), ?_,
      .working _ _ (.listing [] rest hh)⟩
    rw [resumeStep, hy]
    dsimp only
    rw [startWork]
    dsimp only
    rw [hl]
    dsimp only
    rw [startSteps, hp]

/-- A step that a turn comes to is within bounds, and the locks of its sections are begun. -/
theorem Descends.orderly (h : Descends t w p w₁ q) (hp : p.Proper A)
    (hs : ∀ l ∈ p.sections, w.Begun l) : q.Proper A ∧ ∀ l ∈ q.sections, w₁.Begun l := by
  have none {w : World} {s : Step} : ∀ l ∈ (Progress.unstarted s).sections, w.Begun l := by
    intro l hl
    cases hl
  induction h with
  | here w p => exact ⟨hp, hs⟩
  | listing past rest _ ih => exact ih hp.1 hs
  | working l n _ _ ih => exact ih hp fun l' hl' => hs l' (List.mem_cons_of_mem l hl')
  | settling past s rest _ _ ih => exact ih hp.1 none
  | steps s rest _ ih => exact ih hp.2.1 none
  | exclusive label s rest _ _ _ _ ih => exact ih hp.2.1 none
  | opening l s rest a _ _ _ ih => exact ih hp.2.1 none

/-- What a task does after a turn in which it goes on with its step. -/
theorem activity?_poll_calling (h : Reachable A w)
    (ht : w.tasks[t]? = some ⟨.calling p, false⟩) :
    (w.poll t).activity? t = some ((w.atTurn t).resumeStep t p).2.calling := by
  have ha := (turn_calling ht (orderly_of_task h ht)).activity? (poll_calling ht) t
  rwa [if_pos rfl] at ha

namespace Stint.By

variable (hx : x.By t) (h : Reachable A x.turn)
include hx h

/-- The step of a stint is within bounds, and the locks of its sections are begun. -/
theorem orderly : x.before.Proper A ∧ ∀ l ∈ x.before.sections, x.start.Begun l := by
  obtain ⟨p, hp, hd⟩ := hx.comes
  obtain ⟨hpr, hs⟩ := orderly_of_task h hp
  exact hd.orderly hpr hs

/-- What the turn has done when it comes to the step. -/
theorem moves :
    Moves A D t (x.turn.atTurn t, x.turn.engagements t) (x.start, x.before.engagement) := by
  obtain ⟨p, hp, hd⟩ := hx.comes
  rw [engagements_of_task hp]
  exact hd.moves (orderly_of_task h hp).1

/-- What the task does about the step. -/
theorem turned :
    Turned A (fun _ => True) t x.start x.before.engagement (x.finish, x.result) := by
  have ho := hx.orderly h
  rw [← hx.goes]
  exact turned_resumeStep x.before x.start ho.1 ho.2 fun _ _ => trivial

theorem outlives_start : x.turn.Outlives x.start :=
  have hm := hx.moves (D := fun _ => True) h
  (outlives_of_locks rfl).trans hm.outlives

theorem clock_start : x.start.clock = x.turn.clock :=
  (Moves.frame (hx.moves (D := fun _ => True) h)).clock

/-- When the step waits, its task waits in the middle of it. -/
theorem waits (hq : x.result = .waiting q) : ∃ p', q.Holds p' ∧
    (x.finish.setActivity t (.calling p')).Quiet (x.turn.poll t) ∧
    (x.turn.poll t).activity? t = some (.calling p') := by
  obtain ⟨p, hp, hd⟩ := hx.comes
  have hg : x.start.resumeStep t x.before = (x.finish, .waiting q) := by rw [hx.goes, hq]
  obtain ⟨p', hp', hh⟩ := hd.waiting hg
  have hpoll := poll_calling hp
  have ha := activity?_poll_calling h hp
  rw [hp'] at hpoll ha
  exact ⟨p', hh, hpoll, ha⟩

omit h in
/-- When the step is over, the turn goes on. -/
theorem rest (ho : x.result = .done o) : ∃ p, x.turn.tasks[t]? = some ⟨.calling p, false⟩ ∧
    Rest A D t x.finish ((x.turn.atTurn t).resumeStep t p) := by
  obtain ⟨p, hp, hd⟩ := hx.comes
  exact ⟨p, hp, hd.rest (by rw [hx.goes, ho])⟩

/-- Nothing is taken back until the end of the turn. -/
theorem outlives_poll : x.finish.Outlives (x.turn.poll t) := by
  cases hr : x.result with
  | waiting q =>
    obtain ⟨p', -, hq, -⟩ := hx.waits h hr
    exact outlives_of_locks hq.locks
  | done o =>
    obtain ⟨p, hp, hd⟩ := hx.rest (A := A) (D := fun _ => True) hr
    exact (Moves.outlives hd).trans (outlives_of_locks (poll_calling hp).locks)

end Stint.By

/-! ### Between the turns -/

theorem Meanwhile.run (h : Meanwhile A t w w') : Run A w w' :=
  Relation.ReflTransGen.mono (fun _ _ ⟨_, hn, _⟩ => hn.next) _ _ h

/-- What a task waits for it waits for until its next turn. -/
theorem Meanwhile.activity? {a : Activity} (h : Meanwhile A t w w') (hw : w.Tame A)
    (ha : w.activity? t = some a) : w'.activity? t = some a := by
  induction h with
  | refl => exact ha
  | tail hm hn ih =>
    obtain ⟨o, hn, ht⟩ := hn
    exact activity?_other (hw.run (Meanwhile.run hm)) hn ht ih

namespace Story

theorem reachable (h : Story A t s (x :: xs)) : Reachable A x.turn := by
  generalize hl : x :: xs = zs at h
  induction h generalizing x xs with
  | begins hr _ _ => cases hl; exact hr
  | goesOn _ _ hm _ ih => cases hl; exact ((ih rfl).tail (.poll t)).trans hm.run

theorem stint (h : Story A t s (x :: xs)) : x.By t := by
  cases h <;> assumption

theorem tail (h : Story A t s (y :: x :: xs)) : Story A t s (x :: xs) := by
  cases h; assumption

/-- A run leads from a stint to a later one. -/
theorem run (h : Story A t s (y :: xs)) (hx : x ∈ xs) : Run A (x.turn.poll t) y.turn := by
  induction xs generalizing y with
  | nil => cases hx
  | cons z zs ih =>
    cases h with
    | goesOn hz _ hm _ =>
      rcases List.mem_cons.1 hx with rfl | hx
      · exact hm.run
      · exact ((ih hz hx).tail (.poll t)).trans hm.run

/-- The world in which a step goes on: all that has become of the locks since it waited. -/
theorem outlives (h : Story A t s (y :: x :: xs)) : x.finish.Outlives y.start := by
  have hx : x.By t := h.tail.stint
  have hr : Reachable A x.turn := h.tail.reachable
  refine (hx.outlives_poll hr).trans (Outlives.trans ?_ (h.stint.outlives_start h.reachable))
  exact outlives_run (hr.tail (.poll t)) (h.run List.mem_cons_self)

end Story

/-! ### Stories that can be run -/

/-- What a task does in one turn about the step that is all it does. -/
def Stint.whole (w : World) (t : TaskId) (p : Progress) : Stint :=
  ⟨w, w.atTurn t, p, ((w.atTurn t).resumeStep t p).1, ((w.atTurn t).resumeStep t p).2⟩

theorem Stint.by_whole (ht : w.tasks[t]? = some ⟨.calling p, false⟩) : (Stint.whole w t p).By t :=
  ⟨⟨p, ht, .here _ _⟩, rfl⟩

theorem Stint.result_whole : (Stint.whole w t p).result = ((w.atTurn t).resumeStep t p).2 := rfl

/-- A stint ends with what its task does after the turn. -/
theorem Stint.calling_whole {a : Activity} (h : Reachable A w)
    (ht : w.tasks[t]? = some ⟨.calling p, false⟩) (ha : (w.poll t).activity? t = some a) :
    (Stint.whole w t p).result.calling = a := by
  rw [result_whole]
  exact Option.some.inj ((activity?_poll_calling h ht).symm.trans ha)

theorem Story.begins_whole (h : Reachable A w)
    (ht : w.tasks[t]? = some ⟨.calling (.unstarted s), false⟩) :
    Story A t s [.whole w t (.unstarted s)] :=
  .begins h (Stint.by_whole ht) rfl

theorem Story.goesOn_whole (h : Story A t s (.whole w t p :: xs))
    (hq : (Stint.whole w t p).result = .waiting q) (hm : Meanwhile A t (w.poll t) w')
    (ht : w'.tasks[t]? = some ⟨.calling q, false⟩) :
    Story A t s (.whole w' t q :: .whole w t p :: xs) :=
  .goesOn h hq hm (Stint.by_whole ht)

theorem outcome?_eq_some_iff : w.outcome? t = some o ↔ w.activity? t = some (.finished o) := by
  unfold outcome? activity?
  constructor
  · intro h
    split at h
    · next ht =>
      cases h
      rw [ht]
      rfl
    · cases h
  · intro h
    obtain ⟨⟨a, b⟩, ht, rfl⟩ := Option.map_eq_some_iff.1 h
    rw [ht]

/-- The task that has the next turn. -/
def upNext? (w : World) : Option TaskId :=
  match w.ready with
  | t :: _ => some t
  | [] => w.yielded.head?

theorem nextBy_turn (w : World) : NextBy A w w.upNext? w.turn := by
  unfold turn upNext?
  cases hr : w.ready with
  | cons t ts => exact .poll t
  | nil =>
    cases hy : w.yielded with
    | cons t ts => exact .poll t
    | nil => exact .advance hr hy

theorem turn_eq_poll (h : w.upNext? = some t) : w.turn = w.poll t := by
  unfold turn
  unfold upNext? at h
  cases hr : w.ready with
  | cons t' ts =>
    rw [hr] at h
    cases h
    rfl
  | nil =>
    rw [hr] at h
    cases hy : w.yielded with
    | cons t' ts =>
      rw [hy] at h
      cases h
      rfl
    | nil =>
      rw [hy] at h
      cases h

theorem meanwhile_iterate_turn {n : Nat} (h : ∀ i < n, (turn^[i] w).upNext? ≠ some t) :
    Meanwhile A t w (turn^[n] w) := by
  induction n with
  | zero => exact .refl
  | succ n ih =>
    rw [Function.iterate_succ_apply']
    exact (ih fun i hi => h i (Nat.lt_succ_of_lt hi)).tail
      ⟨_, nextBy_turn _, fun ht => h n (Nat.lt_succ_self n) ht⟩

section AfterTurns

variable {steps : List Step} {n : Nat}

/-- The world of a script after so many turns. -/
def afterTurns (steps : List Step) (n : Nat) : World := turn^[n] (ofScript steps)

theorem reachable_afterTurns (hs : (Step.steps steps).Within A) (n : Nat) :
    Reachable A (afterTurns steps n) := reachable_ofScript hs n

theorem turn_afterTurns (steps : List Step) (n : Nat) :
    (afterTurns steps n).turn = afterTurns steps (n + 1) :=
  (Function.iterate_succ_apply' turn n _).symm

theorem poll_afterTurns (h : (afterTurns steps n).upNext? = some t) :
    (afterTurns steps n).poll t = afterTurns steps (n + 1) := by
  rw [← turn_eq_poll h, turn_afterTurns]

/-- In some turns of a script the task has none. -/
theorem meanwhile_afterTurns {m : Nat}
    (h : ∀ i < m, (afterTurns steps (i + n)).upNext? ≠ some t) :
    Meanwhile A t (afterTurns steps n) (afterTurns steps (m + n)) := by
  have hi : ∀ i, turn^[i] (afterTurns steps n) = afterTurns steps (i + n) :=
    fun i => (Function.iterate_add_apply turn i n _).symm
  rw [← hi]
  exact meanwhile_iterate_turn fun i hlt => by rw [hi]; exact h i hlt

section Turn

variable (hs : (Step.steps steps).Within A) (hup : (afterTurns steps n).upNext? = some t)
  (ht : (afterTurns steps n).tasks[t]? = some ⟨.calling p, false⟩)
include hs hup ht

/-- A turn of a script in which a step goes on until it has to wait. -/
theorem waiting_afterTurns {b : Bool}
    (hq : (afterTurns steps (n + 1)).tasks[t]? = some ⟨.calling q, b⟩) :
    (Stint.whole (afterTurns steps n) t p).result = .waiting q := by
  refine Poll.waiting_of_calling (Stint.calling_whole (reachable_afterTurns hs n) ht ?_)
  rw [poll_afterTurns hup, activity?, hq]
  rfl

/-- A turn of a script in which a step comes to its end. -/
theorem done_afterTurns (ho : (afterTurns steps (n + 1)).outcome? t = some o) :
    (Stint.whole (afterTurns steps n) t p).result = .done o := by
  refine Poll.done_of_calling (Stint.calling_whole (reachable_afterTurns hs n) ht ?_)
  rw [poll_afterTurns hup]
  exact outcome?_eq_some_iff.1 ho

end Turn

end AfterTurns

/-- The tasks that some events concern, with their tickets, in the order of their numbers. -/
def tickets (w : World) (concerns : Wait → Bool) : List (Nat × TaskId) :=
  w.tasks.zipIdx.filterMap fun (task, t) => (w.ticketFor? concerns task).map fun k => (k, t)

/-- Tasks that have registered in the order of their numbers are woken in this order. -/
theorem wakeAll_eq_foldl {concerns : Wait → Bool}
    (h : (w.tickets concerns).Pairwise fun a b => a.1 ≤ b.1) :
    w.wakeAll concerns = (w.tickets concerns).foldl (fun w x => w.wake x.2) w := by
  have hs : w.concerned concerns = w.tickets concerns :=
    List.mergeSort_of_pairwise (h.imp fun hab => decide_eq_true hab)
  rw [wakeAll, hs]

/-- The timer of the wait has fired at a millisecond. -/
def firedBy (millis : Nat) : Wait → Bool
  | .time due => due ≤ millis
  | _ => false

/-- The clock moves to a millisecond, and the tasks whose timers have fired are woken in the order
of their numbers. -/
def advanceInOrder (w : World) (millis : Nat) : World :=
  (({ w with clock := millis } : World).tickets (firedBy millis)).foldl (fun w x => w.wake x.2)
    { w with clock := millis }

theorem turn_eq_advanceInOrder {n : Nat} (hr : w.ready = []) (hy : w.yielded = [])
    (hd : w.nextDue? = some n) (hc : w.clock ≤ n)
    (hs : (({ w with clock := n } : World).tickets (firedBy n)).Pairwise fun a b => a.1 ≤ b.1) :
    w.turn = w.advanceInOrder n := by
  unfold turn advance
  rw [hr, hy]
  dsimp only
  rw [hd]
  dsimp only
  rw [Nat.max_eq_right hc]
  exact wakeAll_eq_foldl hs

end World

end Leasehold
