import Leasehold.Proofs.World.Founding

/-!
# Stretches of a turn

How stretches of moves are put together, and what becomes of a call in the course of one.

* `Stretch.trans`, `Stretch.of_move`, `Stretch.of_moves`: building blocks.
* `carried_issue`, `carried_fly`: what becomes of a call in one turn.
-/

namespace Leasehold

theorem map_modify_of {α β : Type} (g : α → β) (f : α → α) (f' : β → β)
    (h : ∀ a, g (f a) = f' (g a)) (l : List α) (i : Nat) :
    (l.modify i f).map g = (l.map g).modify i f' := by
  apply List.ext_getElem?
  intro j
  rw [List.getElem?_map, List.getElem?_modify, List.getElem?_modify, List.getElem?_map]
  cases l[j]? with
  | none => rfl
  | some a => simp only [Option.map_eq_map, Option.map_some]; split <;> simp [h]

theorem modify_concat_length {α : Type} (l : List α) (a : α) (f : α → α) :
    (l ++ [a]).modify l.length f = l ++ [f a] := by
  rw [List.modify_eq_take_cons_drop (by simp)]
  simp

/-- An element of a list with one more at its end is an old one or the new one. -/
theorem getElem?_concat_cases {α : Type} {l : List α} {a b : α} {n : Nat}
    (h : (l ++ [a])[n]? = some b) : l[n]? = some b ∨ n = l.length ∧ a = b := by
  rcases Nat.lt_or_ge n l.length with hlt | hge
  · rw [List.getElem?_append_left hlt] at h
    exact .inl h
  · rw [List.getElem?_append_right hge, List.getElem?_singleton] at h
    split at h
    · next hn => exact .inr ⟨by omega, Option.some.inj h⟩
    · cases h

theorem getElem?_concat_of_some {α : Type} {l : List α} {a b : α} {n : Nat}
    (h : l[n]? = some b) : (l ++ [a])[n]? = some b := by
  rw [List.getElem?_append_left (List.getElem?_eq_some_iff.1 h).1]
  exact h

namespace World

variable {A : Step → Prop} {D : Deed → Prop} {t : TaskId} {w w' w'' : World}
  {c c' c'' : Option Engagement} {l : LockId}

/-! ### Promptness -/

/-- The tasks at each critical section. -/
def queues (w : World) : List (List TaskId) := w.locks.map (·.queue)

theorem prompt_iff : w.Prompt ↔ w.plans = [] ∧ ∀ q ∈ w.queues, q = [] := by
  simp [Prompt, queues]

theorem queues_updateLock {f : Lock → Lock} (hf : ∀ k, (f k).queue = k.queue) :
    (w.updateLock l f).queues = w.queues := by
  show (w.locks.modify l f).map (·.queue) = _
  rw [map_modify_of _ f id hf, List.modify_id]
  rfl

theorem queues_updateLock_queue (g : List TaskId → List TaskId) :
    (w.updateLock l fun k => { k with queue := g k.queue }).queues = w.queues.modify l g := by
  show (w.locks.modify l _).map (·.queue) = _
  exact map_modify_of (fun k : Lock => k.queue) (fun k => { k with queue := g k.queue }) g
    (fun _ => rfl) _ _

theorem queues_of_locks (h : w'.locks = w.locks) : w'.queues = w.queues := by
  rw [queues, h, queues]

theorem Quiet.queues (h : w.Quiet w') : w'.queues = w.queues := queues_of_locks h.locks

theorem Prompt.congr (h : w.Prompt) (hp : w'.plans = w.plans) (hq : w'.queues = w.queues) :
    w'.Prompt := by
  rw [prompt_iff] at h ⊢
  rw [hp, hq]
  exact h

theorem Quiet.prompt (h : w.Quiet w') (hp : w.Prompt) : w'.Prompt := hp.congr h.plans h.queues

theorem Prompt.updateLock (h : w.Prompt) {f : Lock → Lock} (hf : ∀ k, (f k).queue = k.queue) :
    (w.updateLock l f).Prompt :=
  h.congr rfl (queues_updateLock hf)

/-- A visit that begins and ends in one turn leaves nobody behind. -/
theorem Prompt.visited (h : w.Prompt) (hp : w'.plans = [])
    (hq : w'.queues = (w.queues.modify l (· ++ [t])).modify l (·.erase t)) : w'.Prompt := by
  rw [prompt_iff] at h ⊢
  refine ⟨hp, fun q hm => ?_⟩
  rw [hq, List.modify_modify_eq] at hm
  obtain ⟨i, hi⟩ := List.mem_iff_getElem?.1 hm
  rw [List.getElem?_modify] at hi
  cases hqi : w.queues[i]? with
  | none => rw [hqi] at hi; cases hi
  | some q' =>
    have hq' := h.2 q' (List.mem_of_getElem? hqi)
    subst hq'
    rw [hqi] at hi
    by_cases hli : l = i
    · simpa [hli, eq_comm] using hi
    · simpa [hli, eq_comm] using hi

/-- A move without engagement keeps a world prompt, unless it makes plans. -/
theorem Move.prompt (h : Move A D t w none w' none) (hA : ∀ op p n, ¬ A (.plan op p n))
    (hp : w.Prompt) : w'.Prompt := by
  cases h with
  | quiet h => exact h.prompt hp
  | own l f g => exact hp.updateLock fun _ => rfl
  | cancel l => exact (quiet_cancelScope w l).prompt (hp.updateLock fun _ => rfl)
  | lose l reason _ _ _ => exact (quiet_raiseLoss w l reason).prompt (hp.updateLock fun _ => rfl)
  | parent | foreign | revoke | inject | spawn => exact hp.congr rfl rfl
  | plan op p n h => exact absurd h (hA op p n)
  | build cr _ =>
    have hf := founding_built w cr
    obtain ⟨s, ws, hl⟩ := hf.locks
    refine ⟨hf.plans.trans hp.1, fun k hk => ?_⟩
    rw [hl] at hk
    rcases List.mem_append.1 hk with hk | hk
    · exact hp.2 k hk
    · rw [List.mem_singleton.1 hk]
      rfl

/-! ### What becomes of a lock -/

/-- What no move takes back: a lock keeps its name, its term and its id, and once it is begun,
cancelled or lost it remains so. -/
structure Evolves (k k' : Lock) : Prop where
  name : k'.name = k.name
  term : k'.term = k.term
  id : k'.id = k.id
  begun : k.stage ≠ .idle → k'.stage ≠ .idle
  cancelled : k.cancelled = true → k'.cancelled = true
  lost : ∀ loss, k.lossCell.loss = some loss → k'.lossCell.loss = some loss

theorem Evolves.refl (k : Lock) : Evolves k k :=
  ⟨rfl, rfl, rfl, fun h => h, fun h => h, fun _ h => h⟩

theorem Evolves.trans {k k' k'' : Lock} (h : Evolves k k') (h' : Evolves k' k'') :
    Evolves k k'' where
  name := h'.name.trans h.name
  term := h'.term.trans h.term
  id := h'.id.trans h.id
  begun := h'.begun ∘ h.begun
  cancelled := h'.cancelled ∘ h.cancelled
  lost loss hl := h'.lost loss (h.lost loss hl)

theorem Evolves.request {k k' : Lock} (h : Evolves k k') : k'.request = k.request := by
  funext call
  cases call <;> simp only [Lock.request, h.name, h.id, h.term]

/-- Every lock is still there and has evolved. -/
def Outlives (w w' : World) : Prop :=
  ∀ (l : LockId) (k : Lock), w.locks[l]? = some k → ∃ k', w'.locks[l]? = some k' ∧ Evolves k k'

theorem outlives_of_locks (h : w'.locks = w.locks) : w.Outlives w' :=
  fun l k hk => ⟨k, by rw [h]; exact hk, .refl k⟩

theorem Outlives.refl (w : World) : w.Outlives w := outlives_of_locks rfl

theorem Outlives.trans (h : w.Outlives w') (h' : w'.Outlives w'') : w.Outlives w'' := by
  intro l k hk
  obtain ⟨k', hk', he⟩ := h l k hk
  obtain ⟨k'', hk'', he'⟩ := h' l k' hk'
  exact ⟨k'', hk'', he.trans he'⟩

theorem Outlives.quiet (h : w.Outlives w') (hq : w'.Quiet w'') : w.Outlives w'' :=
  h.trans (outlives_of_locks hq.locks)

/-- The change of one lock. -/
theorem outlives_updateLock {f : Lock → Lock}
    (hf : ∀ k, w.locks[l]? = some k → Evolves k (f k)) : w.Outlives (w.updateLock l f) := by
  intro l' k hk
  rw [getElem?_updateLock]
  split
  · next h =>
    subst h
    exact ⟨f k, by rw [hk]; rfl, hf k hk⟩
  · exact ⟨k, hk, .refl k⟩

theorem outlives_leave (t : TaskId) : w.Outlives (w.leave t l) := by
  refine Outlives.quiet ?_ (quiet_leave w t l)
  exact outlives_updateLock fun _ _ => ⟨rfl, rfl, rfl, id, id, fun _ => id⟩

theorem outlives_cancelScope : w.Outlives (w.cancelScope l) := by
  refine Outlives.quiet ?_ (quiet_cancelScope w l)
  exact outlives_updateLock fun _ _ => ⟨rfl, rfl, rfl, id, fun _ => rfl, fun _ => id⟩

theorem outlives_raiseLoss (reason : String) : w.Outlives (w.raiseLoss l reason) := by
  refine Outlives.quiet ?_ (quiet_raiseLoss w l reason)
  exact outlives_updateLock fun k _ => ⟨rfl, rfl, rfl, id, fun _ => rfl, k.loss_lose reason⟩

theorem locks_settleCall (w : World) (r : Request) (p : Plan) :
    (w.settleCall r p).1.locks = w.locks := by
  unfold settleCall
  split <;> rfl

theorem locks_takePlan (op : Operation) : (w.takePlan op).1.locks = w.locks := by
  unfold takePlan
  split <;> rfl

theorem locks_sent (r : Request) : (w.sent r).locks = w.locks := locks_takePlan _

theorem outlives_setStage {s : Stage}
    (hs : ∀ k, w.locks[l]? = some k → k.stage ≠ .idle → s ≠ .idle) :
    w.Outlives (w.setStage l s) :=
  outlives_updateLock fun k hk => ⟨rfl, rfl, rfl, hs k hk, id, fun _ => id⟩

theorem outlives_concluded (call : LeaseCall) (a : Answer) :
    w.Outlives (w.concluded l call a) := by
  cases call with
  | acquire =>
    cases a with
    | ok u => exact outlives_setStage fun _ _ _ => by decide
    | error e => exact .refl w
  | renew => exact .refl w
  | release => exact outlives_cancelScope

/-- No move takes a lock away or undoes what it has gone through. -/
theorem Move.outlives (h : Move A D t w c w' c') : w.Outlives w' := by
  cases h with
  | quiet h => exact outlives_of_locks h.locks
  | own l f g => exact outlives_updateLock fun _ _ => ⟨rfl, rfl, rfl, id, id, fun _ => id⟩
  | cancel l => exact outlives_cancelScope
  | lose l reason _ _ _ => exact outlives_raiseLoss reason
  | parent | foreign | revoke | inject | plan | spawn | told | forget =>
    exact outlives_of_locks rfl
  | build cr _ =>
    obtain ⟨s, ws, hl⟩ := (founding_built w cr).locks
    intro l k hk
    refine ⟨k, ?_, .refl k⟩
    rw [hl, List.getElem?_append_left (List.getElem?_eq_some_iff.1 hk).1]
    exact hk
  | enqueue l errand _ => exact outlives_updateLock fun _ _ => ⟨rfl, rfl, rfl, id, id, fun _ => id⟩
  | leave l e _ _ => exact outlives_leave t
  | abandon l e _ _ => exact outlives_leave t
  | send l k errand call hk _ _ hs _ =>
    refine Outlives.trans (outlives_setStage fun k' hk' hn => ?_) (outlives_of_locks (locks_sent _))
    rw [hk] at hk'
    cases hk'
    cases call with
    | acquire => exact absurd hs hn
    | renew => decide
    | release => decide
  | arrive l call r n p => exact outlives_of_locks (locks_settleCall w r p)
  | receive l call r n a =>
    have ha : w.Outlives (w.answered n a) := outlives_of_locks rfl
    exact (ha.trans (outlives_concluded call a)).trans (outlives_leave t)
  | ask r _ => exact outlives_of_locks (locks_sent r)
  | provision r n p => exact outlives_of_locks (locks_settleCall w r p)

/-- No sequence of moves does. -/
theorem Moves.outlives {x y : World × Option Engagement} (h : Moves A D t x y) :
    x.1.Outlives y.1 := by
  induction h with
  | refl => exact .refl _
  | tail _ hm ih => exact ih.trans hm.outlives

theorem Begun.outlives (h : w.Begun l) (ho : w.Outlives w') : w'.Begun l := by
  obtain ⟨k, hk, hs⟩ := h
  obtain ⟨k', hk', he⟩ := ho l k hk
  exact ⟨k', hk', he.begun hs⟩

theorem isCancelled_eq {k : Lock} (hk : w.locks[l]? = some k) : w.isCancelled l = k.cancelled := by
  rw [isCancelled, hk]

theorem lossOf_eq {k : Lock} (hk : w.locks[l]? = some k) : w.lossOf l = k.lossCell.loss := by
  rw [lossOf, hk]

theorem exists_lock_of_isCancelled (h : w.isCancelled l = true) : ∃ k, w.locks[l]? = some k := by
  cases hk : w.locks[l]? with
  | none => rw [isCancelled, hk] at h; cases h
  | some k => exact ⟨k, rfl⟩

theorem Outlives.isCancelled (h : w.Outlives w') (hc : w.isCancelled l = true) :
    w'.isCancelled l = true := by
  obtain ⟨k, hk⟩ := exists_lock_of_isCancelled hc
  obtain ⟨k', hk', he⟩ := h l k hk
  rw [isCancelled_eq hk']
  exact he.cancelled (by rwa [← isCancelled_eq hk])

theorem Outlives.lossOf {loss : Loss} (h : w.Outlives w') (hl : w.lossOf l = some loss) :
    w'.lossOf l = some loss := by
  cases hk : w.locks[l]? with
  | none => rw [World.lossOf, hk] at hl; cases hl
  | some k =>
    obtain ⟨k', hk', he⟩ := h l k hk
    rw [lossOf_eq hk']
    exact he.lost loss (by rwa [← lossOf_eq hk])

/-! ### Building blocks -/

theorem Moves.then {x : World × Option Engagement} (h : Moves A D t x (w, c))
    (m : Move A D t w c w' c') : Moves A D t x (w', c') :=
  Relation.ReflTransGen.tail h m

namespace Stretch

theorem refl (A : Step → Prop) (t : TaskId) (w : World) : Stretch A D t w none w none where
  moves := .refl
  behind _ _ _ h := by cases h
  prompt _ _ hp := ⟨rfl, hp⟩

theorem trans (h : Stretch A D t w c w' c') (h' : Stretch A D t w' c' w'' c'') :
    Stretch A D t w c w'' c'' where
  moves := Relation.ReflTransGen.trans h.moves h'.moves
  behind := h'.behind
  prompt hA hc hp := by
    obtain ⟨hc', hp'⟩ := h.prompt hA hc hp
    exact h'.prompt hA hc' hp'

/-- A move by which a task that is engaged in nothing remains so. -/
theorem of_move (h : Move A D t w none w' none) : Stretch A D t w none w' none where
  moves := .single h
  behind _ _ _ h := by cases h
  prompt hA _ hp := ⟨rfl, h.prompt hA hp⟩

theorem quiet (h : w.Quiet w') : Stretch A D t w none w' none := of_move (.quiet h)

/-- Moves of an engaged task after which it is not in a queue. -/
theorem of_moves {e : Engagement} (h : Moves A D t (w, some e) (w', c'))
    (hc' : ∀ l errand, c' ≠ some (.queued l errand)) : Stretch A D t w (some e) w' c' where
  moves := h
  behind l errand _ h := absurd h (hc' l errand)
  prompt _ hc _ := by cases hc

/-- A quiet change at the end. -/
theorem then_quiet (h : Stretch A D t w c w' c') (hq : w'.Quiet w'') :
    Stretch A D t w c w'' c' where
  moves := Moves.then h.moves (.quiet hq)
  behind l errand k hc hk := h.behind l errand k hc (by rw [← hq.locks]; exact hk)
  prompt hA hc hp := by
    obtain ⟨hc', hp'⟩ := h.prompt hA hc hp
    exact ⟨hc', hq.prompt hp'⟩

/-- What remains to be shown of moves of a task that was engaged in nothing. -/
theorem of_moves_none (h : Moves A D t (w, none) (w', c'))
    (hc' : ∀ l errand, c' ≠ some (.queued l errand))
    (hp : w.Prompt → c' = none ∧ w'.Prompt) : Stretch A D t w none w' c' where
  moves := h
  behind l errand _ h := absurd h (hc' l errand)
  prompt _ _ := hp

end Stretch

/-! ### Calls -/

theorem leave_eq_self {t : TaskId} (h : w.locks[l]? = none) : w.leave t l = w := by
  rw [leave, h]

theorem takePlan_of_unplanned {op : Operation} (h : ∀ x ∈ w.plans, x.1 ≠ op) :
    w.takePlan op = (w, .immediate) := by
  have hn : w.plans.find? (·.1 == op) = none :=
    List.find?_eq_none.2 fun x hx he => h x hx (eq_of_beq he)
  unfold takePlan
  rw [hn]

theorem plans_takePlan (op : Operation) (h : w.plans = []) :
    w.takePlan op = (w, .immediate) :=
  takePlan_of_unplanned (by simp [h])

theorem sent_of_plans_nil (h : w.plans = []) (r : Request) :
    w.sent r = { w with log := w.log ++ [⟨w.now, r, none⟩] } := by
  rw [sent, plans_takePlan _ h]

theorem clock_takePlan (op : Operation) : (w.takePlan op).1.clock = w.clock := by
  unfold takePlan
  split <;> rfl

theorem log_takePlan (op : Operation) : (w.takePlan op).1.log = w.log := by
  unfold takePlan
  split <;> rfl

theorem log_settleCall (r : Request) (p : Plan) : (w.settleCall r p).1.log = w.log := by
  unfold settleCall
  split <;> rfl

theorem plans_settleCall (r : Request) (p : Plan) : (w.settleCall r p).1.plans = w.plans := by
  unfold settleCall
  split <;> rfl

theorem clock_sent (r : Request) : (w.sent r).clock = w.clock := clock_takePlan _

theorem log_sent (r : Request) : (w.sent r).log = w.log ++ [⟨w.now, r, none⟩] := by
  show (w.takePlan _).1.log ++ [⟨(w.takePlan _).1.now, r, none⟩] = _
  rw [log_takePlan, World.now, clock_takePlan, World.now]

theorem courseOf_setStage (s : Stage) (r : Request) :
    (w.setStage l s).courseOf r = w.courseOf r := by
  unfold courseOf takePlan setStage updateLock
  dsimp only
  split <;> rfl

/-- A kind of engagement with a call: it is one move for the call to arrive. -/
def Carries (A : Step → Prop) (D : Deed → Prop) (t : TaskId)
    (mk : Request → Nat → Course → Engagement) : Prop :=
  ∀ w r n p, Move A D t w (some (mk r n (.outbound p))) (w.settleCall r p).1
    (some (mk r n (.inbound (p.replacement.getD (w.settleCall r p).2))))

/-- What has become of a call: its answer is about to be received, or it is on its way. -/
inductive Carried (A : Step → Prop) (D : Deed → Prop) (t : TaskId)
    (mk : Request → Nat → Course → Engagement) (x : World × Option Engagement) :
    World × Poll Flight Answer → Prop
  | done {w r n a} : Moves A D t x (w, some (mk r n (.inbound a))) →
      Carried A D t mk x (w.answered n a, .done a)
  | waiting {w f} : Moves A D t x (w, some (mk f.request f.record f.leg.course)) →
      Carried A D t mk x (w, .waiting f)

section Carried

variable {mk : Request → Nat → Course → Engagement} {x : World × Option Engagement} {r : Request}
  {n : Nat} {p : Plan} {f : Flight} {a : Answer}

theorem Carried.of_done (h : Carried A D t mk x (w, .done a)) :
    ∃ w' r n, w = w'.answered n a ∧ Moves A D t x (w', some (mk r n (.inbound a))) := by
  generalize hy : (w, Poll.done a) = y at h
  cases h with
  | done h =>
    obtain ⟨rfl, ha⟩ := Prod.mk.inj hy
    obtain rfl := Poll.done.inj ha
    exact ⟨_, _, _, rfl, h⟩
  | waiting h => cases (Prod.mk.inj hy).2

theorem Carried.of_waiting (h : Carried A D t mk x (w, .waiting f)) :
    Moves A D t x (w, some (mk f.request f.record f.leg.course)) := by
  generalize hy : (w, Poll.waiting f) = y at h
  cases h with
  | done h => cases (Prod.mk.inj hy).2
  | waiting h =>
    obtain ⟨rfl, hf⟩ := Prod.mk.inj hy
    obtain rfl := Poll.waiting.inj hf
    exact h

theorem carried_arrive (hm : Carries A D t mk)
    (h : Moves A D t x (w, some (mk r n (.outbound p)))) :
    Carried A D t mk x (w.arrive n r p) := by
  have hs := h.then (hm w r n p)
  unfold arrive
  dsimp only
  split
  · exact .done hs
  · exact .waiting (hs.then (.quiet (quiet_timer _ _)))

theorem carried_issue (hm : Carries A D t mk)
    (h : Moves A D t x (w.sent r, some (mk r w.log.length (w.courseOf r)))) :
    Carried A D t mk x (w.issue r) := by
  have hl : (w.takePlan r.operation).1.log.length = w.log.length := by rw [log_takePlan]
  unfold issue
  dsimp only
  rw [hl]
  split
  · exact carried_arrive hm h
  · exact .waiting (h.then (.quiet (quiet_timer _ _)))

theorem carried_fly (hm : Carries A D t mk)
    (h : Moves A D t x (w, some (mk f.request f.record f.leg.course))) :
    Carried A D t mk x (w.fly f) := by
  unfold fly
  split
  · cases hl : f.leg with
    | outbound timer p => rw [hl] at h; exact carried_arrive hm h
    | inbound timer a => rw [hl] at h; exact .done h
  · exact .waiting h

end Carried

theorem ceilMillis_now_add_zero (w : World) : (w.now + Span.zero).ceilMillis ≤ w.clock := by
  have hz : (w.now + Span.zero).nanos = w.now.nanos := by
    rw [Span.nanos_add, show Span.zero.nanos = 0 from rfl, Nat.add_zero]
  rw [Span.ceilMillis_le_iff, Span.le_def, hz]
  exact Nat.le_of_eq rfl

theorem arrive_immediate (w : World) (n : Nat) (r : Request) :
    w.arrive n r .immediate =
      ((w.serve r).1.answered n (w.serve r).2, .done (w.serve r).2) := by
  unfold arrive
  dsimp only
  split
  · rfl
  · next hat => exact absurd (ceilMillis_now_add_zero _) hat

/-- A call without a plan of its own arrives at once. -/
theorem issue_eq_arrive {r : Request} (hp : w.takePlan r.operation = (w, .immediate)) :
    w.issue r =
      arrive { w with log := w.log ++ [⟨w.now, r, none⟩] } w.log.length r .immediate := by
  unfold issue
  rw [hp]
  dsimp only
  split
  · rfl
  · next hat => exact absurd (ceilMillis_now_add_zero _) hat

/-- Without plans a call is answered at once. -/
theorem issue_of_plans_nil (h : w.plans = []) (r : Request) :
    ∃ w' a, w.issue r = (w', .done a) ∧ w'.locks = w.locks ∧ w'.plans = [] := by
  rw [issue_eq_arrive (plans_takePlan _ h), arrive_immediate]
  exact ⟨_, _, rfl, rfl, h⟩

theorem carries_provisioning : Carries A D t .provisioning :=
  fun _ r n p => .provision r n p

end World

end Leasehold
