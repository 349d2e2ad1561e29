import Leasehold.Proofs.Lock.Ledger

/-!
# The life of an instance

An instance asks for the lease until one of its calls is granted, then renews it any number of
times, then releases it once, and is never heard of again.

* `LifeCycle`: the calls of an instance that is in a stage.
* `Ledger.Chronicled`: the log has the calls of every instance in this order.
* `chronicled_reachable`: this holds in every reachable world.
-/

namespace Leasehold

/-- Calls for a lease, none of them granted. -/
def Applications (request : LeaseCall → Request) (cs : List CallRecord) : Prop :=
  ∀ rec ∈ cs, rec.request = request .acquire ∧ rec.answer ≠ some (.ok ())

/-- Calls for a lease of which the last was granted, and then renewals. -/
def Tenure (request : LeaseCall → Request) (cs : List CallRecord) : Prop :=
  ∃ applications grant renewals, cs = applications ++ grant :: renewals ∧
    Applications request applications ∧
    (grant.request = request .acquire ∧ grant.answer = some (.ok ())) ∧
    ∀ rec ∈ renewals, rec.request = request .renew

/-- The calls of an instance that is in a stage, the earliest first. -/
def LifeCycle (request : LeaseCall → Request) : Stage → List CallRecord → Prop
  | .idle, cs => Applications request cs
  | .acquired, cs => Tenure request cs
  | .released, cs => ∃ tenure release, cs = tenure ++ [release] ∧ Tenure request tenure ∧
      release.request = request .release

/-- The place of a stage in the life of an instance. -/
def Stage.rank : Stage → Nat
  | idle => 0
  | acquired => 1
  | released => 2

/-- The stage of an instance after a lease call was answered. -/
def LeaseCall.after : LeaseCall → Answer → Stage
  | acquire, .ok _ => .acquired
  | call, _ => call.during

/-- The stage of a lock after the answer to its call was received. -/
theorem Core.stage_received {t : TaskId} {call : LeaseCall} {a : Answer} {k : Core}
    (hs : k.stage = call.during) : (k.received t call a).stage = call.after a := by
  cases call <;> cases a <;> first | rfl | exact hs

theorem Core.stage_of_released {t : TaskId} {call : LeaseCall} {a : Answer} {k : Core}
    (h : (k.received t call a).stage = .released) : k.stage = .released := by
  cases call <;> cases a <;> first | exact h | cases h

section LifeCycle

variable {request : LeaseCall → Request} {cs : List CallRecord} {call : LeaseCall}

/-- A call is sent. -/
theorem lifeCycle_sent (h : LifeCycle request call.allowed cs) (time : Span) :
    LifeCycle request call.during (cs ++ [⟨time, request call, none⟩]) := by
  cases call with
  | acquire =>
    intro rec hm
    rcases List.mem_append.1 hm with hm | hm
    · exact h rec hm
    · rw [List.mem_singleton.1 hm]
      exact ⟨rfl, by simp⟩
  | renew =>
    obtain ⟨as, grant, rs, rfl, ha, hg, hr⟩ := h
    refine ⟨as, grant, rs ++ [⟨time, request .renew, none⟩], by simp, ha, hg, fun rec hm => ?_⟩
    rcases List.mem_append.1 hm with hm | hm
    · exact hr rec hm
    · rw [List.mem_singleton.1 hm]
  | release => exact ⟨cs, _, rfl, h, rfl⟩

/-- The last call is answered. -/
theorem lifeCycle_answered (hr : Function.Injective request) {rec : CallRecord}
    (h : LifeCycle request call.during (cs ++ [rec])) (hc : rec.request = request call)
    (a : Answer) :
    LifeCycle request (call.after a) (cs ++ [{ rec with answer := some a }]) := by
  cases call with
  | acquire =>
    have hcs : Applications request cs := fun rec' hm => h rec' (List.mem_append_left _ hm)
    cases a with
    | ok u => exact ⟨cs, { rec with answer := some (.ok u) }, [], rfl, hcs, ⟨hc, rfl⟩, by simp⟩
    | error e =>
      intro rec' hm
      rcases List.mem_append.1 hm with hm | hm
      · exact hcs rec' hm
      · rw [List.mem_singleton.1 hm]
        exact ⟨hc, by simp⟩
  | renew =>
    obtain ⟨as, grant, rs, he, ha, hg, hrs⟩ := h
    -- the last call is a renewal, so it is not the one that was granted
    rcases List.eq_nil_or_concat rs with rfl | ⟨rs, last, rfl⟩
    · obtain ⟨-, hl⟩ := List.append_inj' he rfl
      cases hl
      cases hr (hc.symm.trans hg.1)
    · have he' : cs ++ [rec] = (as ++ grant :: rs) ++ [last] := by simpa using he
      obtain ⟨rfl, -⟩ := List.append_inj' he' rfl
      refine ⟨as, grant, rs ++ [{ rec with answer := some a }], by simp, ha, hg, fun rec' hm => ?_⟩
      rcases List.mem_append.1 hm with hm | hm
      · exact hrs rec' (by simp [hm])
      · rw [List.mem_singleton.1 hm]
        exact hc
  | release =>
    obtain ⟨tenure, release, he, ht, -⟩ := h
    obtain ⟨rfl, -⟩ := List.append_inj' he rfl
    exact ⟨cs, _, rfl, ht, hc⟩

theorem request_of_tenure (h : Tenure request cs) {rec : CallRecord} (hm : rec ∈ cs) :
    rec.request = request .acquire ∨ rec.request = request .renew := by
  obtain ⟨as, grant, rs, rfl, ha, hg, hrs⟩ := h
  rcases List.mem_append.1 hm with hm | hm
  · exact .inl (ha rec hm).1
  · rcases List.mem_cons.1 hm with rfl | hm
    · exact .inl hg.1
    · exact .inr (hrs rec hm)

theorem not_release_of_tenure (hr : Function.Injective request) (h : Tenure request cs) :
    request .release ∉ cs.map (·.request) := by
  intro hm
  obtain ⟨rec, hm, he⟩ := List.mem_map.1 hm
  rcases request_of_tenure h hm with ha | ha <;> cases hr (he.symm.trans ha)

/-- An instance has made a release call if it is released, and only one. -/
theorem lifeCycle_releases (hr : Function.Injective request) {s : Stage}
    (h : LifeCycle request s cs) :
    (cs.map (·.request)).count (request .release) = if s = .released then 1 else 0 := by
  cases s with
  | idle =>
    refine List.count_eq_zero_of_not_mem fun hm => ?_
    obtain ⟨rec, hm, he⟩ := List.mem_map.1 hm
    cases hr (he.symm.trans (h rec hm).1)
  | acquired => exact List.count_eq_zero_of_not_mem (not_release_of_tenure hr h)
  | released =>
    obtain ⟨tenure, release, rfl, ht, he⟩ := h
    rw [List.map_append, List.count_append,
      List.count_eq_zero_of_not_mem (not_release_of_tenure hr ht)]
    simp [he]

/-- An instance that is not idle was granted its lease, and only such a one. -/
theorem lifeCycle_granted {s : Stage} (h : LifeCycle request s cs) :
    s ≠ .idle ↔ ∃ rec ∈ cs, rec.request = request .acquire ∧ rec.answer = some (.ok ()) := by
  cases s with
  | idle =>
    refine ⟨fun hs => absurd rfl hs, ?_⟩
    rintro ⟨rec, hm, -, ha⟩
    exact absurd ha (h rec hm).2
  | acquired =>
    obtain ⟨as, grant, rs, rfl, -, hg, -⟩ := h
    exact ⟨fun _ => ⟨grant, by simp, hg⟩, fun _ => by decide⟩
  | released =>
    obtain ⟨_, release, rfl, ⟨as, grant, rs, rfl, -, hg, -⟩, -⟩ := h
    exact ⟨fun _ => ⟨grant, by simp, hg⟩, fun _ => by decide⟩

end LifeCycle

/-! ### Lists of records -/

section Filter

variable {α : Type} {p : α → Bool} {l : List α} {n : Nat} {a : α} {f : α → α}

theorem filter_eq_of_getElem? (hn : l[n]? = some a) :
    l.filter p = (l.take n).filter p ++ (a :: l.drop (n + 1)).filter p := by
  obtain ⟨hlt, rfl⟩ := List.getElem?_eq_some_iff.1 hn
  rw [List.getElem_cons_drop hlt, ← List.filter_append, List.take_append_drop]

theorem filter_modify_of_getElem? (hn : l[n]? = some a) :
    (l.modify n f).filter p = (l.take n).filter p ++ (f a :: l.drop (n + 1)).filter p := by
  obtain ⟨hlt, rfl⟩ := List.getElem?_eq_some_iff.1 hn
  rw [List.modify_eq_take_cons_drop hlt, List.filter_append]

/-- A change of an element that does not count. -/
theorem filter_modify_of_not (hn : l[n]? = some a) (ha : p a = false) (hf : p (f a) = false) :
    (l.modify n f).filter p = l.filter p := by
  rw [filter_modify_of_getElem? hn, filter_eq_of_getElem? hn,
    List.filter_cons_of_neg (by rw [hf]; decide), List.filter_cons_of_neg (by rw [ha]; decide)]

/-- A change of the last element that counts. -/
theorem filter_modify_last (hn : l[n]? = some a) (ha : p a = true) (hf : p (f a) = true)
    (hlast : ∀ m b, n < m → l[m]? = some b → p b = false) :
    ∃ init, l.filter p = init ++ [a] ∧ (l.modify n f).filter p = init ++ [f a] := by
  have hdrop : (l.drop (n + 1)).filter p = [] := by
    rw [List.filter_eq_nil_iff]
    intro b hb
    obtain ⟨i, hi⟩ := List.mem_iff_getElem?.1 hb
    rw [List.getElem?_drop] at hi
    rw [hlast _ b (by omega) hi]
    decide
  refine ⟨(l.take n).filter p, ?_, ?_⟩
  · rw [filter_eq_of_getElem? hn, List.filter_cons_of_pos ha, hdrop]
  · rw [filter_modify_of_getElem? hn, List.filter_cons_of_pos hf, hdrop]

end Filter

/-! ### The log -/

namespace Ledger

variable {t : TaskId} {g g' : Ledger} {c c' : Option Engagement} {l : LockId} {k : Core}
  {E : TaskId → Option Engagement}

/-- The calls of an instance, the earliest first. -/
def calls (g : Ledger) (id : LeaseId) : List CallRecord :=
  g.log.filter fun rec => rec.request.holder? == some id

/-- No other lock has the id of the lock. -/
def Sole (g : Ledger) (l : LockId) (id : LeaseId) : Prop :=
  ∀ (l' : LockId) (k' : Core), g.cores[l']? = some k' → k'.id = id → l' = l

/-- The request is a lease call of some lock, with the lock's own object, id and term. -/
def Owns (g : Ledger) (r : Request) : Prop :=
  ∃ (l : LockId) (k : Core) (call : LeaseCall), g.cores[l]? = some k ∧ r = k.request call

/-- The log has the calls of every instance in their order. -/
structure Chronicled (g : Ledger) (E : TaskId → Option Engagement) : Prop where
  answerable : g.Answerable E
  /-- Every lease call is that of some lock. -/
  owned : ∀ rec ∈ g.log, ∀ id, rec.request.holder? = some id → g.Owns rec.request
  /-- A call on its way is the last one of its instance. -/
  last : ∀ t l call r n co k, E t = some (.calling l call r n co) → g.cores[l]? = some k →
    g.Sole l k.id → ∀ m rec, n < m → g.log[m]? = some rec → rec.request.holder? ≠ some k.id
  cycle : ∀ l k, g.cores[l]? = some k → g.Sole l k.id → LifeCycle k.request k.stage (g.calls k.id)

/-! #### What a step does to locks and records -/

/-- A lock remains the same one. -/
structure Alike (k k' : Core) : Prop where
  id : k'.id = k.id
  request : k'.request = k.request

theorem alike_push (t : TaskId) (k : Core) : Alike k (k.push t) := ⟨rfl, rfl⟩

theorem alike_drop (t : TaskId) (k : Core) : Alike k (k.drop t) := ⟨rfl, rfl⟩

theorem alike_staged (s : Stage) (k : Core) : Alike k (k.staged s) := ⟨rfl, rfl⟩

theorem alike_settled (call : LeaseCall) (a : Answer) (k : Core) : Alike k (k.settled call a) := by
  cases call <;> cases a <;> exact ⟨rfl, rfl⟩

theorem alike_received (t : TaskId) (call : LeaseCall) (a : Answer) (k : Core) :
    Alike k (k.received t call a) :=
  have h := alike_settled call a k
  ⟨h.id, h.request⟩

/-- After a change of one lock every lock is still there. -/
theorem alike_set {f : Core → Core} (hf : ∀ k, Alike k (f k)) {l' : LockId}
    (hk : g.cores[l']? = some k) : ∃ k', (g.set l f).cores[l']? = some k' ∧ Alike k k' := by
  rw [getElem?_set, hk]
  split
  · exact ⟨f k, rfl, hf k⟩
  · exact ⟨k, rfl, rfl, rfl⟩

/-- No step takes a lock away. -/
theorem Step.alike (hs : g.Step t c g' c') (hk : g.cores[l]? = some k) :
    ∃ k', g'.cores[l]? = some k' ∧ Alike k k' := by
  cases hs with
  | stay | arrive | ask | provision | told | forget => exact ⟨k, hk, rfl, rfl⟩
  | found k' _ _ =>
    exact ⟨k, getElem?_concat_of_some hk, rfl, rfl⟩
  | enqueue l' errand k' _ => exact alike_set (alike_push t) hk
  | leave l' e _ => exact alike_set (alike_drop t) hk
  | send l' k' errand call co _ _ _ => exact alike_set (g := g) (alike_staged _) hk
  | receive l' call r n a co => exact alike_set (g := g.answered n a) (alike_received t call a) hk

/-- A lock that is in a stage after a change that does not lead there was in it before. -/
theorem stage_set {f : Core → Core} {s : Stage} {l₀ : LockId}
    (hf : ∀ k, (f k).stage = s → k.stage = s) (hk : (g.set l₀ f).cores[l]? = some k)
    (hs : k.stage = s) : ∃ k₀, g.cores[l]? = some k₀ ∧ k₀.stage = s := by
  rw [getElem?_set] at hk
  split at hk
  · obtain ⟨k₀, hk₀, rfl⟩ := Option.map_eq_some_iff.1 hk
    exact ⟨k₀, hk₀, hf k₀ hs⟩
  · exact ⟨k, hk, hs⟩

/-- A lock that is in a later stage than the first was in it before, or its call has just led
there: an acquisition that was granted, or a release that is sent for an acquired lock. -/
theorem Step.stage_cases (h : g.Step t c g' c') (hk : g'.cores[l]? = some k)
    (hs : k.stage ≠ .idle) :
    (∃ k₀, g.cores[l]? = some k₀ ∧ k₀.stage = k.stage) ∨
      (k.stage = .acquired ∧ ∃ r n co, c = some (.calling l .acquire r n co)) ∨
      (k.stage = .released ∧ (∃ k₀, g.cores[l]? = some k₀ ∧ k₀.stage = .acquired) ∧
        ∃ e, c' = some e ∧ e.Releases l) := by
  cases h with
  | stay | arrive | ask | provision | told | forget => exact .inl ⟨k, hk, rfl⟩
  | found k₀ hi _ =>
    rcases getElem?_concat_cases hk with hk | ⟨-, rfl⟩
    · exact .inl ⟨k, hk, rfl⟩
    · exact absurd hi hs
  | enqueue l₀ errand k₀ _ => exact .inl (stage_set (f := .push t) (fun _ => id) hk rfl)
  | leave l₀ e _ => exact .inl (stage_set (f := .drop t) (fun _ => id) hk rfl)
  | send l₀ k₀ errand call co hk₀ _ hs₀ =>
    have hk : (g.set l₀ (.staged call.during)).cores[l]? = some k := hk
    rw [getElem?_set] at hk
    split at hk
    · next hl =>
      subst hl
      rw [hk₀] at hk
      cases hk
      cases call with
      | acquire => exact absurd rfl hs
      | renew => exact .inl ⟨k₀, hk₀, hs₀⟩
      | release => exact .inr (.inr ⟨rfl, ⟨k₀, hk₀, hs₀⟩, _, rfl, _, _, _, rfl⟩)
    · exact .inl ⟨k, hk, rfl⟩
  | receive l₀ call r n a co =>
    have hk : (g.set l₀ (.received t call a)).cores[l]? = some k := hk
    rw [getElem?_set] at hk
    split at hk
    · next hl =>
      subst hl
      obtain ⟨k₀, hk₀, rfl⟩ := Option.map_eq_some_iff.1 hk
      cases call with
      | acquire =>
        cases a with
        | ok u => exact .inr (.inl ⟨rfl, _, _, _, rfl⟩)
        | error e => exact .inl ⟨k₀, hk₀, rfl⟩
      | renew => exact .inl ⟨k₀, hk₀, rfl⟩
      | release => exact .inl ⟨k₀, hk₀, rfl⟩
    · exact .inl ⟨k, hk, rfl⟩

theorem Sole.before {id : LeaseId} (h : g'.Sole l id) (hs : g.Step t c g' c') : g.Sole l id := by
  intro l' k hk hid
  obtain ⟨k', hk', ha⟩ := hs.alike hk
  exact h l' k' hk' (ha.id.trans hid)

theorem Sole.of_set {f : Core → Core} (hf : ∀ k, Alike k (f k)) {id : LeaseId} {l' : LockId}
    (h : (g.set l f).Sole l' id) : g.Sole l' id := by
  intro l₁ k hk hid
  obtain ⟨k', hk', ha⟩ := alike_set hf hk
  exact h l₁ k' hk' (ha.id.trans hid)

/-- A lock that was there before has its own id to itself. -/
theorem holder?_ne {id : LeaseId} (h : g.Sole l id) {l' : LockId} {k' : Core}
    (hk' : g.cores[l']? = some k') (hl : l' ≠ l) (call : LeaseCall) :
    (k'.request call).holder? ≠ some id := by
  rw [Core.holder?_request]
  exact fun hid => hl (h l' k' hk' (Option.some.inj hid))

theorem calls_record_of_ne {id : LeaseId} {r : Request} (hr : r.holder? ≠ some id) :
    (g.record r).calls id = g.calls id := by
  simp [calls, record, hr]

theorem calls_record (r : Request) {id : LeaseId} (hr : r.holder? = some id) :
    (g.record r).calls id = g.calls id ++ [⟨g.now, r, none⟩] := by
  simp [calls, record, hr]

theorem calls_answered_of_ne {id : LeaseId} {n : Nat} {a : Answer} {rec : CallRecord}
    (hn : g.log[n]? = some rec) (hr : rec.request.holder? ≠ some id) :
    (g.answered n a).calls id = g.calls id :=
  filter_modify_of_not hn (by simpa using hr) (by simpa using hr)

/-! #### Owners of calls -/

theorem getElem?_answered {n m : Nat} {a : Answer} {rec : CallRecord}
    (hr : (g.answered n a).log[m]? = some rec) :
    ∃ rec', g.log[m]? = some rec' ∧ rec'.request = rec.request := by
  have hr' : (g.log.modify n fun rec => { rec with answer := some a })[m]? = some rec := hr
  rw [List.getElem?_modify] at hr'
  obtain ⟨rec', hr, he⟩ := Option.map_eq_some_iff.1 hr'
  refine ⟨rec', hr, ?_⟩
  rw [← he]
  split <;> rfl

theorem getElem?_record {r : Request} {m : Nat} {rec : CallRecord}
    (hr : (g.record r).log[m]? = some rec) :
    g.log[m]? = some rec ∨ m = g.log.length ∧ rec.request = r := by
  rcases getElem?_concat_cases (l := g.log) hr with hr | ⟨hm, rfl⟩
  · exact .inl hr
  · exact .inr ⟨hm, rfl⟩

/-- Every record of the log was there before or is that of a call just sent. -/
theorem Step.log_cases (hs : g.Step t c g' c') {m : Nat} {rec : CallRecord}
    (hr : g'.log[m]? = some rec) :
    (∃ rec', g.log[m]? = some rec' ∧ rec'.request = rec.request) ∨
      rec.request.holder? = none ∨
      ∃ (l : LockId) (k : Core) (call : LeaseCall), g.cores[l]? = some k ∧
        k.queue.head? = some t ∧ rec.request = k.request call := by
  cases hs with
  | stay | arrive | provision | forget | found | enqueue | leave => exact .inl ⟨rec, hr, rfl⟩
  | send l k errand call co hk hq _ =>
    rcases getElem?_record hr with hr | ⟨-, hr⟩
    · exact .inl ⟨rec, hr, rfl⟩
    · exact .inr (.inr ⟨l, k, call, hk, hq, hr⟩)
  | ask r co hn =>
    rcases getElem?_record hr with hr | ⟨-, hr⟩
    · exact .inl ⟨rec, hr, rfl⟩
    · exact .inr (.inl (hr ▸ hn))
  | receive l call r n a co => exact .inl (getElem?_answered hr)
  | told r n a co => exact .inl (getElem?_answered hr)

theorem Owns.step {r : Request} (h : g.Owns r) (hs : g.Step t c g' c') : g'.Owns r := by
  obtain ⟨l, k, call, hk, rfl⟩ := h
  obtain ⟨k', hk', ha⟩ := hs.alike hk
  exact ⟨l, k', call, hk', by rw [ha.request]⟩

section Step

variable (h : g.Chronicled E) (hs : g.Step t (E t) g' c')
include h hs

theorem Chronicled.owned_step :
    ∀ rec ∈ g'.log, ∀ id, rec.request.holder? = some id → g'.Owns rec.request := by
  intro rec hm id hid
  obtain ⟨m, hr⟩ := List.mem_iff_getElem?.1 hm
  rcases hs.log_cases hr with ⟨rec', hr', he⟩ | hn | ⟨l, k, call, hk, -, hn⟩
  · rw [← he] at hid ⊢
    exact (h.owned rec' (List.mem_of_getElem? hr') id hid).step hs
  · rw [hn] at hid
    cases hid
  · exact Owns.step ⟨l, k, call, hk, hn⟩ hs

/-- A call of the instance that is later than the one on its way would be that of a task inside the
critical section, where there is only one. -/
theorem Chronicled.last_step {t' : TaskId} {call : LeaseCall} {r : Request} {n : Nat}
    {co : Course} {k : Core} (he : Function.update E t c' t' = some (.calling l call r n co))
    (hk : g'.cores[l]? = some k) (hsole : g'.Sole l k.id) {m : Nat} {rec : CallRecord}
    (hm : n < m) (hr : g'.log[m]? = some rec) : rec.request.holder? ≠ some k.id := by
  by_cases ht : t' = t
  · subst ht
    rw [Function.update_self] at he
    generalize hc : E t' = c at hs
    cases hs with
    | stay => exact h.last t' l call r n co k (hc.trans he) hk hsole m rec hm hr
    | arrive l call r n co co' =>
      cases he
      exact h.last t' _ _ _ _ _ k hc hk hsole m rec hm hr
    | send l k errand call co _ _ _ =>
      cases he
      rcases getElem?_record hr with hr | ⟨hm', -⟩
      · exact absurd (List.getElem?_eq_some_iff.1 hr).1 (Nat.not_lt_of_lt hm)
      · exact absurd hm' (Nat.ne_of_gt hm)
    | found | enqueue | leave | receive | ask | provision | told | forget => cases he
  · rw [Function.update_of_ne ht] at he
    obtain ⟨k₀, hk₀, hq₀, -⟩ := h.answerable.inside t' l call r n co he
    obtain ⟨k', hk', ha⟩ := hs.alike hk₀
    obtain rfl : k' = k := Option.some.inj (hk'.symm.trans hk)
    have hsole₀ : g.Sole l k₀.id := ha.id ▸ hsole.before hs
    rw [ha.id]
    rcases hs.log_cases hr with ⟨rec', hr', hq⟩ | hn | ⟨l', k₁, call', hk₁, hq₁, hn⟩
    · rw [← hq]
      exact h.last t' l call r n co k₀ he hk₀ hsole₀ m rec' hm hr'
    · rw [hn]
      exact fun h => by cases h
    · rw [hn]
      refine holder?_ne hsole₀ hk₁ (fun hl => ht ?_) call'
      subst hl
      rw [hk₀] at hk₁
      cases hk₁
      exact Option.some.inj (hq₀.symm.trans hq₁)

end Step

theorem Chronicled.cycle_found (h : g.Chronicled E) {k₀ : Core} (hi : k₀.stage = .idle)
    (hk : (g.cores ++ [k₀])[l]? = some k)
    (hsole : ({ g with cores := g.cores ++ [k₀] } : Ledger).Sole l k.id) :
    LifeCycle k.request k.stage (g.calls k.id) := by
  rcases getElem?_concat_cases hk with hk | ⟨hl, rfl⟩
  · exact h.cycle l k hk fun l' k' hk' hid => hsole l' k' (getElem?_concat_of_some hk') hid
  · have hnil : g.calls k₀.id = [] := by
      rw [calls, List.filter_eq_nil_iff]
      intro rec hm hid
      obtain ⟨l', k', call, hk', hr⟩ := h.owned rec hm k₀.id (by simpa using hid)
      rw [hr, Core.holder?_request] at hid
      have hl' := hsole l' k' (getElem?_concat_of_some hk') (by simpa using hid)
      exact absurd (List.getElem?_eq_some_iff.1 hk').1 (hl'.trans hl ▸ Nat.lt_irrefl _)
    rw [hi, hnil]
    intro rec hm
    cases hm

theorem Chronicled.cycle_set (h : g.Chronicled E) {l₀ : LockId} {f : Core → Core}
    (hf : ∀ k, Alike k (f k)) (hst : ∀ k, (f k).stage = k.stage)
    (hk : (g.set l₀ f).cores[l]? = some k) (hsole : (g.set l₀ f).Sole l k.id) :
    LifeCycle k.request k.stage (g.calls k.id) := by
  have hsole' : g.Sole l k.id := hsole.of_set hf
  rw [getElem?_set] at hk
  split at hk
  · obtain ⟨k₀, hk₀, rfl⟩ := Option.map_eq_some_iff.1 hk
    have ha := hf k₀
    rw [ha.id] at hsole' ⊢
    rw [ha.request, hst]
    exact h.cycle l k₀ hk₀ hsole'
  · exact h.cycle l k hk hsole'

theorem Chronicled.cycle_send (h : g.Chronicled E) {l₀ : LockId} {k₀ : Core} {call : LeaseCall}
    (hk₀ : g.cores[l₀]? = some k₀) (hs₀ : k₀.stage = call.allowed)
    (hk : (g.set l₀ (.staged call.during)).cores[l]? = some k)
    (hsole : (g.set l₀ (.staged call.during)).Sole l k.id) :
    LifeCycle k.request k.stage
      (((g.set l₀ (.staged call.during)).record (k₀.request call)).calls k.id) := by
  have hsole' : g.Sole l k.id := hsole.of_set (alike_staged _)
  rw [getElem?_set] at hk
  split at hk
  · next hl =>
    subst hl
    rw [hk₀] at hk
    obtain rfl : k₀.staged call.during = k := Option.some.inj hk
    have hid : (k₀.request call).holder? = some (k₀.staged call.during).id :=
      k₀.holder?_request call
    rw [calls_record _ hid]
    have hcyc := h.cycle l₀ k₀ hk₀ hsole'
    rw [hs₀] at hcyc
    exact lifeCycle_sent hcyc g.now
  · next hl =>
    rw [calls_record_of_ne (holder?_ne hsole' hk₀ hl call)]
    exact h.cycle l k hk hsole'

theorem Chronicled.cycle_receive (h : g.Chronicled E) {l₀ : LockId} {r : Request}
    {call : LeaseCall} {n : Nat} {co : Course} {a : Answer}
    (hc : E t = some (.calling l₀ call r n co))
    (hk : (g.set l₀ (.received t call a)).cores[l]? = some k)
    (hsole : (g.set l₀ (.received t call a)).Sole l k.id) :
    LifeCycle k.request k.stage ((g.answered n a).calls k.id) := by
  have hsole' : g.Sole l k.id := hsole.of_set (alike_received t call a)
  obtain ⟨k₀, hk₀, -, hs₀, rfl⟩ := h.answerable.inside t l₀ call r n co hc
  obtain ⟨rec, hrec, -, hreq⟩ := h.answerable.pending t _ n hc rfl
  have hreq : rec.request = k₀.request call := (Option.some.inj hreq).symm
  rw [getElem?_set] at hk
  split at hk
  · next hl =>
    subst hl
    rw [hk₀] at hk
    obtain rfl : k₀.received t call a = k := Option.some.inj hk
    have ha := alike_received t call a k₀
    rw [ha.id] at hsole' ⊢
    have hown : rec.request.holder? = some k₀.id := hreq ▸ Core.holder?_request k₀ call
    obtain ⟨init, hcs, hcs'⟩ := filter_modify_last
      (p := fun rec : CallRecord => rec.request.holder? == some k₀.id)
      (f := fun rec : CallRecord => { rec with answer := some a }) hrec (by simp [hown])
      (by simp [hown]) fun m rec' hm hr =>
        by simpa using h.last t l₀ call _ n co k₀ hc hk₀ hsole' m rec' hm hr
    have hcyc := h.cycle l₀ k₀ hk₀ hsole'
    rw [hs₀, calls, hcs] at hcyc
    rw [ha.request, Core.stage_received hs₀, calls]
    show LifeCycle _ _ ((g.log.modify n _).filter _)
    rw [hcs']
    exact lifeCycle_answered k₀.request_injective hcyc hreq a
  · next hl =>
    rw [calls_answered_of_ne hrec (hreq ▸ holder?_ne hsole' hk₀ hl call)]
    exact h.cycle l k hk hsole'

/-- Every step keeps the calls of every instance in their order. -/
theorem Chronicled.step (h : g.Chronicled E) (hs : g.Step t (E t) g' c') :
    g'.Chronicled (Function.update E t c') where
  answerable := h.answerable.step hs
  owned := h.owned_step hs
  last _ _ _ _ _ _ _ he hk hsole _ _ hm hr := h.last_step hs he hk hsole hm hr
  cycle l k hk hsole := by
    generalize hc : E t = c at hs
    cases hs with
    | stay | arrive | provision | forget => exact h.cycle l k hk hsole
    | found k₀ hi _ => exact h.cycle_found hi hk hsole
    | enqueue l₀ errand k₀ _ => exact h.cycle_set (alike_push t) (fun _ => rfl) hk hsole
    | leave l₀ e _ => exact h.cycle_set (alike_drop t) (fun _ => rfl) hk hsole
    | send l₀ k₀ errand call co hk₀ _ hs₀ => exact h.cycle_send hk₀ hs₀ hk hsole
    | receive l₀ call r n a co => exact h.cycle_receive hc hk hsole
    | ask r co hr =>
      rw [calls_record_of_ne (by rw [hr]; exact fun h => by cases h)]
      exact h.cycle l k hk hsole
    | told r n a co =>
      obtain ⟨rec, hrec, -, hreq⟩ := h.answerable.pending t _ n hc rfl
      have hn : rec.request.holder? = none :=
        (Option.some.inj hreq) ▸ h.answerable.outside t r n co hc
      rw [calls_answered_of_ne hrec (by rw [hn]; exact fun h => by cases h)]
      exact h.cycle l k hk hsole

/-! ### What is never taken back -/

/-- The requests so far, the earliest first. -/
def requests (g : Ledger) : List Request := g.log.map (·.request)

/-- No stage is left for an earlier one, and no request is forgotten. -/
structure Since (g g' : Ledger) : Prop where
  stages : ∀ (l : LockId) (k : Core), g.cores[l]? = some k → ∃ k', g'.cores[l]? = some k' ∧
    Alike k k' ∧ k.stage.rank ≤ k'.stage.rank
  requests : g.requests <+: g'.requests

theorem Since.refl (g : Ledger) : g.Since g :=
  ⟨fun _ k hk => ⟨k, hk, ⟨rfl, rfl⟩, Nat.le_refl _⟩, List.prefix_rfl⟩

theorem Since.trans {g'' : Ledger} (h : g.Since g') (h' : g'.Since g'') : g.Since g'' where
  stages l k hk := by
    obtain ⟨k', hk', ha, hr⟩ := h.stages l k hk
    obtain ⟨k'', hk'', ha', hr'⟩ := h'.stages l k' hk'
    exact ⟨k'', hk'', ⟨ha'.id.trans ha.id, ha'.request.trans ha.request⟩, Nat.le_trans hr hr'⟩
  requests := h.requests.trans h'.requests

theorem since_set {f : Core → Core} (hf : ∀ k, Alike k (f k))
    (hr : ∀ k, g.cores[l]? = some k → k.stage.rank ≤ (f k).stage.rank) : g.Since (g.set l f) where
  stages l' k hk := by
    rw [getElem?_set, hk]
    split
    · next hl => exact ⟨f k, rfl, hf k, hr k (hl ▸ hk)⟩
    · exact ⟨k, rfl, ⟨rfl, rfl⟩, Nat.le_refl _⟩
  requests := List.prefix_rfl

theorem since_record (r : Request) : g.Since (g.record r) where
  stages := (Since.refl g).stages
  requests := by
    rw [Ledger.requests, Ledger.requests, record, List.map_append]
    exact List.prefix_append _ _

theorem since_answered (n : Nat) (a : Answer) : g.Since (g.answered n a) where
  stages := (Since.refl g).stages
  requests := by
    have hr : (g.answered n a).requests = g.requests := by
      rw [Ledger.requests, Ledger.requests, answered,
        map_modify_of (fun rec : CallRecord => rec.request) _ id (by intro rec; rfl),
        List.modify_id]
    exact hr ▸ List.prefix_rfl

theorem since_found (k : Core) : g.Since { g with cores := g.cores ++ [k] } where
  stages _ k' hk' := ⟨k', getElem?_concat_of_some hk', ⟨rfl, rfl⟩, Nat.le_refl _⟩
  requests := List.prefix_rfl

theorem rank_during (call : LeaseCall) : call.allowed.rank ≤ call.during.rank := by
  cases call <;> decide

theorem rank_after (call : LeaseCall) (a : Answer) : call.during.rank ≤ (call.after a).rank := by
  cases call <;> cases a <;> first | exact Nat.le_refl _ | exact Nat.zero_le _

/-- No step takes anything back. -/
theorem Answerable.since_step (h : g.Answerable E) (hs : g.Step t (E t) g' c') : g.Since g' := by
  generalize hc : E t = c at hs
  cases hs with
  | stay | arrive | provision | forget => exact .refl g
  | found k _ _ => exact since_found k
  | enqueue l errand k _ => exact since_set (alike_push t) fun _ _ => Nat.le_refl _
  | leave l e _ => exact since_set (alike_drop t) fun _ _ => Nat.le_refl _
  | send l k errand call co hk _ hs =>
    refine (since_set (alike_staged call.during) fun k' hk' => ?_).trans (since_record _)
    rw [hk] at hk'
    cases hk'
    rw [hs]
    exact rank_during call
  | receive l call r n a co =>
    refine (since_answered n a).trans (since_set (alike_received t call a) fun k' hk' => ?_)
    obtain ⟨k, hk, -, hst, -⟩ := h.inside t l call r n co hc
    have hkk : g.cores[l]? = some k' := hk'
    rw [hk] at hkk
    cases hkk
    rw [Core.stage_received hst, hst]
    exact rank_after call a
  | ask r co _ => exact since_record r
  | told r n a co => exact since_answered n a

/-- The release call of every released instance is in the log. -/
def Accounted (g : Ledger) : Prop :=
  ∀ (l : LockId) (k : Core), g.cores[l]? = some k → k.stage = .released →
    k.request .release ∈ g.requests

theorem Accounted.set (h : g.Accounted) {f : Core → Core} (hf : ∀ k, Alike k (f k))
    (hs : ∀ k, g.cores[l]? = some k → (f k).stage = .released → k.stage = .released) :
    (g.set l f).Accounted := by
  intro l' k hk hst
  rw [getElem?_set] at hk
  split at hk
  · next hl =>
    obtain ⟨k₀, hk₀, rfl⟩ := Option.map_eq_some_iff.1 hk
    rw [(hf k₀).request]
    exact h l' k₀ hk₀ (hs k₀ (hl ▸ hk₀) hst)
  · exact h l' k hk hst

/-- Every step keeps account of the releases. -/
theorem Accounted.step (h : g.Accounted) (hs : g.Step t c g' c') : g'.Accounted := by
  cases hs with
  | stay | arrive | provision | forget => exact h
  | found k₀ hi _ =>
    intro l k hk hst
    rcases getElem?_concat_cases hk with hk | ⟨-, rfl⟩
    · exact h l k hk hst
    · rw [hi] at hst
      cases hst
  | enqueue l errand k _ => exact h.set (alike_push t) fun _ _ => id
  | leave l e _ => exact h.set (alike_drop t) fun _ _ => id
  | send l₀ k₀ errand call co hk₀ _ hs₀ =>
    intro l k hk hst
    have hk' : (g.set l₀ (.staged call.during)).cores[l]? = some k := hk
    have hp := (since_record (g := g) (k₀.request call)).requests
    rw [getElem?_set] at hk'
    split at hk'
    · next hl =>
      subst hl
      rw [hk₀] at hk'
      cases hk'
      have hc : call = .release := by cases call <;> first | rfl | cases hst
      subst hc
      exact List.mem_map.2 ⟨_, List.mem_append_right _ (List.mem_singleton.2 rfl), rfl⟩
    · exact hp.subset (h l k hk' hst)
  | receive l call r n a co =>
    refine Accounted.set (g := g.answered n a) (fun l k hk hst => ?_) (alike_received t call a)
      fun k _ => Core.stage_of_released
    exact (since_answered n a).requests.subset (h l k hk hst)
  | ask r co _ => exact fun l k hk hst => (since_record r).requests.subset (h l k hk hst)
  | told r n a co => exact fun l k hk hst => (since_answered n a).requests.subset (h l k hk hst)

end Ledger

/-! ### Runs -/

namespace World

variable {A : Step → Prop} {t : TaskId} {w w' : World} {l : LockId} {k : Lock}

/-- In every reachable world the log has the calls of every instance in their order. -/
theorem chronicled_reachable (h : Reachable A w) : w.ledger.Chronicled w.engagements := by
  refine ledger_run (fun t g E g' c' hI hs => hI.step hs) ?_ (tame_start A) ?_ h
  · intro g n E _ hI
    have ha := hI.answerable
    exact ⟨⟨ha.inside, ha.pending, ha.apart, ha.outside⟩, hI.owned, hI.last, hI.cycle⟩
  · refine ⟨⟨?_, ?_, ?_, ?_⟩, ?_, ?_, ?_⟩ <;> (intros; contradiction)

/-- No run takes anything back. -/
theorem since_run (h : Reachable A w) (hr : Run A w w') : w.ledger.Since w'.ledger := by
  have hI := ledger_run (I := fun g E => g.Answerable E ∧ w.ledger.Since g)
    (fun t g E g' c' hI hs => ⟨hI.1.step hs, hI.2.trans (hI.1.since_step hs)⟩)
    (fun g n E _ hI => ⟨⟨hI.1.inside, hI.1.pending, hI.1.apart, hI.1.outside⟩,
      hI.2.trans ⟨(Ledger.Since.refl g).stages, List.prefix_rfl⟩⟩)
    (Reachable.tame h) ⟨answerable_reachable h, .refl _⟩ hr
  exact hI.2

end World

end Leasehold
