import Leasehold.Proofs.Lock.LifeCycle

/-!
# How old a lease can be

The service counts the term of a lease from a call that it grants.  The earliest instant at which
that can have been is the one at which the call was sent, and this is what the log knows.

* `Ledger.Sent`, `Ledger.GrantedSince`: calls and grants that are not older than an instant.
* `Ledger.Fresh`: a lock that is acquired, or is about to be, was granted its lease by a call that
  was not sent before a given instant.
* `Fresh.step`: no step makes a lease older.
-/

namespace Leasehold

/-- The call gave a lock its lease, or renewed it. -/
def Core.Grants (k : Core) (rec : CallRecord) : Prop :=
  rec.answer = some (.ok ()) ∧ (rec.request = k.request .acquire ∨ rec.request = k.request .renew)

namespace Ledger

variable {t : TaskId} {g g' : Ledger} {c c' : Option Engagement} {l : LockId} {k k' : Core}
  {E : TaskId → Option Engagement} {b : Span}

theorem Alike.grants (h : Alike k k') {rec : CallRecord} : k'.Grants rec ↔ k.Grants rec := by
  unfold Core.Grants
  rw [h.request]

/-! ### Records that stay -/

/-- The record of a call that was not sent before an instant. -/
def Sent (g : Ledger) (n : Nat) (r : Request) (b : Span) : Prop :=
  ∃ rec, g.log[n]? = some rec ∧ rec.request = r ∧ b ≤ rec.time

/-- No step changes what was sent, and when. -/
theorem Sent.step {n : Nat} {r : Request} (h : g.Sent n r b) (hs : g.Step t c g' c') :
    g'.Sent n r b := by
  obtain ⟨rec, hr, hq, hb⟩ := h
  have appended : ∀ a : CallRecord, ∃ rec', (g.log ++ [a])[n]? = some rec' ∧
      rec'.request = r ∧ b ≤ rec'.time :=
    fun a => ⟨rec, getElem?_concat_of_some hr, hq, hb⟩
  have answered : ∀ m a, (g.answered m a).Sent n r b := by
    intro m a
    refine ⟨if m = n then { rec with answer := some a } else rec, ?_, ?_, ?_⟩
    · show (g.log.modify m _)[n]? = _
      rw [List.getElem?_modify, hr]
      rfl
    · split <;> exact hq
    · split <;> exact hb
  cases hs with
  | stay | arrive | provision | forget | found | enqueue | leave => exact ⟨rec, hr, hq, hb⟩
  | send l k errand call co _ _ _ => exact appended _
  | ask r co _ => exact appended _
  | receive l call r m a co => exact answered m a
  | told r m a co => exact answered m a

theorem Sent.later {n : Nat} {r : Request} (h : g.Sent n r b) (now : Span) :
    ({ g with now := now } : Ledger).Sent n r b := h

/-- The lease was given or renewed by a call that was not sent before an instant. -/
def GrantedSince (g : Ledger) (k : Core) (b : Span) : Prop :=
  ∃ rec ∈ g.log, k.Grants rec ∧ b ≤ rec.time

theorem GrantedSince.alike (h : g.GrantedSince k b) (ha : Alike k k') : g.GrantedSince k' b := by
  obtain ⟨rec, hm, hg, hb⟩ := h
  exact ⟨rec, hm, ha.grants.2 hg, hb⟩

/-- No step takes a grant back. -/
theorem GrantedSince.step (h : g.GrantedSince k b) (ha : g.Answerable E)
    (hs : g.Step t (E t) g' c') : g'.GrantedSince k b := by
  obtain ⟨rec, hm, hg, hb⟩ := h
  obtain ⟨n, hn⟩ := List.mem_iff_getElem?.1 hm
  -- a record that has its answer is not that of a call on its way
  have hne : ∀ e, E t = some e → e.record? ≠ some n := fun e he hen => by
    obtain ⟨rec', hr', hnone, -⟩ := ha.pending t e n he hen
    rw [hn] at hr'
    cases hr'
    rw [hg.1] at hnone
    cases hnone
  exact ⟨rec, List.mem_of_getElem? (hs.log_kept hne hn), hg, hb⟩

/-! ### The age of a lease -/

/-- The lease of a lock, if it has one or gets one from a call on its way, was given or renewed by a
call that was not sent before an instant. -/
structure Fresh (g : Ledger) (E : TaskId → Option Engagement) (l : LockId) (b : Span) : Prop where
  past : b ≤ g.now
  granted : ∀ k, g.cores[l]? = some k → k.stage = .acquired → g.GrantedSince k b
  coming : ∀ t r n co, E t = some (.calling l .acquire r n co) → g.Sent n r b

/-- Nobody but the task is inside the critical section with a call. -/
def Alone (E : TaskId → Option Engagement) (t : TaskId) (l : LockId) : Prop :=
  ∀ t' call r n co, E t' = some (.calling l call r n co) → t' = t

/-- Whoever is first at the critical section is alone with it. -/
theorem Answerable.alone (h : g.Answerable E) (hk : g.cores[l]? = some k)
    (hq : ∀ t', k.queue.head? = some t' → t' = t) : Alone E t l := by
  intro t' call r n co he
  obtain ⟨k', hk', hq', -⟩ := h.inside t' l call r n co he
  rw [hk] at hk'
  cases hk'
  exact hq t' hq'

/-- A lock that was granted its lease is as fresh as the grant. -/
theorem Alone.fresh (h : Alone E t l) (hb : b ≤ g.now)
    (hg : ∀ k, g.cores[l]? = some k → k.stage = .acquired → g.GrantedSince k b)
    (hc : ∀ r n co, c ≠ some (.calling l .acquire r n co)) :
    g.Fresh (Function.update E t c) l b where
  past := hb
  granted := hg
  coming t' r n co he := by
    by_cases ht : t' = t
    · subst ht
      rw [Function.update_self] at he
      exact absurd he (hc r n co)
    · rw [Function.update_of_ne ht] at he
      exact absurd (h t' _ r n co he) ht

theorem Fresh.later (h : g.Fresh E l b) {n : Span} (hn : g.now ≤ n) :
    ({ g with now := n } : Ledger).Fresh E l b :=
  ⟨Nat.le_trans h.past hn, h.granted, h.coming⟩

theorem Step.now (hs : g.Step t c g' c') : g'.now = g.now := by cases hs <;> rfl

/-- No call is recorded with a later instant. -/
theorem Step.past (hs : g.Step t c g' c')
    (h : ∀ rec ∈ g.log, rec.time ≤ g.now) : ∀ rec ∈ g'.log, rec.time ≤ g'.now := by
  have recorded : ∀ r, ∀ rec ∈ (g.record r).log, rec.time ≤ g.now := fun r rec hm => by
    rcases List.mem_append.1 hm with hm | hm
    · exact h rec hm
    · rw [List.mem_singleton.1 hm]
      exact Nat.le_refl _
  have answered : ∀ n a, ∀ rec ∈ (g.answered n a).log, rec.time ≤ g.now := fun n a rec hm => by
    obtain ⟨m, hm⟩ := List.mem_iff_getElem?.1 hm
    have hm' : (g.log.modify n fun rec => { rec with answer := some a })[m]? = some rec := hm
    rw [List.getElem?_modify] at hm'
    obtain ⟨rec', hm', he⟩ := Option.map_eq_some_iff.1 hm'
    have := h rec' (List.mem_of_getElem? hm')
    rw [← he]
    split <;> exact this
  cases hs with
  | stay | arrive | provision | forget | found | enqueue | leave => exact h
  | send l k errand call co _ _ _ => exact recorded _
  | ask r co _ => exact recorded _
  | receive l call r n a co => exact answered n a
  | told r n a co => exact answered n a

theorem stage_found {k₀ : Core} (hi : k₀.stage = .idle) (hk : (g.cores ++ [k₀])[l]? = some k)
    (hs : k.stage = .acquired) : g.cores[l]? = some k := by
  rcases getElem?_concat_cases hk with hk | ⟨-, rfl⟩
  · exact hk
  · rw [hi] at hs
    cases hs

/-- A lock that was acquired before a change and was granted its lease still has the grant. -/
theorem Fresh.granted_set (h : g.Fresh E l b) (ha : g.Answerable E) (hs : g.Step t (E t) g' c')
    {l' : LockId} {f : Core → Core} (hf : ∀ k, Alike k (f k))
    (hst : l' = l → ∀ k, g.cores[l]? = some k → (f k).stage = .acquired → k.stage = .acquired)
    (hk : (g.set l' f).cores[l]? = some k) (hacq : k.stage = .acquired) :
    g'.GrantedSince k b := by
  rw [getElem?_set] at hk
  split at hk
  · next hl =>
    obtain ⟨k₀, hk₀, rfl⟩ := Option.map_eq_some_iff.1 hk
    exact ((h.granted k₀ hk₀ (hst hl k₀ hk₀ hacq)).alike (hf k₀)).step ha hs
  · exact (h.granted k hk hacq).step ha hs

theorem stage_received_acquired {call : LeaseCall} {a : Answer} (hs : k.stage = call.during)
    (h : (k.received t call a).stage = .acquired) :
    call = .acquire ∧ a = .ok () ∨ k.stage = .acquired := by
  rw [Core.stage_received hs] at h
  cases call with
  | acquire =>
    cases a with
    | ok u => exact .inl ⟨rfl, rfl⟩
    | error e => cases h
  | renew => exact .inr hs
  | release => cases a <;> cases h

/-- After a step an acquired lock has a grant that is not older than before. -/
theorem Fresh.granted_step (h : g.Fresh E l b) (ha : g.Answerable E) (hs : g.Step t (E t) g' c')
    (hk : g'.cores[l]? = some k) (hacq : k.stage = .acquired) : g'.GrantedSince k b := by
  have hs' := hs
  generalize hc : E t = c at hs'
  cases hs' with
  | stay | arrive | provision | forget => exact h.granted k hk hacq
  | found k₀ hi _ => exact h.granted k (stage_found hi hk hacq) hacq
  | enqueue l' errand k' _ => exact h.granted_set ha hs (alike_push t) (fun _ _ _ => id) hk hacq
  | leave l' e _ => exact h.granted_set ha hs (alike_drop t) (fun _ _ _ => id) hk hacq
  | ask r co _ => exact (h.granted k hk hacq).step ha hs
  | told r n a co => exact (h.granted k hk hacq).step ha hs
  | send l' k₀ errand call co hk₀ _ hs₀ =>
    refine h.granted_set ha hs (alike_staged call.during) (fun hl k' hk' hst => ?_) hk hacq
    rw [← hl, hk₀] at hk'
    cases hk'
    rw [hs₀]
    cases call <;> first | rfl | cases hst
  | receive l' call r n a co =>
    obtain ⟨k₀, hk₀, -, hs₀, rfl⟩ := ha.inside t l' call r n co hc
    by_cases hg : l' = l ∧ call = .acquire ∧ a = .ok ()
    · -- the lease is granted by this very call
      obtain ⟨rfl, rfl, rfl⟩ := hg
      have hkr : (g.set l' (.received t .acquire (.ok ()))).cores[l']? = some k := hk
      rw [getElem?_set, if_pos rfl, hk₀] at hkr
      cases hkr
      obtain ⟨rec, hrec, hreq, hb⟩ := h.coming t _ n co hc
      refine ⟨{ rec with answer := some (.ok ()) }, ?_, ⟨rfl, .inl ?_⟩, hb⟩
      · refine List.mem_of_getElem? (i := n) ?_
        show (g.log.modify n _)[n]? = _
        rw [List.getElem?_modify, hrec]
        simp
      · exact hreq
    · refine h.granted_set ha hs (alike_received t call a) (fun hl k' hk' hst => ?_) hk hacq
      rw [← hl, hk₀] at hk'
      cases hk'
      rcases stage_received_acquired hs₀ hst with ⟨hcall, ha⟩ | hst
      · exact absurd ⟨hl, hcall, ha⟩ hg
      · exact hst

/-- No step makes a lease older. -/
theorem Fresh.step (h : g.Fresh E l b) (ha : g.Answerable E) (hs : g.Step t (E t) g' c') :
    g'.Fresh (Function.update E t c') l b where
  past := by
    rw [hs.now]
    exact h.past
  granted _ hk hacq := h.granted_step ha hs hk hacq
  coming t' r n co he := by
    by_cases ht : t' = t
    · subst ht
      rw [Function.update_self] at he
      generalize hc : E t' = c at hs
      cases hs with
      | stay => exact h.coming t' r n co (hc.trans he)
      | arrive l' call r' n' co' co'' =>
        cases he
        exact h.coming t' _ _ _ hc
      | send l' k errand call co _ _ _ =>
        cases he
        exact ⟨_, List.getElem?_concat_length, rfl, h.past⟩
      | found | enqueue | leave | receive | ask | provision | told | forget => cases he
    · rw [Function.update_of_ne ht] at he
      exact (h.coming t' r n co he).step hs

end Ledger

/-- In every reachable world no call is recorded with a later instant. -/
theorem World.past_reachable {A : Step → Prop} {w : World} (h : Reachable A w) :
    ∀ rec ∈ w.log, rec.time ≤ w.now :=
  ledger_run (I := fun g _ => ∀ rec ∈ g.log, rec.time ≤ g.now)
    (fun _ _ _ _ _ hI hs => hs.past hI) (fun _ _ _ hn hI rec hm => Nat.le_trans (hI rec hm) hn)
    (tame_start A) (fun rec hm => by cases hm) h

end Leasehold
