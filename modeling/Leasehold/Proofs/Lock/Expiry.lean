import Leasehold.Proofs.Lease.History
import Leasehold.Proofs.Lock.Exclusion
import Leasehold.Proofs.Lock.WaitingRun

/-!
# No lease outlives its instance by more than a term

Whatever becomes of the calls of an instance, once it is cancelled or released nothing gives it a
lease any more, nor extends the one it has.

* `Store.Writes`, `Move.writes`: who writes a lease into the record of an object.
* `World.Attributed`, `attributed_reachable`: every lease is a lock's, of the length of its term, or
  that of somebody outside.
* `World.Waning`: what is left of the lease of a lock that is cancelled or released.
* `World.lease_over`: a term after that the lock does not hold its object.
-/

namespace Leasehold

namespace Store

variable {s : Store} {now : Span} {o : ObjectPath} {r : Request} {lease : Lease}

/-- The call writes the lease into the record of the object: it takes the lease, or it extends the
one that the same holder has. -/
structure Writes (s : Store) (now : Span) (r : Request) (o : ObjectPath) (lease : Lease) :
    Prop where
  dated : lease.expires = now + lease.length
  taken : (∃ secs, r = .acquire o lease.holder secs ∧ lease.length = .ofSeconds secs) ∨
    r = .renew o lease.holder ∧ ∃ lease₀, s.slot? o = some (some lease₀) ∧
      lease₀.holder = lease.holder ∧ lease₀.length = lease.length

theorem Writes.holder? (h : s.Writes now r o lease) : r.holder? = some lease.holder := by
  rcases h.taken with ⟨secs, rfl, -⟩ | ⟨rfl, -⟩ <;> rfl

theorem Writes.expires_le (h : s.Writes now r o lease) : lease.expires ≤ now + lease.length := by
  rw [h.dated]
  exact Nat.le_refl _

/-- A lease that is recorded after a call was so before, or the call has written it. -/
theorem writes_of_serve (h : (s.serve now r).1.slot? o = some (some lease)) :
    s.slot? o = some (some lease) ∨ s.Writes now r o lease := by
  have he := effect_serve s now o r
  rw [h] at he
  generalize hb : s.slot? o = before at he
  generalize (s.serve now r).2 = a at he
  cases he with
  | taken id secs hr hfree => exact .inr ⟨rfl, .inl ⟨secs, hr, rfl⟩⟩
  | extended l hr hl => exact .inr ⟨rfl, .inr ⟨hr, l, hb.trans hl, rfl, rfl⟩⟩
  | refused e => exact .inl rfl
  | apart a hr => exact .inl rfl

/-- A revocation writes no lease. -/
theorem slot?_of_revoke {o' : ObjectPath} (h : (s.revoke o').slot? o = some (some lease)) :
    s.slot? o = some (some lease) := by
  rw [revoke, slot?_setLease] at h
  split at h
  · cases hs : s.slot? o with
    | none => rw [hs] at h; cases h
    | some l => rw [hs] at h; cases h
  · exact h

end Store

/-- The lease is one of the lock's: it is on its object, has the length of its term, and was last
taken or extended at an instant that has come. -/
structure Lock.Took (k : Lock) (now : Span) (o : ObjectPath) (lease : Lease) : Prop where
  holder : k.id = lease.holder
  backing : k.name.backing = o
  length : lease.length = .ofSeconds k.term.wholeSeconds
  expires : lease.expires ≤ now + lease.length

theorem Lock.Took.mono {k : Lock} {now now' : Span} {o : ObjectPath} {lease : Lease}
    (h : k.Took now o lease) (hn : now ≤ now') : k.Took now' o lease :=
  ⟨h.holder, h.backing, h.length, Nat.le_trans h.expires (Nat.add_le_add_right hn _)⟩

/-- A renewal of the lease leaves it the lock's. -/
theorem Lock.Took.extend {s : Store} {k : Lock} {now : Span} {r : Request} {o : ObjectPath}
    {lease lease₀ : Lease} (h : k.Took now o lease₀) (hw : s.Writes now r o lease)
    (hh : lease₀.holder = lease.holder) (hl : lease₀.length = lease.length) : k.Took now o lease :=
  ⟨h.holder.trans hh, h.backing, hl.symm.trans h.length, hw.expires_le⟩

theorem Lock.Took.evolves {k k' : Lock} {now : Span} {o : ObjectPath} {lease : Lease}
    (h : k.Took now o lease) (he : World.Evolves k k') : k'.Took now o lease :=
  ⟨he.id.trans h.holder, by rw [he.name]; exact h.backing, by rw [he.term]; exact h.length,
    h.expires⟩

namespace World

variable {A : Step → Prop} {D : Deed → Prop} {t : TaskId} {w w' w₁ : World}
  {c c' : Option Engagement} {l : LockId} {k : Lock} {lease : Lease} {o : ObjectPath}
  {E : TaskId → Option Engagement} {b : Span}

/-! ### Who writes leases -/

theorem writes_of_settleCall {r : Request} {p : Plan}
    (h : (w.settleCall r p).1.store.slot? o = some (some lease)) :
    w.store.slot? o = some (some lease) ∨ w.store.Writes w.now r o lease := by
  unfold settleCall at h
  split at h
  · exact .inl h
  · exact Store.writes_of_serve h

/-- The task makes the request: from outside, or by a call that arrives. -/
inductive Asks (A : Step → Prop) : Option Engagement → Request → Prop
  | outside {c : Option Engagement} (r : Request) : A (.foreign r) → Asks A c r
  | lock (l : LockId) (call : LeaseCall) (r : Request) (n : Nat) (p : Plan) :
      Asks A (some (.calling l call r n (.outbound p))) r
  | creation (r : Request) (n : Nat) (p : Plan) :
      Asks A (some (.provisioning r n (.outbound p))) r

/-- A lease that is recorded after a move was so before, or the task has asked for it. -/
theorem Move.writes (h : Move A D t w c w' c') (hs : w'.store.slot? o = some (some lease)) :
    w.store.slot? o = some (some lease) ∨ ∃ r, Asks A c r ∧ w.store.Writes w.now r o lease := by
  have same : ∀ {w₁ : World}, w₁.store = w.store → w₁.store.slot? o = some (some lease) →
      w.store.slot? o = some (some lease) := fun he hs => by rwa [he] at hs
  cases h with
  | quiet h => exact .inl (same h.store hs)
  | own | parent | plan | spawn | enqueue | told | forget | inject => exact .inl hs
  | cancel l' => exact .inl (same (quiet_cancelScope w l').store hs)
  | lose l' reason _ _ _ => exact .inl (same (quiet_raiseLoss w l' reason).store hs)
  | foreign r hr => exact (Store.writes_of_serve hs).imp_right fun hw => ⟨r, .outside r hr, hw⟩
  | revoke o' _ => exact .inl (Store.slot?_of_revoke hs)
  | build cr _ => exact .inl (same (founding_built w cr).store hs)
  | leave l' e _ _ => exact .inl (same (quiet_leave w t l').store hs)
  | abandon l' e _ _ => exact .inl (same (quiet_leave w t l').store hs)
  | send l' k' errand call _ _ _ _ _ =>
    exact .inl (same (store_sent (w := w.setStage l' call.during) _) hs)
  | arrive l' call r n p =>
    exact (writes_of_settleCall hs).imp_right fun hw => ⟨r, .lock l' call r n p, hw⟩
  | receive l' call r n a =>
    have he := (quiet_leave ((w.answered n a).concluded l' call a) t l').store
    exact .inl (same (he.trans (store_concluded call a)) hs)
  | ask r _ => exact .inl (same (store_sent r) hs)
  | provision r n p =>
    exact (writes_of_settleCall hs).imp_right fun hw => ⟨r, .creation r n p, hw⟩

/-- Whoever asks for a lease is somebody outside, or a lock that makes its own call. -/
theorem Asks.cases {r : Request} (h : Asks A (E t) r) (hA : w.ledger.Answerable E)
    (hr : r.holder? = some lease.holder) : (∃ r, A (.foreign r) ∧ r.holder? = some lease.holder) ∨
      ∃ l k call n co, E t = some (.calling l call r n co) ∧ w.locks[l]? = some k ∧
        k.id = lease.holder ∧ k.request call = r := by
  generalize hc : E t = c at h
  cases h with
  | outside r hf => exact .inl ⟨r, hf, hr⟩
  | lock l call r n p =>
    obtain ⟨c, hcore, -, -, hreq⟩ := hA.inside t l call r n _ hc
    obtain ⟨k, hk, rfl⟩ := exists_lock_of_core hcore
    rw [Lock.request_core] at hreq
    subst hreq
    rw [Lock.holder?_request] at hr
    exact .inr ⟨l, k, call, n, _, rfl, hk, Option.some.inj hr, rfl⟩
  | creation r n p =>
    rw [hA.outside t r n _ hc] at hr
    cases hr

/-- What a lock's own call writes is the lock's lease, or it extends the lease that is there. -/
theorem took_or_extends {call : LeaseCall} (h : w.store.Writes w.now (k.request call) o lease)
    (hid : k.id = lease.holder) : k.Took w.now o lease ∨
      call = .renew ∧ ∃ lease₀, w.store.slot? o = some (some lease₀) ∧
        lease₀.holder = lease.holder ∧ lease₀.length = lease.length := by
  rcases h.taken with ⟨secs, hr, hlen⟩ | ⟨hr, hold⟩
  · cases call with
    | acquire =>
      simp only [Lock.request, Request.acquire.injEq] at hr
      exact .inl ⟨hid, hr.1, by rw [hlen, hr.2.2], h.expires_le⟩
    | renew | release => cases hr
  · cases call with
    | renew => exact .inr ⟨rfl, hold⟩
    | acquire | release => cases hr

/-! ### Whose the leases are -/

/-- The lease is a lock's, or the holder is one of those outside. -/
def Owned (A : Step → Prop) (w : World) (o : ObjectPath) (lease : Lease) : Prop :=
  (∃ r, A (.foreign r) ∧ r.holder? = some lease.holder) ∨
    ∃ (l : LockId) (k : Lock), w.locks[l]? = some k ∧ k.Took w.now o lease

theorem Owned.outlives (h : w.Owned A o lease) (ho : w.Outlives w') (hn : w.now ≤ w'.now) :
    w'.Owned A o lease := by
  refine h.imp_right fun ⟨l, k, hk, ht⟩ => ?_
  obtain ⟨k', hk', he⟩ := ho l k hk
  exact ⟨l, k', hk', (ht.mono hn).evolves he⟩

/-- All leases are owned. -/
structure Attributed (A : Step → Prop) (w : World) (E : TaskId → Option Engagement) : Prop where
  answerable : w.ledger.Answerable E
  owned : ∀ o lease, w.store.slot? o = some (some lease) → w.Owned A o lease

theorem Attributed.move (h : Attributed A w E) (hm : Move A D t w (E t) w' c') :
    Attributed A w' (Function.update E t c') where
  answerable := h.answerable.step hm.ledger
  owned o lease hs := by
    have hn : w.now ≤ w'.now := Nat.le_of_eq (congrArg Span.nanos hm.now_eq.symm)
    refine Owned.outlives (w := w) ?_ hm.outlives hn
    rcases hm.writes hs with hs | ⟨r, ha, hw⟩
    · exact h.owned o lease hs
    rcases ha.cases h.answerable hw.holder? with hf | ⟨l, k, call, n, co, -, hk, hid, rfl⟩
    · exact .inl hf
    rcases took_or_extends hw hid with ht | ⟨-, lease₀, hs₀, hh, hl⟩
    · exact .inr ⟨l, k, hk, ht⟩
    · -- the one that is extended may be that of another lock with the same id
      rcases h.owned o lease₀ hs₀ with hf | ⟨l₁, k₁, hk₁, ht₁⟩
      · rw [hh] at hf
        exact .inl hf
      · exact .inr ⟨l₁, k₁, hk₁, ht₁.extend hw hh hl⟩

theorem kept_attributed : Kept A (fun _ => True) (Attributed A) where
  books w w' E hu h := by
    refine ⟨by rw [ledger_congr hu.clock hu.locks hu.log]; exact h.answerable, fun o lease hs => ?_⟩
    rw [hu.store] at hs
    exact (h.owned o lease hs).outlives (outlives_of_locks hu.locks)
      (by rw [now, now, hu.clock]; exact Nat.le_refl _)
  later w n E hn h := by
    refine ⟨⟨h.answerable.inside, h.answerable.pending, h.answerable.apart, h.answerable.outside⟩,
      fun o lease hs => (h.owned o lease hs).outlives (outlives_of_locks rfl) ?_⟩
    exact Nat.mul_le_mul_right _ hn
  move D w w' E t c' _ h hm := h.move hm

/-- In every reachable world each lease is a lock's, of the length of its term, or that of somebody
outside. -/
theorem attributed_reachable (h : Reachable A w) : Attributed A w w.engagements :=
  kept_attributed.run (tame_start A)
    ⟨answerable_reachable (A := A) .refl, fun o lease hs => by cases hs⟩ h

/-! ### What is left of a lease -/

/-- The lock is cancelled or released; a call of it other than a release has been on its way only
until `b`, and what it has written lasts for a term from then on. -/
structure Waning (A : Step → Prop) (l : LockId) (b : Span) (w : World)
    (E : TaskId → Option Engagement) : Prop where
  answerable : w.ledger.Answerable E
  done : w.Over l
  spent : w.now ≤ b ∨ ∀ t call r n co, E t = some (.calling l call r n co) → call = .release
  bounded : ∀ k o lease, w.locks[l]? = some k → w.Sole l k → Apart A k.id →
    w.store.slot? o = some (some lease) → k.id = lease.holder → k.Took b o lease

theorem Waning.move (h : Waning A l b w E) (hm : Move A D t w (E t) w' c') :
    Waning A l b w' (Function.update E t c') where
  answerable := h.answerable.step hm.ledger
  done := h.done.imp hm.outlives.isCancelled fun hr => hr.step h.answerable hm.ledger
  spent := by
    rw [hm.now_eq]
    refine h.spent.imp_right fun hE t' call r n co he => ?_
    by_contra hcall
    by_cases ht : t' = t
    · subst ht
      rw [Function.update_self] at he
      exact hm.still h.done hcall (fun r n co he => hcall (hE t' call r n co he)) he
    · rw [Function.update_of_ne ht] at he
      exact hcall (hE t' call r n co he)
  bounded k' o lease hk' hsole hap hs hid := by
    obtain ⟨k, hk⟩ := h.done.elim exists_lock_of_isCancelled fun ⟨k, hk, _⟩ => ⟨k, hk⟩
    obtain ⟨k'', hk'', he⟩ := hm.outlives l k hk
    obtain rfl := Option.some.inj (hk'.symm.trans hk'')
    have hsole := hsole.of_outlives hm.outlives he.id
    rw [he.id] at hap hid
    refine Lock.Took.evolves ?_ he
    rcases hm.writes hs with hs | ⟨r, ha, hw⟩
    · exact h.bounded k o lease hk hsole hap hs hid
    rcases ha.cases h.answerable hw.holder? with ⟨r, hf, hr⟩ | ⟨l₁, k₁, call, n, co, hc, hk₁, hid₁,
      rfl⟩
    · exact absurd (hr.trans (congrArg some hid.symm)) (hap r hf)
    obtain rfl := hsole l₁ k₁ hk₁ (hid₁.trans hid.symm)
    obtain rfl := Option.some.inj (hk.symm.trans hk₁)
    -- only in the instant `b` the lock can still have made the call
    have hn : w.now ≤ b := h.spent.resolve_right fun hE => by
      cases hE t call _ n co hc
      rcases hw.taken with ⟨secs, hr, -⟩ | ⟨hr, -⟩ <;> cases hr
    rcases took_or_extends hw hid with ht | ⟨-, lease₀, hs₀, hh, hl⟩
    · exact ht.mono hn
    · have ht₀ := h.bounded k o lease₀ hk hsole hap hs₀ (hid.trans hh.symm)
      exact ⟨hid, ht₀.backing, hl.symm.trans ht₀.length,
        Nat.le_trans hw.expires_le (Nat.add_le_add_right hn _)⟩

theorem moving_waning : Moving A (fun _ => True) (Waning A l b) where
  books w w' E hu h := by
    refine ⟨by rw [ledger_congr hu.clock hu.locks hu.log]; exact h.answerable, ?_, ?_, ?_⟩
    · rw [Over, isCancelled, AtStage, hu.locks]
      exact h.done
    · rw [now, hu.clock]
      exact h.spent
    · unfold Sole
      rw [hu.locks, hu.store]
      exact h.bounded
  move D w w' E t c' _ h hm := h.move hm

/-- When time passes, a lock that is cancelled or released makes no call but a release. -/
theorem call_eq_release (h : Reachable A w) (hr : w.ready = []) (hy : w.yielded = [])
    (ho : w.Over l) {call : LeaseCall} {r : Request} {n : Nat} {co : Course}
    (he : w.engagements t = some (.calling l call r n co)) : call = .release := by
  rcases ho with hc | ⟨k, hk, hst⟩
  · -- an acquisition and a renewal wait for the cancellation as well
    rw [engagements_eq] at he
    obtain ⟨a, ha, he⟩ := Option.bind_eq_some_iff.1 he
    obtain ⟨e, hv, hcall⟩ := Activity.visit_of_engagement he rfl
    have hx : ∀ n, (.scope l, n) ∉ e.waits l := fun n hx =>
      not_mem_waits_scope h hr hy hc ha n (Activity.mem_waits hv hx)
    cases e with
    | queued errand => cases hcall
    | acquiring f n | renewing f n => exact absurd (by simp [Entry.waits]) (hx n)
    | releasing f limit =>
      cases hcall
      rfl
  · obtain ⟨c, hc, -, hst', -⟩ := (answerable_reachable h).inside t l call r n co he
    cases (core?_ledger hk).symm.trans hc
    cases call <;> first | rfl | cases hst.symm.trans hst'

/-- From when a lock is cancelled or released on, what is left of its lease is waning. -/
theorem waning_run (h : Reachable A w₁) (ho : w₁.Over l) (hr : Run A w₁ w) :
    Waning A l w₁.now w w.engagements := by
  induction hr with
  | refl =>
    refine ⟨answerable_reachable h, ho, .inl (Nat.le_refl _),
      fun k o lease hk hsole hap hs hid => ?_⟩
    rcases (attributed_reachable h).owned o lease hs with ⟨r, hf, hr⟩ | ⟨l', k', hk', ht⟩
    · exact absurd (hr.trans (congrArg some hid.symm)) (hap r hf)
    · obtain rfl := hsole l' k' hk' (ht.holder.trans hid.symm)
      obtain rfl := Option.some.inj (hk.symm.trans hk')
      exact ht
  | @tail w w' hw hn ih =>
    obtain ⟨o, hn⟩ := next_iff.1 hn
    have hreach : Reachable A w := h.trans hw
    refine moving_waning.next (Reachable.tame hreach) ih (fun hr hy => ?_) hn fun _ _ => trivial
    exact ⟨⟨ih.answerable.inside, ih.answerable.pending, ih.answerable.apart,
      ih.answerable.outside⟩, ih.done,
      .inr fun t call r n co he => call_eq_release hreach hr hy ih.done he, ih.bounded⟩

/-- No lease outlives its instance by more than one term.  Whatever delays, failures and answers the
calls to the store meet, and whatever is dropped: from a term after an instant in which an instance
is released or cancelled it never holds its object, if nobody else makes calls with its id. -/
theorem lease_over {k₁ : Lock} (h : Reachable A w₁) (hk : w₁.locks[l]? = some k₁)
    (ho : k₁.stage = .released ∨ k₁.cancelled = true) (hap : Apart A k₁.id) (hr : Run A w₁ w)
    (hs : w.Sole l k₁) (ht : w₁.now + .ofSeconds k₁.term.wholeSeconds ≤ w.now) :
    w.store.holder w.now k₁.name.backing ≠ some k₁.id := by
  intro hh
  obtain ⟨lease, hslot, hid, hactive⟩ := Store.slot?_of_holder hh
  have hover : w₁.Over l := ho.symm.imp (fun hc => (isCancelled_eq hk).trans hc)
    fun hst => ⟨k₁, hk, hst⟩
  obtain ⟨k, hk', he⟩ := outlives_run h hr l k₁ hk
  have hs' : w.Sole l k := by
    unfold Sole
    rw [he.id]
    exact hs
  have hb := (waning_run h hover hr).bounded k _ lease hk' hs' (by rw [he.id]; exact hap) hslot
    (he.id.trans hid.symm)
  have hexp := hb.expires
  rw [hb.length, he.term] at hexp
  exact Nat.lt_irrefl _ (Nat.lt_of_lt_of_le hactive (Nat.le_trans hexp ht))

/-- Scripts that make no calls from outside. -/
def Inward : Step → Prop
  | .foreign _ => False
  | _ => True

/-- A lock is cancelled when its acquisition has come to the store and is not yet answered. -/
def abandoned : World :=
  turn^[8] (ofScript [.create "a" "alpha" (.ofSeconds 15) [] "p" ⟨"i"⟩,
    .plan .acquire ⟨.zero, none, .ofSeconds 10, none⟩ 1, .spawn "u" (.acquireOnce "a"),
    .sleep (.ofSeconds 2), .cancel "a", .sleep (.ofSeconds 15)])

theorem reachable_abandoned : Reachable Inward abandoned :=
  reachable_ofScript (by simp [Step.Within, Step.AllWithin, Inward]) 8

/-- The lease that was left behind is over a term later. -/
theorem lease_over_abandoned : abandoned.clock = 2000 ∧ abandoned.stages = [.idle] ∧
    ∃ k, abandoned.locks[0]? = some k ∧ k.cancelled = true ∧
      abandoned.store.holder abandoned.now k.name.backing = some k.id ∧
      (turn^[3] abandoned).clock = 17000 ∧
      (turn^[3] abandoned).store.holder (turn^[3] abandoned).now k.name.backing ≠ some k.id := by
  have hk : (abandoned.locks[0]?.map fun k => (k.cancelled, k.term.wholeSeconds,
      decide (abandoned.store.holder abandoned.now k.name.backing = some k.id))) =
        some (true, 15, true) := by decide +kernel
  obtain ⟨k, hk, he⟩ := Option.map_eq_some_iff.1 hk
  simp only [Prod.mk.injEq, decide_eq_true_eq] at he
  obtain ⟨hc, hterm, hh⟩ := he
  have hclock₁ : abandoned.clock = 2000 := by decide +kernel
  have hclock : (turn^[3] abandoned).clock = 17000 := by decide +kernel
  refine ⟨hclock₁, by decide +kernel, k, hk, hc, hh, hclock, ?_⟩
  refine lease_over reachable_abandoned hk (.inr hc) (fun r hr => hr.elim) (run_iterate_turn _ 3)
    (sole_of_single (by decide +kernel)) ?_
  rw [hterm, now, now, hclock₁, hclock]
  decide

end World

end Leasehold
