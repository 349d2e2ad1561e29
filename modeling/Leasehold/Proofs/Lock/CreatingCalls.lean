import Leasehold.Proofs.Lock.LossNotice
import Leasehold.Proofs.World.Calm

/-!
# Calls that create

A call for a container or an object adds what is not there, and leaves everything else alone.

* `Store.Keeps`, `keeps_serve`: the records of all objects outlast a creating call.
* `World.Harmless`: all that a creating call leaves alone while it is sent and followed.
* `Store.createContainer_faultless`, `Store.createObject_faultless`: what is there after the calls.
* `World.Unhindered`: there is no plan and no fault for them.
-/

namespace Leasehold

namespace Store

variable {s s' s'' : Store} {now : Span} {o : ObjectPath} {r : Request}

/-- The records of all objects stay as they are; there may be new objects, without a record. -/
def Keeps (s s' : Store) : Prop :=
  ∀ o, s'.slot? o = s.slot? o ∨ s.slot? o = none ∧ s'.slot? o = some none

theorem Keeps.refl (s : Store) : s.Keeps s := fun _ => .inl rfl

theorem Keeps.trans (h : s.Keeps s') (h' : s'.Keeps s'') : s.Keeps s'' := by
  intro o
  rcases h o with ho | ⟨hn, ho⟩ <;> rcases h' o with ho' | ⟨hn', ho'⟩
  · exact .inl (ho'.trans ho)
  · exact .inr ⟨ho.symm.trans hn', ho'⟩
  · exact .inr ⟨hn, ho'.trans ho⟩
  · cases ho.symm.trans hn'

/-- A record that is there stays there. -/
theorem Keeps.slot? {l : Option Lease} (h : s.Keeps s') (ho : s.slot? o = some l) :
    s'.slot? o = some l := by
  rcases h o with h | ⟨hn, -⟩
  · exact h.trans ho
  · cases ho.symm.trans hn

theorem Keeps.activeLease? (h : s.Keeps s') (now : Span) (o : ObjectPath) :
    s'.activeLease? now o = s.activeLease? now o := by
  unfold Store.activeLease?
  rcases h o with h | ⟨hn, h⟩
  · rw [h]
  · rw [hn, h]

theorem Keeps.holder (h : s.Keeps s') (now : Span) (o : ObjectPath) :
    s'.holder now o = s.holder now o := congrArg _ (h.activeLease? now o)

theorem Keeps.remaining (h : s.Keeps s') (now : Span) (o : ObjectPath) :
    s'.remaining now o = s.remaining now o := congrArg _ (h.activeLease? now o)

/-- A creating call leaves all records alone. -/
theorem keeps_serve (hr : World.Creates r) : s.Keeps (s.serve now r).1 := by
  intro o
  rcases hr with rfl | ⟨o', rfl⟩
  · exact .inl (slot?_serve_of_ne nofun)
  have he := effect_serve s now o (.createObject o')
  generalize s.slot? o = before at he ⊢
  generalize (s.serve now (.createObject o')).1.slot? o = after at he ⊢
  generalize (s.serve now (.createObject o')).2 = a at he
  cases he with
  | founded a _ hb => exact .inr ⟨hb, rfl⟩
  | refused e => exact .inl rfl
  | apart a _ => exact .inl rfl
  | taken id secs hr' _ => cases hr'
  | extended l hr' _ => cases hr'
  | given l hr' _ => cases hr'

/-- After a call for a container without a fault the container is there, and the answer says so. -/
theorem createContainer_faultless (now : Span) (n : String)
    (hf : s.faults.get .createContainer = 0) :
    n ∈ (s.serve now (.createContainer n)).1.containers ∧
      ((s.serve now (.createContainer n)).2 = .ok () ∨
        (s.serve now (.createContainer n)).2 = .error .present) := by
  rw [serve_of_faultless hf]
  unfold perform
  dsimp only
  split
  · next hc => exact ⟨List.contains_iff_mem.1 hc, .inr rfl⟩
  · exact ⟨List.mem_append_right _ (List.mem_singleton.2 rfl), .inl rfl⟩

/-- After a call for an object without a fault, in a container that is there, the object is there,
and the answer says so: it is new, or without an active lease, or leased. -/
theorem createObject_faultless (now : Span) (hf : s.faults.get .createObject = 0)
    (hc : o.container ∈ s.containers) :
    ((s.serve now (.createObject o)).1.slot? o).isSome = true ∧
      ((s.serve now (.createObject o)).2 = .ok () ∨
        (s.serve now (.createObject o)).2 = .error .present ∨
        (s.serve now (.createObject o)).2 = .error .leased) := by
  have hc : (s.count .createObject).containers.contains o.container = true :=
    List.contains_iff_mem.2 hc
  rw [serve_of_faultless hf]
  unfold perform Request.operation
  dsimp only
  rw [if_pos hc]
  split
  · next l hl =>
    refine ⟨by rw [hl]; rfl, .inr ?_⟩
    dsimp only
    split
    · exact .inr rfl
    · exact .inl rfl
  · next hl => exact ⟨by rw [hl]; rfl, .inr (.inl rfl)⟩
  · next hl => exact ⟨by rw [slot?_createObject_self hl]; rfl, .inl rfl⟩

/-- A call for an object leaves the containers alone. -/
theorem containers_createObject :
    (s.serve now (.createObject o)).1.containers = s.containers := by
  have hp (s : Store) : (s.perform now (.createObject o)).1.containers = s.containers := by
    have hp := s.performs now (.createObject o)
    generalize s.perform now (.createObject o) = y at hp ⊢
    cases hp with
    | refused | founded => rfl
  unfold serve
  dsimp only
  split
  · exact hp _
  · rfl

end Store

namespace World

variable {w w' w'' : World} {r : Request} {p : Plan} {n : Nat} {f f' : Flight}

/-! ### What a creating call leaves alone -/

/-- Time stands still, and nothing has become of locks, labels, tasks, parent scopes and leases. -/
structure Harmless (w w' : World) : Prop where
  clock : w'.clock = w.clock
  locks : w'.locks = w.locks
  labels : w'.labels = w.labels
  tasks : w'.tasks = w.tasks
  parents : w'.cancelledParents = w.cancelledParents
  store : w.store.Keeps w'.store

theorem Harmless.refl (w : World) : w.Harmless w := ⟨rfl, rfl, rfl, rfl, rfl, .refl _⟩

theorem Harmless.trans (h : w.Harmless w') (h' : w'.Harmless w'') : w.Harmless w'' where
  clock := h'.clock.trans h.clock
  locks := h'.locks.trans h.locks
  labels := h'.labels.trans h.labels
  tasks := h'.tasks.trans h.tasks
  parents := h'.parents.trans h.parents
  store := h.store.trans h'.store

theorem Harmless.isParentCancelled (h : w.Harmless w') (q : String) :
    w'.isParentCancelled q = w.isParentCancelled q :=
  congrArg (List.contains · q) h.parents

theorem harmless_settleCall (hr : Creates r) (p : Plan) : w.Harmless (w.settleCall r p).1 := by
  unfold settleCall
  split
  · exact .refl w
  · exact ⟨rfl, rfl, rfl, rfl, rfl, Store.keeps_serve hr⟩

theorem harmless_arrive (hr : Creates r) (n : Nat) (p : Plan) :
    w.Harmless (w.arrive n r p).1 := by
  have h := harmless_settleCall (w := w) hr p
  unfold arrive
  dsimp only
  split
  · exact { h with }
  · exact { h with }

theorem harmless_issue (hr : Creates r) : w.Harmless (w.issue r).1 := by
  have hs : w.Harmless (w.sent r) := by
    unfold sent takePlan
    split <;> exact ⟨rfl, rfl, rfl, rfl, rfl, .refl _⟩
  unfold issue
  dsimp only
  split
  · exact hs.trans (harmless_arrive (w := w.sent r) hr _ _)
  · exact { hs with }

theorem harmless_fly (hr : Creates f.request) : w.Harmless (w.fly f).1 := by
  unfold fly
  split
  · split
    · exact harmless_arrive hr _ _
    · exact ⟨rfl, rfl, rfl, rfl, rfl, .refl _⟩
  · exact .refl w

/-! ### What is on its way -/

theorem requests_of_shown {ls : List CallRecord} {y : World × Poll Flight Answer}
    (h : Shown ls n y) : y.1.requests = ls.map (·.request) := by
  unfold Shown at h
  unfold requests
  rw [h]
  split
  · rfl
  · next a _ =>
    have hm := map_modify_of CallRecord.request (fun rec => { rec with answer := some a }) id
      (fun _ => rfl) ls n
    rwa [List.modify_id] at hm

theorem requests_issue (w : World) (r : Request) :
    (w.issue r).1.requests = w.requests ++ [r] := by
  rw [requests_of_shown (shown_issue w r), List.map_append]
  rfl

theorem requests_fly (w : World) (f : Flight) : (w.fly f).1.requests = w.requests :=
  requests_of_shown (shown_fly w f)

/-! ### Calls that nothing hinders -/

/-- No plan and no fault is there for the two creating calls: they go straight to the store. -/
structure Unhindered (w : World) : Prop where
  unplanned : ∀ x ∈ w.plans, x.1 ≠ .createContainer ∧ x.1 ≠ .createObject
  container : w.store.faults.get .createContainer = 0
  object : w.store.faults.get .createObject = 0

theorem Unhindered.issue_container (h : w.Unhindered) :
    w.issue (.createContainer sharedContainer) = (w.called (.createContainer sharedContainer),
      .done (w.store.serve w.now (.createContainer sharedContainer)).2) :=
  issue_of_takePlan (takePlan_of_unplanned fun x hx => (h.unplanned x hx).1)

theorem Unhindered.issue_object (h : w.Unhindered) (o : ObjectPath) :
    w.issue (.createObject o) = (w.called (.createObject o),
      .done (w.store.serve w.now (.createObject o)).2) :=
  issue_of_takePlan (takePlan_of_unplanned fun x hx => (h.unplanned x hx).2)

/-- The call for the container does not hinder the one for the object. -/
theorem Unhindered.called_container (h : w.Unhindered) :
    (w.called (.createContainer sharedContainer)).Unhindered := by
  have hf : (w.called (.createContainer sharedContainer)).store.faults = w.store.faults := by
    show (w.store.serve w.now _).1.faults = _
    rw [Store.serve_of_faultless h.container, Store.faults_perform]
    rfl
  exact ⟨h.unplanned, by rw [hf]; exact h.container, by rw [hf]; exact h.object⟩

end World

end Leasehold
