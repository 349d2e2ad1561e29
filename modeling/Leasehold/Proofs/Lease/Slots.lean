import Mathlib.Tactic.Common
import Leasehold.Lease.Store

/-!
# The lease records of a store

What a call does to a store, and to the lease record of one object.

* `Store.Performs`, `Store.performs`: all that a call can do by the rules of the service.
* `Store.slot?_serve_other`: the active lease of an object outlasts every call that does not speak
  for its holder.
* `Store.slot?_serve_acquire`: an acquisition that is granted leaves a lease of full length.
* `Store.serve_renew`: a renewal by the holder is refused only by a fault, and otherwise extends the
  lease.
-/

namespace Leasehold

/-- The instance that a request speaks for. -/
def Request.holder? : Request → Option LeaseId
  | acquire _ id _ | renew _ id | release _ id => some id
  | createContainer _ | createObject _ => none

namespace Store

variable {s : Store} {now : Span} {o o' : ObjectPath} {r : Request} {lease : Lease} {id : LeaseId}
  {secs : Nat}

/-! ### Slots -/

theorem slot?_setLease (s : Store) (o o' : ObjectPath) (l : Option Lease) :
    (s.setLease o l).slot? o' = if o' = o then (s.slot? o').map fun _ => l else s.slot? o' := by
  unfold slot? setLease
  dsimp only
  induction s.objects with
  | nil => split <;> rfl
  | cons x rest ih =>
    obtain ⟨p, l'⟩ := x
    have hx : (if p = o then (p, l) else (p, l')) = (p, if p = o then l else l') := by
      split <;> rfl
    rw [List.map_cons]
    dsimp only
    rw [hx, List.lookup_cons, List.lookup_cons, ih]
    by_cases hp : o' = p
    · subst hp
      simp only [beq_self_eq_true]
      split <;> rfl
    · rw [beq_eq_false_iff_ne.2 hp]

theorem slot?_setLease_of_ne (h : o' ≠ o) (l : Option Lease) :
    (s.setLease o l).slot? o' = s.slot? o' := by
  rw [slot?_setLease, if_neg h]

theorem slot?_setLease_self {l' : Option Lease} (h : s.slot? o = some l') (l : Option Lease) :
    (s.setLease o l).slot? o = some l := by
  rw [slot?_setLease, if_pos rfl, h]
  rfl

/-- A new object takes no slot away. -/
theorem slot?_createObject {l : Option Lease} (h : s.slot? o = some l) (o' : ObjectPath) :
    ({ s with objects := s.objects ++ [(o', none)] } : Store).slot? o = some l := by
  unfold slot? at h ⊢
  rw [List.lookup_append, h]
  rfl

theorem holder_eq (hs : s.slot? o = some (some lease)) (ha : now < lease.expires) :
    s.holder now o = some lease.holder := by
  have hactive : lease.isActive now = true := decide_eq_true ha
  unfold holder activeLease?
  rw [hs]
  dsimp only
  rw [hactive]
  rfl

theorem slot?_of_holder (h : s.holder now o = some id) :
    ∃ lease, s.slot? o = some (some lease) ∧ lease.holder = id ∧ now < lease.expires := by
  unfold holder activeLease? at h
  split at h
  · next lease hl =>
    split at h
    · next ha =>
      cases h
      exact ⟨lease, hl, rfl, of_decide_eq_true ha⟩
    · cases h
  · cases h

/-! ### Calls -/

/-- What a call changes is done by the rules of the service, unless a fault lets it fail. -/
theorem serve_cases (s : Store) (now : Span) (r : Request) :
    ((s.serve now r).1.objects = s.objects ∧ (s.serve now r).2 = .error injectedFailure) ∨
      s.serve now r = (s.count r.operation).perform now r := by
  unfold serve
  dsimp only
  split
  · exact .inr rfl
  · exact .inl ⟨rfl, rfl⟩

/-- All that a call can do to a store by the rules of the service, with the answers to it.  None of
the refusals looks like a fault. -/
inductive Performs (s : Store) (now : Span) : Request → Store × Answer → Prop
  | refused {r : Request} {e : CallFailure} : e ≠ injectedFailure →
      Performs s now r (s, .error e)
  | housed {c : String} : c ∉ s.containers →
      Performs s now (.createContainer c) ({ s with containers := s.containers ++ [c] }, .ok ())
  | founded {o : ObjectPath} : o.container ∈ s.containers → s.slot? o = none →
      Performs s now (.createObject o) ({ s with objects := s.objects ++ [(o, none)] }, .ok ())
  | taken {o : ObjectPath} {id : LeaseId} {secs : Nat} {slot : Option Lease} :
      s.slot? o = some slot →
      (∀ l, slot = some l → now < l.expires → l.holder = id) →
      Performs s now (.acquire o id secs)
        (s.setLease o (some ⟨id, .ofSeconds secs, now + .ofSeconds secs⟩), .ok ())
  | extended {o : ObjectPath} {l : Lease} : s.slot? o = some (some l) →
      Performs s now (.renew o l.holder)
        (s.setLease o (some { l with expires := now + l.length }), .ok ())
  | given {o : ObjectPath} {l : Lease} : s.slot? o = some (some l) →
      Performs s now (.release o l.holder) (s.setLease o none, .ok ())

theorem performs (s : Store) (now : Span) (r : Request) : s.Performs now r (s.perform now r) := by
  unfold perform
  cases r with
  | createContainer c =>
    dsimp only
    split
    · exact .refused (by decide)
    · next hc => exact .housed fun hm => hc (List.contains_iff_mem.2 hm)
  | createObject o =>
    dsimp only
    split
    · next hc =>
      split
      · next l _ => exact .refused (by cases l.isActive now <;> decide)
      · exact .refused (by decide)
      · next hs => exact .founded (List.contains_iff_mem.1 hc) hs
    · exact .refused (by decide)
  | acquire o id secs =>
    dsimp only
    split
    · exact .refused (by decide)
    · next hs => exact .taken hs fun l h => by cases h
    · next l hs =>
      split
      · exact .refused (by decide)
      · next hheld =>
        refine .taken hs fun l' h hactive => ?_
        cases h
        exact Decidable.not_not.1 fun hne => hheld ⟨decide_eq_true hactive, hne⟩
  | renew o id | release o id =>
    dsimp only
    split
    · exact .refused (by decide)
    · exact .refused (by decide)
    · next l hs =>
      split
      · next hid =>
        subst hid
        constructor
        exact hs
      · exact .refused (by decide)

/-- The active lease of an object outlasts every call that does not speak for its holder. -/
theorem slot?_perform_other (hs : s.slot? o = some (some lease)) (ha : now < lease.expires)
    (hr : r.holder? ≠ some lease.holder) : (s.perform now r).1.slot? o = some (some lease) := by
  have hp := s.performs now r
  generalize s.perform now r = y at hp ⊢
  cases hp with
  | refused | housed => exact hs
  | founded => exact slot?_createObject hs _
  | @taken o' id _ _ hs' hfree =>
    have ho : o ≠ o' := by
      rintro rfl
      cases hs.symm.trans hs'
      exact hr (congrArg some (hfree lease rfl ha).symm)
    exact (slot?_setLease_of_ne ho _).trans hs
  | @extended o' l hs' | @given o' l hs' =>
    have ho : o ≠ o' := by
      rintro rfl
      cases hs.symm.trans hs'
      exact hr rfl
    exact (slot?_setLease_of_ne ho _).trans hs

theorem slot?_serve_other (hs : s.slot? o = some (some lease)) (ha : now < lease.expires)
    (hr : r.holder? ≠ some lease.holder) : (s.serve now r).1.slot? o = some (some lease) := by
  rcases serve_cases s now r with ⟨ho, -⟩ | he
  · rw [slot?, ho]
    exact hs
  · rw [he]
    exact slot?_perform_other (s := s.count r.operation) hs ha hr

theorem slot?_perform_acquire (h : (s.perform now (.acquire o id secs)).2 = .ok ()) :
    (s.perform now (.acquire o id secs)).1.slot? o =
      some (some ⟨id, .ofSeconds secs, now + .ofSeconds secs⟩) := by
  have hp := s.performs now (.acquire o id secs)
  generalize s.perform now (.acquire o id secs) = y at h hp ⊢
  cases hp with
  | refused => cases h
  | taken hs => exact slot?_setLease_self hs _

/-- An acquisition that is granted leaves a lease of full length. -/
theorem slot?_serve_acquire (h : (s.serve now (.acquire o id secs)).2 = .ok ()) :
    (s.serve now (.acquire o id secs)).1.slot? o =
      some (some ⟨id, .ofSeconds secs, now + .ofSeconds secs⟩) := by
  rcases serve_cases s now (.acquire o id secs) with ⟨-, he⟩ | he
  · rw [he] at h
    cases h
  · rw [he] at h ⊢
    exact slot?_perform_acquire h

/-- A renewal by the holder is refused only by a fault, and otherwise extends the lease. -/
theorem serve_renew (now : Span) (hs : s.slot? o = some (some lease)) (hid : lease.holder = id) :
    (s.serve now (.renew o id)).1.slot? o = some (some lease) ∧
        (s.serve now (.renew o id)).2 = .error injectedFailure ∨
      (s.serve now (.renew o id)).1.slot? o =
        some (some { lease with expires := now + lease.length }) := by
  rcases serve_cases s now (.renew o id) with ⟨ho, he⟩ | he
  · refine .inl ⟨?_, he⟩
    rw [slot?, ho]
    exact hs
  · right
    rw [he]
    have hs' : (s.count .renew).slot? o = some (some lease) := hs
    unfold perform
    dsimp only [Request.operation]
    rw [hs']
    dsimp only
    rw [if_pos hid]
    exact slot?_setLease_self hs' _

end Store

end Leasehold
