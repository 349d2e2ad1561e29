import Mathlib.Data.List.Induction
import Mathlib.Tactic.Common
import Leasehold.Proofs.Lease.Slots

/-!
# The history of a store

A history is a list of events: calls, revocations, injected faults and the passing of time.  A
`Chronicle` is a store at the present instant with all that has happened to it and the answers it
gave.

* `Store.Effect`, `Store.effect_serve`: what one call can do to the lease record of an object.
* `Chronicle.Records`, `Chronicle.told_ofEvents`: the lease record of an object is the one that the
  last successful acquisition wrote, as the last success of its holder extended it.
* `Chronicle.carried_or_ended`: a record carries its holder until it expires, is released under that
  holder or is revoked.
* `Chronicle.exclusive_service`: who holds an active lease, and for how long, read off the history.
-/

namespace Leasehold

/-! ### The last of a list -/

/-- `x` is the last in the list that has the property. -/
def IsLast {α : Type} (P : α → Prop) (xs : List α) (x : α) : Prop :=
  P x ∧ ∃ before after, xs = before ++ x :: after ∧ ∀ z ∈ after, ¬P z

section IsLast

variable {α : Type} {P : α → Prop} {xs : List α} {x z : α}

theorem isLast_concat_of (hz : P z) : IsLast P (xs ++ [z]) x ↔ x = z := by
  constructor
  · rintro ⟨-, before, after, he, hafter⟩
    rcases List.eq_nil_or_concat after with rfl | ⟨rest, z', rfl⟩
    · exact (List.append_inj_right' he rfl |> List.singleton_inj.1).symm
    · rw [List.concat_eq_append, ← List.cons_append, ← List.append_assoc] at he
      have hz' : z = z' := List.singleton_inj.1 (List.append_inj_right' he rfl)
      exact absurd hz (hz' ▸ hafter z' (by simp))
  · rintro rfl
    exact ⟨hz, xs, [], rfl, fun _ h => absurd h List.not_mem_nil⟩

theorem isLast_concat_of_not (hz : ¬P z) : IsLast P (xs ++ [z]) x ↔ IsLast P xs x := by
  constructor
  · rintro ⟨hx, before, after, he, hafter⟩
    rcases List.eq_nil_or_concat after with rfl | ⟨rest, z', rfl⟩
    · have hxz : z = x := List.singleton_inj.1 (List.append_inj_right' he rfl)
      exact absurd (hxz ▸ hx) hz
    · rw [List.concat_eq_append, ← List.cons_append, ← List.append_assoc] at he
      exact ⟨hx, before, rest, List.append_inj_left' he rfl,
        fun y hy => hafter y (by rw [List.concat_eq_append]; exact List.mem_append_left _ hy)⟩
  · rintro ⟨hx, before, after, rfl, hafter⟩
    refine ⟨hx, before, after ++ [z], by simp, fun y hy => ?_⟩
    rcases List.mem_append.1 hy with hy | hy
    · exact hafter y hy
    · exact List.mem_singleton.1 hy ▸ hz

theorem IsLast.unique {y : α} (hx : IsLast P xs x) (hy : IsLast P xs y) : x = y := by
  induction xs using List.reverseRecOn with
  | nil =>
    obtain ⟨-, before, after, he, -⟩ := hx
    simp at he
  | append_singleton xs z ih =>
    by_cases hz : P z
    · rw [isLast_concat_of hz] at hx hy
      rw [hx, hy]
    · rw [isLast_concat_of_not hz] at hx hy
      exact ih hx hy

end IsLast

/-! ### One call and one record -/

namespace Request

/-- The object that a call names. -/
def object? : Request → Option ObjectPath
  | createContainer _ => none
  | createObject o | acquire o _ _ | renew o _ | release o _ => some o

end Request

namespace Store

variable {s : Store} {now : Span} {o o' : ObjectPath} {r : Request} {id : LeaseId}

theorem slot?_createObject_of_ne (h : o' ≠ o) :
    ({ s with objects := s.objects ++ [(o, none)] } : Store).slot? o' = s.slot? o' := by
  unfold slot?
  have hne : (o' == o) = false := beq_eq_false_iff_ne.2 h
  rw [List.lookup_append, List.lookup_cons, hne]
  cases s.objects.lookup o' <;> rfl

theorem slot?_createObject_self (h : s.slot? o = none) :
    ({ s with objects := s.objects ++ [(o, none)] } : Store).slot? o = some none := by
  unfold slot? at h ⊢
  rw [List.lookup_append, h]
  simp

/-- A call leaves the records of all objects alone but of the one that it names. -/
theorem slot?_perform_of_ne (hr : r.object? ≠ some o) :
    (s.perform now r).1.slot? o = s.slot? o := by
  have hp := s.performs now r
  generalize s.perform now r = y at hp ⊢
  cases hp with
  | refused | housed => rfl
  | founded => exact slot?_createObject_of_ne fun he => hr (congrArg some he.symm)
  | taken | extended | given => exact slot?_setLease_of_ne (fun he => hr (congrArg some he.symm)) _

/-- `slot?_perform_of_ne` for a call that can also meet an injected fault. -/
theorem slot?_serve_of_ne (hr : r.object? ≠ some o) : (s.serve now r).1.slot? o = s.slot? o := by
  rcases serve_cases s now r with ⟨ho, -⟩ | he
  · rw [slot?, ho, slot?]
  · rw [he]
    exact slot?_perform_of_ne (s := s.count r.operation) hr

/-- What a call can do to the record of an object, and which answer goes with it. -/
inductive Effect (o : ObjectPath) (now : Span) (r : Request) (before : Option (Option Lease)) :
    Option (Option Lease) → Answer → Prop
  | taken (id : LeaseId) (secs : Nat) (hr : r = .acquire o id secs)
      (hfree : ∀ l, before = some (some l) → now < l.expires → l.holder = id) :
      Effect o now r before (some (some ⟨id, .ofSeconds secs, now + .ofSeconds secs⟩)) (.ok ())
  | extended (l : Lease) (hr : r = .renew o l.holder) (hb : before = some (some l)) :
      Effect o now r before (some (some { l with expires := now + l.length })) (.ok ())
  | given (l : Lease) (hr : r = .release o l.holder) (hb : before = some (some l)) :
      Effect o now r before (some none) (.ok ())
  | founded (a : Answer) (hr : r = .createObject o) (hb : before = none) :
      Effect o now r before (some none) a
  | refused (e : CallFailure) : Effect o now r before before (.error e)
  | apart (a : Answer) (hr : r.object? ≠ some o) : Effect o now r before before a

/-- The rules of the service for the object that a call names. -/
theorem effect_perform (s : Store) (now : Span) (o : ObjectPath) (r : Request) :
    Effect o now r (s.slot? o) ((s.perform now r).1.slot? o) (s.perform now r).2 := by
  by_cases hname : r.object? = some o
  swap
  · rw [slot?_perform_of_ne hname]
    exact .apart _ hname
  have hp := s.performs now r
  generalize s.perform now r = y at hp ⊢
  cases hp with
  | refused => exact .refused _
  | housed => cases hname
  | founded _ hs =>
    cases hname
    rw [slot?_createObject_self hs]
    exact .founded _ rfl hs
  | @taken _ id secs _ hs hfree =>
    cases hname
    rw [slot?_setLease_self hs, hs]
    exact .taken id secs rfl fun l h => hfree l (Option.some.inj h)
  | extended hs =>
    cases hname
    rw [slot?_setLease_self hs, hs]
    exact .extended _ rfl rfl
  | given hs =>
    cases hname
    rw [slot?_setLease_self hs, hs]
    exact .given _ rfl rfl

/-- Every call has one of the effects. -/
theorem effect_serve (s : Store) (now : Span) (o : ObjectPath) (r : Request) :
    Effect o now r (s.slot? o) ((s.serve now r).1.slot? o) (s.serve now r).2 := by
  rcases serve_cases s now r with ⟨ho, he⟩ | he
  · have hslot : (s.serve now r).1.slot? o = s.slot? o := by rw [slot?, ho, slot?]
    rw [hslot, he]
    exact .refused _
  · rw [he]
    exact effect_perform (s.count r.operation) now o r

/-- A call succeeds exactly if no fault is left for it and the rules of the service allow it. -/
theorem serve_ok_iff : (s.serve now r).2 = .ok () ↔
    s.faults.get r.operation = 0 ∧ ((s.count r.operation).perform now r).2 = .ok () := by
  unfold serve
  dsimp only
  split
  · next hf => simp [hf]
  · next hf => simp [hf]

/-- A renewal or a release by an instance is allowed exactly while the record carries its id, even
an expired one. -/
theorem perform_ok_iff (hr : r = .renew o id ∨ r = .release o id) :
    (s.perform now r).2 = .ok () ↔ ∃ l, s.slot? o = some (some l) ∧ l.holder = id := by
  rcases hr with rfl | rfl <;>
  · unfold perform
    dsimp only
    split
    · next hs => simp [hs]
    · next hs => simp [hs]
    · next l hs => by_cases hid : l.holder = id <;> simp [hs, hid]

end Store

/-! ### Histories -/

/-- What can happen to a store. -/
inductive Event
  | call (r : Request)
  | revoke (o : ObjectPath)
  | inject (op : Operation) (count : Nat)
  | pass (d : Span)
  deriving DecidableEq, Repr

/-- The object that an event names. -/
def Event.object? : Event → Option ObjectPath
  | call r => r.object?
  | revoke o => some o
  | inject _ _ | pass _ => none

/-- An event that has happened: when, and what it was answered. -/
structure Occurrence where
  instant : Span
  event : Event
  answer : Answer

namespace Occurrence

/-- A successful acquisition of an object. -/
def Takes (x : Occurrence) (o : ObjectPath) (id : LeaseId) (secs : Nat) : Prop :=
  x.event = .call (.acquire o id secs) ∧ x.answer = .ok ()

/-- A successful renewal of an object. -/
def Extends (x : Occurrence) (o : ObjectPath) (id : LeaseId) : Prop :=
  x.event = .call (.renew o id) ∧ x.answer = .ok ()

/-- A successful release of an object. -/
def GivesBack (x : Occurrence) (o : ObjectPath) (id : LeaseId) : Prop :=
  x.event = .call (.release o id) ∧ x.answer = .ok ()

/-- What replaces or removes the lease record of an object. -/
def Replaces (o : ObjectPath) (x : Occurrence) : Prop :=
  (∃ id secs, x.Takes o id secs) ∨ (∃ id, x.GivesBack o id) ∨ x.event = .revoke o

/-- What sets the expiry of a lease that an instance has on an object. -/
def Dates (o : ObjectPath) (id : LeaseId) (x : Occurrence) : Prop :=
  (∃ secs, x.Takes o id secs) ∨ x.Extends o id

variable {x : Occurrence} {o : ObjectPath} {id id' : LeaseId} {secs secs' : Nat}

theorem Takes.unique (h : x.Takes o id secs) (h' : x.Takes o id' secs') :
    id = id' ∧ secs = secs' := by
  have he := h.1.symm.trans h'.1
  simp only [Event.call.injEq, Request.acquire.injEq] at he
  exact he.2

/-- Neither replaces the record of an object nor sets the expiry of one. -/
def Spares (o : ObjectPath) (x : Occurrence) : Prop := ¬x.Replaces o ∧ ∀ id, ¬x.Dates o id

/-- Only a revocation and the calls that succeed under an id touch the record of the object that
they name. -/
theorem spares (hr : x.event ≠ .revoke o)
    (hc : ∀ r, x.event = .call r → x.answer = .ok () → r.object? = some o → r.holder? = none) :
    x.Spares o := by
  refine ⟨?_, fun id => ?_⟩
  · rintro (⟨id, secs, he, ha⟩ | ⟨id, he, ha⟩ | he)
    · cases hc _ he ha rfl
    · cases hc _ he ha rfl
    · exact hr he
  · rintro (⟨secs, he, ha⟩ | ⟨he, ha⟩)
    · cases hc _ he ha rfl
    · cases hc _ he ha rfl

end Occurrence

/-- A store at the present instant, with all that has happened to it. -/
structure Chronicle where
  store : Store
  now : Span
  past : List Occurrence

namespace Chronicle

/-- A new store. -/
def start : Chronicle := ⟨.empty, .zero, []⟩

/-- What becomes of the store and the clock by an event, and the answer to it. -/
def outcome (c : Chronicle) : Event → Store × Span × Answer
  | .call r => ((c.store.serve c.now r).1, c.now, (c.store.serve c.now r).2)
  | .revoke o => (c.store.revoke o, c.now, .ok ())
  | .inject op count => (c.store.inject op count, c.now, .ok ())
  | .pass d => (c.store, c.now + d, .ok ())

/-- One more event. -/
def next (c : Chronicle) (e : Event) : Chronicle :=
  let (store, now, answer) := c.outcome e
  ⟨store, now, c.past ++ [⟨c.now, e, answer⟩]⟩

/-- The chronicle of a history. -/
def ofEvents (h : List Event) : Chronicle := h.foldl next start

@[simp] theorem ofEvents_concat (h : List Event) (e : Event) :
    ofEvents (h ++ [e]) = (ofEvents h).next e := List.foldl_append ..

/-- The lease that a past leaves on an object: what replaced the record last was an acquisition by
its holder, and the last acquisition or renewal by its holder dates its expiry. -/
def Records (past : List Occurrence) (o : ObjectPath) (l : Lease) : Prop :=
  ∃ x secs y, IsLast (Occurrence.Replaces o) past x ∧ x.Takes o l.holder secs ∧
    IsLast (Occurrence.Dates o l.holder) past y ∧ l.length = .ofSeconds secs ∧
    l.expires = y.instant + l.length

variable {past : List Occurrence} {o : ObjectPath} {l l' : Lease} {z : Occurrence} {id : LeaseId}
  {secs : Nat}

theorem Records.unique (h : Records past o l) (h' : Records past o l') : l = l' := by
  obtain ⟨x, secs, y, hx, ht, hy, hl, he⟩ := h
  obtain ⟨x', secs', y', hx', ht', hy', hl', he'⟩ := h'
  obtain rfl := hx.unique hx'
  obtain ⟨hid, rfl⟩ := ht.unique ht'
  rw [← hid] at hy'
  obtain rfl := hy.unique hy'
  obtain ⟨holder, length, expires⟩ := l
  obtain ⟨holder', length', expires'⟩ := l'
  dsimp only at *
  subst hid hl hl' he he'
  rfl

/-- An acquisition that succeeds leaves a lease of full length. -/
theorem records_taken (ht : z.Takes o id secs) :
    Records (past ++ [z]) o ⟨id, .ofSeconds secs, z.instant + .ofSeconds secs⟩ :=
  ⟨z, secs, z, (isLast_concat_of (.inl ⟨id, secs, ht⟩)).2 rfl, ht,
    (isLast_concat_of (.inl ⟨secs, ht⟩)).2 rfl, rfl, rfl⟩

/-- A renewal that succeeds dates the lease of its holder anew. -/
theorem records_extended (hr : Records past o l) (hz : z.Extends o l.holder) :
    Records (past ++ [z]) o { l with expires := z.instant + l.length } := by
  obtain ⟨x, secs, y, hx, ht, -, hl, -⟩ := hr
  have hn : ¬z.Replaces o := by
    rintro (⟨id, secs, he, -⟩ | ⟨id, he, -⟩ | he) <;> cases hz.1.symm.trans he
  exact ⟨x, secs, z, (isLast_concat_of_not hn).2 hx, ht, (isLast_concat_of (.inr hz)).2 rfl, hl,
    rfl⟩

/-- What gives a lease back or revokes it leaves none. -/
theorem not_records_ended (hz : (∃ id, z.GivesBack o id) ∨ z.event = .revoke o) :
    ¬Records (past ++ [z]) o l := by
  rintro ⟨x, secs, y, hx, ht, -⟩
  obtain rfl := (isLast_concat_of (.inr hz)).1 hx
  rcases hz with ⟨id, he, -⟩ | he
  · cases ht.1.symm.trans he
  · cases ht.1.symm.trans he

/-- What neither replaces a record nor dates it leaves it. -/
theorem records_spared (hz : z.Spares o) : Records (past ++ [z]) o l ↔ Records past o l := by
  unfold Records
  simp only [isLast_concat_of_not hz.1, isLast_concat_of_not (hz.2 _)]

/-- The lease record of an object is the one that the past says. -/
def Told (c : Chronicle) (o : ObjectPath) : Prop :=
  ∀ l, c.store.slot? o = some (some l) ↔ Records c.past o l

variable {c : Chronicle} {s : Store} {now : Span} {e : Event} {a : Answer}

theorem told_of_records (hs : c.store.slot? o = some (some l)) (hr : Records c.past o l) :
    c.Told o := by
  intro l'
  constructor
  · intro h
    rw [hs] at h
    cases h
    exact hr
  · intro h
    rw [hs, hr.unique h]

theorem told_of_ended (hs : ∀ l, c.store.slot? o ≠ some (some l))
    (hz : ∀ l, ¬Records c.past o l) : c.Told o :=
  fun l => ⟨fun h => absurd h (hs l), fun h => absurd h (hz l)⟩

theorem told_of_spared (hc : c.Told o)
    (hs : ∀ l, s.slot? o = some (some l) ↔ c.store.slot? o = some (some l)) (hz : z.Spares o) :
    Told ⟨s, now, c.past ++ [z]⟩ o :=
  fun l => (hs l).trans ((hc l).trans (records_spared hz).symm)

/-- The record of an object stays what the past says, whatever happens. -/
theorem told_next (hc : c.Told o) (e : Event) : (c.next e).Told o := by
  unfold next outcome
  cases e with
  | call r =>
    have heffect := c.store.effect_serve c.now o r
    dsimp only
    generalize (c.store.serve c.now r).1 = s, (c.store.serve c.now r).2 = a at heffect ⊢
    generalize hs : c.store.slot? o = before, hs' : s.slot? o = after at heffect
    cases heffect with
    | taken id secs hr hfree =>
      subst hr
      exact told_of_records hs' (records_taken (z := ⟨c.now, _, _⟩) ⟨rfl, rfl⟩)
    | extended l hr hb =>
      subst hr
      exact told_of_records hs'
        (records_extended (z := ⟨c.now, _, _⟩) ((hc l).1 (hs.trans hb)) ⟨rfl, rfl⟩)
    | given l hr hb =>
      subst hr
      refine told_of_ended (fun l h => ?_) fun l => not_records_ended (.inl ⟨_, rfl, rfl⟩)
      cases hs'.symm.trans h
    | founded a hr hb =>
      subst hr
      exact told_of_spared hc (by simp [hs, hs', hb])
        (Occurrence.spares nofun fun r hr _ _ => by cases hr; rfl)
    | refused f =>
      exact told_of_spared hc (by simp [hs, hs']) (Occurrence.spares nofun nofun)
    | apart a hr =>
      exact told_of_spared hc (by simp [hs, hs'])
        (Occurrence.spares nofun fun r' hr' _ ho => by cases hr'; exact absurd ho hr)
  | revoke o' =>
    dsimp only
    by_cases ho : o = o'
    · subst ho
      refine told_of_ended (fun l h => ?_) fun l => not_records_ended (.inr rfl)
      dsimp only [Store.revoke] at h
      rw [Store.slot?_setLease, if_pos rfl] at h
      cases hs : c.store.slot? o <;> rw [hs] at h <;> cases h
    · have hs : (c.store.revoke o').slot? o = c.store.slot? o := Store.slot?_setLease_of_ne ho _
      exact told_of_spared hc (by simp [hs])
        (Occurrence.spares (fun h => ho (by cases h; rfl)) nofun)
  | inject op count => exact told_of_spared hc (fun _ => .rfl) (Occurrence.spares nofun nofun)
  | pass d => exact told_of_spared hc (fun _ => .rfl) (Occurrence.spares nofun nofun)

theorem told_ofEvents (h : List Event) (o : ObjectPath) : (ofEvents h).Told o := by
  induction h using List.reverseRecOn with
  | nil =>
    refine told_of_ended (fun l hs => ?_) fun l => ?_
    · cases hs
    · rintro ⟨x, -, -, ⟨-, before, after, he, -⟩, -⟩
      simp [ofEvents, start] at he
  | append_singleton h e ih =>
    rw [ofEvents_concat]
    exact told_next ih e

/-! ### Passing on -/

/-- An event changes the record of no object but the one that it names. -/
theorem slot?_next_of_ne (he : e.object? ≠ some o) :
    (c.next e).store.slot? o = c.store.slot? o := by
  cases e with
  | call r => exact Store.slot?_serve_of_ne he
  | revoke o' => exact Store.slot?_setLease_of_ne (fun h => he (congrArg some h.symm)) _
  | inject op count => rfl
  | pass d => rfl

/-- The record of an object carries an id, in force or expired. -/
def Carries (c : Chronicle) (o : ObjectPath) (id : LeaseId) : Prop :=
  ∃ l, c.store.slot? o = some (some l) ∧ l.holder = id

/-- The lease of an instance on an object has expired, with its record still there. -/
def Expired (c : Chronicle) (o : ObjectPath) (id : LeaseId) : Prop :=
  ∃ l, c.store.slot? o = some (some l) ∧ l.holder = id ∧ l.expires ≤ c.now

/-- An event takes the lease of an instance on an object away. -/
def Ends (c : Chronicle) (o : ObjectPath) (id : LeaseId) (e : Event) : Prop :=
  e = .revoke o ∨ e = .call (.release o id) ∧ (c.outcome e).2.2 = .ok ()

/-- A record carries its id on unless the next event takes the lease away, or an expired one is
taken over. -/
theorem carries_next (hc : c.Carries o id) (e : Event) :
    (c.next e).Carries o id ∨ c.Expired o id ∨ c.Ends o id e := by
  obtain ⟨l, hl, rfl⟩ := hc
  by_cases he : e.object? = some o
  swap
  · exact .inl ⟨l, (slot?_next_of_ne he).trans hl, rfl⟩
  cases e with
  | call r =>
    have heffect := c.store.effect_serve c.now o r
    unfold Ends next outcome
    dsimp only
    generalize (c.store.serve c.now r).1 = s, (c.store.serve c.now r).2 = a at heffect ⊢
    generalize hs' : s.slot? o = after at heffect
    rw [hl] at heffect
    cases heffect with
    | taken id secs hr hfree =>
      -- an acquisition replaces a lease in force only under the id of its holder
      by_cases hnow : c.now < l.expires
      · exact .inl ⟨_, hs', (hfree l rfl hnow).symm⟩
      · exact .inr (.inl ⟨l, hl, rfl, Nat.le_of_not_lt hnow⟩)
    | extended l' hr hb =>
      cases hb
      exact .inl ⟨_, hs', rfl⟩
    | given l' hr hb =>
      cases hb
      exact .inr (.inr (.inr ⟨by rw [hr], rfl⟩))
    | founded a hr hb => cases hb
    | refused f => exact .inl ⟨l, hs', rfl⟩
    | apart a hr => exact absurd he hr
  | revoke o' =>
    cases he
    exact .inr (.inr (.inl rfl))
  | inject op count => cases he
  | pass d => cases he

/-- A record carries its id until the lease has expired or is taken away. -/
theorem carried_or_ended {h : List Event} (hc : (ofEvents h).Carries o id) (more : List Event) :
    (ofEvents (h ++ more)).Carries o id ∨ ∃ u v, more = u ++ v ∧
      ((ofEvents (h ++ u)).Expired o id ∨ ∃ e ∈ v.head?, (ofEvents (h ++ u)).Ends o id e) := by
  -- from the end, so that each event meets the store as its past has left it
  induction more using List.reverseRecOn with
  | nil => exact .inl (by simpa using hc)
  | append_singleton more e ih =>
    rcases ih with ih | ⟨u, v, rfl, ih⟩
    · rcases carries_next ih e with hn | hn | hn
      · rw [← List.append_assoc, ofEvents_concat]
        exact .inl hn
      · exact .inr ⟨more, [e], rfl, .inl hn⟩
      · exact .inr ⟨more, [e], rfl, .inr ⟨e, rfl, hn⟩⟩
    · refine .inr ⟨u, v ++ [e], by simp, ih.imp_right ?_⟩
      rintro ⟨e', he', hn⟩
      exact ⟨e', by cases v <;> simp_all, hn⟩

theorem carries_of_holder (h : c.store.holder c.now o = some id) : c.Carries o id := by
  obtain ⟨l, hl, hid, -⟩ := Store.slot?_of_holder h
  exact ⟨l, hl, hid⟩

/-- The active lease of an object is its record before the expiry. -/
theorem holder_remaining_iff {r : Span} :
    c.store.holder c.now o = some id ∧ c.store.remaining c.now o = some r ↔
      ∃ l, c.store.slot? o = some (some l) ∧ l.holder = id ∧ r = l.expires - c.now ∧
        .zero < r := by
  unfold Store.holder Store.remaining Store.activeLease?
  split
  · next l hl =>
    by_cases ha : l.isActive c.now
    · have hnow : c.now.nanos < l.expires.nanos := of_decide_eq_true ha
      rw [if_pos ha, hl]
      simp only [Option.map_some, Option.some.injEq]
      constructor
      · rintro ⟨rfl, rfl⟩
        exact ⟨l, rfl, rfl, rfl, Nat.sub_pos_of_lt hnow⟩
      · rintro ⟨_, rfl, rfl, rfl, -⟩
        exact ⟨rfl, rfl⟩
    · rw [if_neg ha, hl]
      constructor
      · rintro ⟨hid, -⟩
        cases hid
      · rintro ⟨_, he, rfl, rfl, hpos⟩
        cases he
        exact absurd (decide_eq_true (Nat.lt_of_sub_pos hpos)) ha
  · next hn =>
    constructor
    · rintro ⟨hid, -⟩
      cases hid
    · rintro ⟨l, hl, -⟩
      exact absurd hl (hn l)

/-! ### The service -/

/-- The store is an exclusive lease service.  Whatever has happened to it, the active lease of an
object is that of the acquisition that replaced its record last, and it lasts for the length of that
acquisition after the last acquisition or renewal by its holder.  The lease passes on only after it
has expired or was taken away; a renewal and a release under an id succeed only while the record
carries the id, and fail then only by a fault; no event touches the record of an object it does not
name. -/
theorem exclusive_service (h : List Event) (o : ObjectPath) :
    (∀ id r, (ofEvents h).store.holder (ofEvents h).now o = some id ∧
        (ofEvents h).store.remaining (ofEvents h).now o = some r ↔
      ∃ x secs y, IsLast (Occurrence.Replaces o) (ofEvents h).past x ∧ x.Takes o id secs ∧
        IsLast (Occurrence.Dates o id) (ofEvents h).past y ∧
        r = y.instant + .ofSeconds secs - (ofEvents h).now ∧ .zero < r) ∧
    (∀ more a b, (ofEvents h).store.holder (ofEvents h).now o = some a →
      (ofEvents (h ++ more)).store.holder (ofEvents (h ++ more)).now o = some b → a ≠ b →
      ∃ u v, more = u ++ v ∧
        ((ofEvents (h ++ u)).Expired o a ∨ ∃ e ∈ v.head?, (ofEvents (h ++ u)).Ends o a e)) ∧
    (∀ id r, r = .renew o id ∨ r = .release o id →
      ((((ofEvents h).outcome (.call r)).2.2 = .ok () ↔
        (ofEvents h).store.faults.get r.operation = 0 ∧ (ofEvents h).Carries o id))) ∧
    ∀ e : Event, e.object? ≠ some o →
      ((ofEvents h).next e).store.slot? o = (ofEvents h).store.slot? o := by
  refine ⟨fun id r => ?_, fun more a b ha hb hab => ?_, fun id r hr => ?_,
    fun e => slot?_next_of_ne⟩
  · rw [holder_remaining_iff]
    constructor
    · rintro ⟨l, hl, rfl, hr, hpos⟩
      obtain ⟨x, secs, y, hx, ht, hy, hlen, hexp⟩ := (told_ofEvents h o l).1 hl
      exact ⟨x, secs, y, hx, ht, hy, by rw [hr, hexp, hlen], hpos⟩
    · rintro ⟨x, secs, y, hx, ht, hy, hr, hpos⟩
      exact ⟨⟨id, .ofSeconds secs, y.instant + .ofSeconds secs⟩,
        (told_ofEvents h o _).2 ⟨x, secs, y, hx, ht, hy, rfl, rfl⟩, rfl, hr, hpos⟩
  · rcases carried_or_ended (carries_of_holder ha) more with ⟨l, hl, hla⟩ | hend
    · obtain ⟨l', hl', hlb⟩ := carries_of_holder hb
      rw [hl] at hl'
      cases hl'
      exact absurd (hla.symm.trans hlb) hab
    · exact hend
  · exact Store.serve_ok_iff.trans (and_congr_right fun _ => Store.perform_ok_iff hr)

/-- A lease that is renewed after its expiry, and then runs for a second. -/
def revival : List Event :=
  [.call (.createContainer "c"), .call (.createObject ⟨"c", "o"⟩),
    .call (.acquire ⟨"c", "o"⟩ ⟨"a"⟩ 2), .pass (.ofSeconds 3), .call (.renew ⟨"c", "o"⟩ ⟨"a"⟩),
    .pass (.ofSeconds 1)]

/-- What takes that lease over when it has expired once more. -/
def takeover : List Event := [.pass (.ofSeconds 1), .call (.acquire ⟨"c", "o"⟩ ⟨"b"⟩ 5)]

/-- `exclusive_service` for a lease that is revived, expires again and is taken over. -/
theorem exclusive_service_revived :
    (ofEvents revival).store.holder (ofEvents revival).now ⟨"c", "o"⟩ = some ⟨"a"⟩ ∧
    (ofEvents revival).store.remaining (ofEvents revival).now ⟨"c", "o"⟩ = some (.ofSeconds 1) ∧
    (∃ x secs y, IsLast (Occurrence.Replaces ⟨"c", "o"⟩) (ofEvents revival).past x ∧
      x.Takes ⟨"c", "o"⟩ ⟨"a"⟩ secs ∧
      IsLast (Occurrence.Dates ⟨"c", "o"⟩ ⟨"a"⟩) (ofEvents revival).past y ∧
      Span.ofSeconds 1 = y.instant + .ofSeconds secs - (ofEvents revival).now ∧
      .zero < Span.ofSeconds 1) ∧
    (ofEvents (revival ++ takeover)).store.holder (ofEvents (revival ++ takeover)).now ⟨"c", "o"⟩ =
      some ⟨"b"⟩ ∧
    (∃ u v, takeover = u ++ v ∧ ((ofEvents (revival ++ u)).Expired ⟨"c", "o"⟩ ⟨"a"⟩ ∨
      ∃ e ∈ v.head?, (ofEvents (revival ++ u)).Ends ⟨"c", "o"⟩ ⟨"a"⟩ e)) ∧
    ((ofEvents revival).outcome (.call (.renew ⟨"c", "o"⟩ ⟨"a"⟩))).2.2 = .ok () ∧
    ((ofEvents revival).next (.revoke ⟨"c", "p"⟩)).store.slot? ⟨"c", "o"⟩ =
      (ofEvents revival).store.slot? ⟨"c", "o"⟩ := by
  obtain ⟨hrecord, hpassed, hown, hother⟩ := exclusive_service revival ⟨"c", "o"⟩
  have ha : (ofEvents revival).store.holder (ofEvents revival).now ⟨"c", "o"⟩ = some ⟨"a"⟩ := by
    decide +kernel
  have hleft : (ofEvents revival).store.remaining (ofEvents revival).now ⟨"c", "o"⟩ =
      some (.ofSeconds 1) := by
    decide +kernel
  have hb : (ofEvents (revival ++ takeover)).store.holder (ofEvents (revival ++ takeover)).now
      ⟨"c", "o"⟩ = some ⟨"b"⟩ := by
    decide +kernel
  exact ⟨ha, hleft, (hrecord _ _).1 ⟨ha, hleft⟩, hb, hpassed takeover _ _ ha hb (by decide),
    (hown ⟨"a"⟩ _ (.inl rfl)).2 ⟨by decide +kernel, carries_of_holder ha⟩, hother _ (by decide)⟩

end Chronicle

end Leasehold
