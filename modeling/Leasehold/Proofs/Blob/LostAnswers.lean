import Mathlib.Tactic.Common
import Leasehold.Proofs.Blob.Sending
import Leasehold.Proofs.Lease.Slots
import Leasehold.World.Construction

/-!
# Calls whose answers get lost

A request to a service that keeps a lease store may fail before or after it is carried out, and the
client, which cannot tell, sends it again.

* `Fate`: what may become of a request.
* `Conversation.Keeping`: a service that keeps a lease store in a conversation.  Others may change
  the store between two requests in any way, but containers and objects stay.
* `Conversation.Keeping.promised`: what the result of a call says about the store all the same.
* `Conversation.call_despite_lost_answers`: this and the rules of `Conversation.Regular`, for every
  call that can be sent; the others never leave the client.
-/

namespace Leasehold

namespace Store

variable {s s' : Store} {now : Span} {o : ObjectPath} {id : LeaseId}

/-- Whether an object has a lease record of an instance, expired or not. -/
def HasRecord (s : Store) (o : ObjectPath) (id : LeaseId) : Prop :=
  ∃ lease, s.slot? o = some (some lease) ∧ lease.holder = id

/-- Whether all containers and objects of a store are still there in another one. -/
structure Grows (s s' : Store) : Prop where
  containers : ∀ c ∈ s.containers, c ∈ s'.containers
  objects : ∀ o, (s.slot? o).isSome = true → (s'.slot? o).isSome = true

theorem Grows.refl (s : Store) : s.Grows s := ⟨fun _ h => h, fun _ h => h⟩

theorem Grows.trans {s'' : Store} (h : s.Grows s') (h' : s'.Grows s'') : s.Grows s'' :=
  ⟨fun c hc => h'.containers c (h.containers c hc), fun o ho => h'.objects o (h.objects o ho)⟩

theorem grows_setLease (s : Store) (o : ObjectPath) (l : Option Lease) :
    s.Grows (s.setLease o l) := by
  refine ⟨fun _ h => h, fun o' h => ?_⟩
  rw [slot?_setLease]
  split
  · rw [Option.isSome_map]
    exact h
  · exact h

/-- No call takes a container or an object away. -/
theorem grows_perform (s : Store) (now : Span) (r : Request) : s.Grows (s.perform now r).1 := by
  have hp := s.performs now r
  generalize s.perform now r = y at hp ⊢
  cases hp with
  | refused => exact .refl s
  | housed => exact ⟨fun c' hc => List.mem_append_left _ hc, fun _ h => h⟩
  | @founded o =>
    refine ⟨fun _ h => h, fun o' h => ?_⟩
    obtain ⟨l, hl⟩ := Option.isSome_iff_exists.1 h
    rw [slot?_createObject hl o]
    rfl
  | taken | extended | given => exact grows_setLease s _ _

/-! ### Calls that are made again -/

/-- A release by the holder empties the slot. -/
theorem perform_release_of_record (now : Span) (h : s.HasRecord o id) :
    s.perform now (.release o id) = (s.setLease o none, .ok ()) := by
  obtain ⟨lease, hs, hid⟩ := h
  unfold perform
  dsimp only
  rw [hs]
  exact if_pos hid

/-- A release by anybody else changes nothing. -/
theorem perform_release_of_not_record (now : Span) (h : ¬s.HasRecord o id) :
    ∃ e, s.perform now (.release o id) = (s, .error e) := by
  have hp := s.performs now (.release o id)
  generalize s.perform now (.release o id) = y at hp ⊢
  cases hp with
  | refused => exact ⟨_, rfl⟩
  | given hs => exact absurd ⟨_, hs, rfl⟩ h

/-- An empty slot has no lease to release. -/
theorem perform_release_of_empty (now : Span) (id : LeaseId) (h : s.slot? o = some none) :
    s.perform now (.release o id) = (s, .error .notHolder) := by
  unfold perform
  dsimp only
  rw [h]

theorem slot?_setLease_none (h : s.HasRecord o id) : (s.setLease o none).slot? o = some none := by
  obtain ⟨lease, hs, -⟩ := h
  exact slot?_setLease_self hs none

theorem not_hasRecord_of_empty (h : s.slot? o = some none) : ¬s.HasRecord o id := by
  rintro ⟨lease, hs, -⟩
  rw [h] at hs
  cases hs

/-- After a release that has been carried out there is no record. -/
theorem not_hasRecord_perform_release (s : Store) (now : Span) (o : ObjectPath) (id : LeaseId) :
    ¬(s.perform now (.release o id)).1.HasRecord o id := by
  by_cases h : s.HasRecord o id
  · rw [perform_release_of_record now h]
    exact not_hasRecord_of_empty (slot?_setLease_none h)
  · obtain ⟨e, he⟩ := perform_release_of_not_record now h
    rw [he]
    exact h

theorem mem_of_createContainer {c : String} (h : (s.perform now (.createContainer c)).2 = .ok ()) :
    c ∈ (s.perform now (.createContainer c)).1.containers := by
  have hp := s.performs now (.createContainer c)
  generalize s.perform now (.createContainer c) = y at h hp ⊢
  cases hp with
  | refused => cases h
  | housed => exact List.mem_append_right _ (List.mem_singleton_self c)

theorem mem_of_createObject (h : (s.perform now (.createObject o)).2 = .ok ()) :
    o.container ∈ (s.perform now (.createObject o)).1.containers ∧
      ((s.perform now (.createObject o)).1.slot? o).isSome = true := by
  have hp := s.performs now (.createObject o)
  generalize s.perform now (.createObject o) = y at h hp ⊢
  cases hp with
  | refused => cases h
  | founded hc hs =>
    refine ⟨hc, ?_⟩
    unfold slot? at hs ⊢
    rw [List.lookup_append, hs]
    simp

/-- A container is created once. -/
theorem perform_createContainer_of_mem {c : String} (now : Span) (h : c ∈ s.containers) :
    (s.perform now (.createContainer c)).2 = .error .present := by
  unfold perform
  dsimp only
  rw [if_pos (List.contains_iff_mem.2 h)]

/-- An object is created once. -/
theorem perform_createObject_of_mem (now : Span) (hc : o.container ∈ s.containers)
    (ho : (s.slot? o).isSome = true) :
    (s.perform now (.createObject o)).2 = .error .present ∨
      (s.perform now (.createObject o)).2 = .error .leased := by
  obtain ⟨l, hl⟩ := Option.isSome_iff_exists.1 ho
  unfold perform
  dsimp only
  rw [if_pos (List.contains_iff_mem.2 hc), hl]
  cases l with
  | none => exact .inl rfl
  | some l =>
    dsimp only
    split
    · exact .inr rfl
    · exact .inl rfl

end Store

namespace Blob

/-- What may become of a request to a store at an instant: the store after it and its answer.
Either it is not carried out, or it is and its answer gets lost, or it is and is answered; what the
client takes for the answer where there is none of the store is a failure that may pass. -/
inductive Fate (now : Span) (r : Request) (s : Store) : Store → Answer → Prop
  | unheard {a : Answer} (h : isPassing a = true) : Fate now r s s a
  | unanswered {a : Answer} (h : isPassing a = true) : Fate now r s (s.perform now r).1 a
  | answered : Fate now r s (s.perform now r).1 (s.perform now r).2

namespace Fate

variable {now : Span} {r : Request} {s s' : Store} {a : Answer}

/-- A final answer is the store's. -/
theorem of_final (h : Fate now r s s' a) (hfinal : isPassing a = false) :
    s' = (s.perform now r).1 ∧ a = (s.perform now r).2 := by
  cases h with
  | unheard h => rw [h] at hfinal; cases hfinal
  | unanswered h => rw [h] at hfinal; cases hfinal
  | answered => exact ⟨rfl, rfl⟩

/-- A request is carried out or it leaves the store as it was. -/
theorem store_cases (h : Fate now r s s' a) : s' = s ∨ s' = (s.perform now r).1 := by
  cases h with
  | unheard => exact .inl rfl
  | unanswered => exact .inr rfl
  | answered => exact .inr rfl

theorem grows (h : Fate now r s s' a) : s.Grows s' := by
  rcases h.store_cases with rfl | rfl
  · exact .refl _
  · exact s.grows_perform now r

end Fate

namespace Conversation

variable {σ : Type} {t : Conversation σ} {n : Nat} {o : ObjectPath} {id : LeaseId}

/-- A service that keeps a lease store and takes the requests of a conversation for its call: the
store as the last request has left it, and the store and the instant that the next request meets. -/
structure Keeping (t : Conversation σ) where
  store : σ → Store
  met : σ → Store
  instant : σ → Span
  others : ∀ n, (store (t.left n)).Grows (met (t.state n))
  fate : ∀ n, Fate (instant (t.state n)) t.call (met (t.state n)) (store (t.left (n + 1)))
    (t.answer n)

namespace Keeping

variable (k : t.Keeping)

/-- The store that a number of requests has left. -/
def left (n : Nat) : Store := k.store (t.left n)

/-- The store that a request meets. -/
def found (n : Nat) : Store := k.met (t.state n)

/-- The instant of a request. -/
def time (n : Nat) : Span := k.instant (t.state n)

/-- Whether a request was carried out, with success. -/
def TookEffect (n : Nat) : Prop :=
  k.left (n + 1) = ((k.found n).perform (k.time n) t.call).1 ∧
    ((k.found n).perform (k.time n) t.call).2 = .ok ()

/-- What the result of a call says about the store. -/
structure Promised : Prop where
  /-- After a release that succeeds no record is left. -/
  released : ∀ o id, t.call = .release o id → t.exchange.result = .ok (.ok ()) →
    ¬(k.store t.exchange.state).HasRecord o id
  /-- A release by the holder succeeds unless others touch the object, no answer is final, or the
  first delay cannot be computed. -/
  release_succeeds : ∀ o id, t.call = .release o id → (k.store t.start).HasRecord o id →
    (∀ n < t.exchange.sent.length, (k.found n).slot? o = (k.left n).slot? o) →
    (∃ n < t.limit, isPassing (t.answer n) = false) → t.fault? = none →
    t.exchange.result = .ok (.ok ())
  /-- A release fails with a lost lease only if that is the answer to its first request. -/
  lost_at_once : ∀ o id, t.call = .release o id → t.exchange.result = .ok (.error .notHolder) →
    t.exchange.sent.length = 1 ∧ t.answer 0 = .error .notHolder
  /-- An acquisition that succeeds has set the record with its last request. -/
  acquired : ∀ o id secs, t.call = .acquire o id secs → t.exchange.result = .ok (.ok ()) →
    ∃ n, n + 1 = t.exchange.sent.length ∧ k.TookEffect n ∧
      (k.store t.exchange.state).slot? o =
        some (some ⟨id, .ofSeconds secs, k.time n + .ofSeconds secs⟩)
  /-- A creation that has taken effect before is answered with a resource that exists, which is as
  good as success where a lock is built. -/
  created : t.call.operation = .createContainer ∨ t.call.operation = .createObject →
    (∃ n, n + 1 < t.exchange.sent.length ∧ k.TookEffect n) →
    ∀ a, t.exchange.result = .ok a → isPassing a = false →
    (a = .error .present ∨ t.call.operation = .createObject ∧ a = .error .leased) ∧
      World.creationResult a = .ok ()

variable {k}

/-! ### Single requests -/

theorem left_succ_of_final (k : t.Keeping) (h : isPassing (t.answer n) = false) :
    k.left (n + 1) = ((k.found n).perform (k.time n) t.call).1 ∧
      t.answer n = ((k.found n).perform (k.time n) t.call).2 :=
  (k.fate n).of_final h

/-- Between two requests, and by a request, no container and no object goes. -/
theorem grows (k : t.Keeping) {m : Nat} (h : m ≤ n) : (k.left m).Grows (k.left n) := by
  induction n, h using Nat.le_induction with
  | base => exact .refl _
  | succ n _ ih => exact ih.trans ((k.others n).trans (k.fate n).grows)

/-- A release leaves the record in its place or empties the slot. -/
theorem release_step (hcall : t.call = .release o id)
    (halone : (k.found n).slot? o = (k.left n).slot? o)
    (h : (k.left n).HasRecord o id ∨ (k.left n).slot? o = some none) :
    (k.left (n + 1)).HasRecord o id ∨ (k.left (n + 1)).slot? o = some none := by
  have hfound : (k.found n).HasRecord o id ∨ (k.found n).slot? o = some none := by
    unfold Store.HasRecord
    rw [halone]
    exact h
  rcases (k.fate n).store_cases with hs | hs
  · change k.left (n + 1) = k.found n at hs
    rw [hs]
    exact hfound
  · change k.left (n + 1) = ((k.found n).perform (k.time n) t.call).1 at hs
    rw [hs, hcall]
    rcases hfound with hrecord | hempty
    · rw [Store.perform_release_of_record _ hrecord]
      exact .inr (Store.slot?_setLease_none hrecord)
    · rw [Store.perform_release_of_empty _ _ hempty]
      exact .inr hempty

/-- As long as nobody else touches the object, the record is there or an earlier request has removed
it. -/
theorem release_run (hcall : t.call = .release o id) (hstart : (k.store t.start).HasRecord o id)
    (halone : ∀ i < n, (k.found i).slot? o = (k.left i).slot? o) :
    (k.left n).HasRecord o id ∨ 0 < n ∧ (k.left n).slot? o = some none := by
  induction n with
  | zero => exact .inl hstart
  | succ n ih =>
    have hn := ih fun i hi => halone i (Nat.lt_succ_of_lt hi)
    exact (release_step hcall (halone n (Nat.lt_succ_self n)) (hn.imp_right And.right)).imp_right
      fun hempty => ⟨Nat.succ_pos n, hempty⟩

/-! ### Whole calls -/

theorem released (k : t.Keeping) (hcall : t.call = .release o id) (h : t.verdict n = .ok ()) :
    ¬(k.left (n + 1)).HasRecord o id := by
  have hfinal : isPassing (t.answer n) = false := by
    rw [← isPassing_verdict, h]
    rfl
  rw [(k.left_succ_of_final hfinal).1, hcall]
  exact Store.not_hasRecord_perform_release _ _ _ _

theorem release_succeeds (k : t.Keeping) (hcall : t.call = .release o id)
    (hstart : (k.store t.start).HasRecord o id)
    (halone : ∀ i < n + 1, (k.found i).slot? o = (k.left i).slot? o)
    (hfinal : isPassing (t.answer n) = false) : t.verdict n = .ok () := by
  have hanswer := (k.left_succ_of_final hfinal).2
  rw [hcall] at hanswer
  have hfound := halone n (Nat.lt_succ_self n)
  rcases release_run hcall hstart fun i hi => halone i (Nat.lt_succ_of_lt hi) with
    hrecord | ⟨hn, hempty⟩
  · have : (k.found n).HasRecord o id := by
      unfold Store.HasRecord
      rw [hfound]
      exact hrecord
    rw [Store.perform_release_of_record _ this] at hanswer
    unfold verdict
    rw [hanswer, ite_self]
  · -- An earlier request has released the lease, so this one finds none, which counts as success.
    rw [Store.perform_release_of_empty _ _ (hfound.trans hempty)] at hanswer
    unfold verdict
    rw [hcall, if_pos ⟨rfl, hanswer, hn⟩]

theorem lost_at_once (hcall : t.call = .release o id) (h : t.verdict n = .error .notHolder) :
    n = 0 ∧ t.answer 0 = .error .notHolder := by
  unfold verdict at h
  split at h
  · cases h
  · next hnot =>
    obtain rfl : n = 0 := by
      by_contra hn
      exact hnot ⟨by rw [hcall]; rfl, h, Nat.pos_of_ne_zero hn⟩
    exact ⟨rfl, h⟩

theorem acquired {secs : Nat} (k : t.Keeping) (hcall : t.call = .acquire o id secs)
    (h : t.verdict n = .ok ()) :
    k.TookEffect n ∧ (k.left (n + 1)).slot? o =
      some (some ⟨id, .ofSeconds secs, k.time n + .ofSeconds secs⟩) := by
  rw [verdict_of_ne_release (by rw [hcall]; exact Operation.noConfusion)] at h
  obtain ⟨hleft, hanswer⟩ := k.left_succ_of_final (n := n) (by rw [h]; rfl)
  have hok := hanswer.symm.trans h
  refine ⟨⟨hleft, hok⟩, ?_⟩
  rw [hleft]
  rw [hcall] at hok ⊢
  exact Store.slot?_perform_acquire hok

/-- A creation whose effect is there already is refused in one of the two ways that count as
success. -/
theorem created (k : t.Keeping) {m : Nat} (hm : m < n) (htook : k.TookEffect m)
    (hcall : t.call.operation = .createContainer ∨ t.call.operation = .createObject)
    (hfinal : isPassing (t.answer n) = false) :
    t.answer n = .error .present ∨
      t.call.operation = .createObject ∧ t.answer n = .error .leased := by
  obtain ⟨hleft, hok⟩ := htook
  have hgrown := (k.grows hm).trans (k.others n)
  rw [(k.left_succ_of_final hfinal).2]
  rw [hleft] at hgrown
  -- What the earlier request has created is still there when the last one arrives.
  cases hr : t.call with
  | createContainer c =>
    rw [hr] at hgrown hok
    have hc := hgrown.containers c (Store.mem_of_createContainer hok)
    exact .inl (Store.perform_createContainer_of_mem _ hc)
  | createObject o =>
    rw [hr] at hgrown hok
    obtain ⟨hc, ho⟩ := Store.mem_of_createObject hok
    exact (Store.perform_createObject_of_mem _ (hgrown.containers _ hc)
      (hgrown.objects o ho)).imp_right fun h => ⟨rfl, h⟩
  | _ =>
    rw [hr] at hcall
    rcases hcall with h | h <;> cases h

/-- A call that has an answer has ended with a request, and has its verdict. -/
theorem exists_endsWith (hsend : t.client.CanSend t.call) {a : Answer}
    (h : t.exchange.result = .ok a) : ∃ n, t.EndsWith n ∧ a = t.verdict n ∧
      t.exchange.sent.length = n + 1 ∧ t.exchange.state = t.left (n + 1) := by
  cases hfault : t.fault? with
  | some e =>
    rw [exchange_of_fault hsend hfault] at h
    cases h
  | none =>
    obtain ⟨n, hn⟩ := t.exists_last
    rw [exchange_eq hsend hfault hn] at h ⊢
    refine ⟨n, hn, (Except.ok.inj h).symm, ?_, rfl⟩
    rw [List.length_map, List.length_range]

theorem promised (k : t.Keeping) (hsend : t.client.CanSend t.call) : k.Promised := by
  refine ⟨?_, ?_, ?_, ?_, ?_⟩
  · intro o id hcall h
    obtain ⟨n, -, ha, -, hleft⟩ := exists_endsWith hsend h
    rw [hleft]
    exact k.released hcall ha.symm
  · rintro o id hcall hstart halone ⟨m, hm, hfinal⟩ hfault
    obtain ⟨n, hn⟩ := t.exists_last
    rw [exchange_eq hsend hfault hn] at halone ⊢
    rw [List.length_map, List.length_range] at halone
    exact congrArg _ (k.release_succeeds hcall hstart halone (hn.final hm hfinal))
  · intro o id hcall h
    obtain ⟨n, -, ha, hlength, -⟩ := exists_endsWith hsend h
    obtain ⟨rfl, h0⟩ := lost_at_once hcall ha.symm
    exact ⟨hlength, h0⟩
  · intro o id secs hcall h
    obtain ⟨n, -, ha, hlength, hleft⟩ := exists_endsWith hsend h
    rw [hleft]
    exact ⟨n, hlength.symm, k.acquired hcall ha.symm⟩
  · rintro hcall ⟨m, hm, htook⟩ a h hfinal
    obtain ⟨n, -, rfl, hlength, -⟩ := exists_endsWith hsend h
    have hcreated : t.verdict n = t.answer n := by
      refine verdict_of_ne_release fun h => ?_
      rw [h] at hcall
      rcases hcall with h | h <;> cases h
    rw [isPassing_verdict] at hfinal
    rw [hlength] at hm
    rw [hcreated]
    have h := k.created (Nat.lt_of_succ_lt_succ hm) htook hcall hfinal
    refine ⟨h, ?_⟩
    rcases h with h | ⟨-, h⟩ <;> rw [h] <;> rfl

end Keeping

/-- **Calls survive lost answers.**  A call that cannot be sent fails at once, and the service never
hears of it.  Any other call is sent until an answer is final or the limit is reached, unless its
first delay cannot be computed, and its result keeps its promises about the store of a service that
keeps one. -/
theorem call_despite_lost_answers (t : Conversation σ) :
    (¬t.client.CanSend t.call →
      t.exchange = ⟨[], .ok (.error (.http .unsendable)), t.start⟩) ∧
      (t.client.CanSend t.call → t.Regular ∧ ∀ k : t.Keeping, k.Promised) :=
  ⟨exchange_of_not_canSend, fun hsend => ⟨regular hsend, fun k => k.promised hsend⟩⟩

end Conversation

/-! ### A release whose answer is lost -/

/-- A client of a plain service that speaks some version of its interface. -/
def versionClient (version : String) : Client where
  endpoint := ⟨"http", "", "", some (.domain "acct.blob.core.windows.net"), none, "/", none, none⟩
  account := "acct"
  key := []
  settings := { Settings.standard with version := version }

/-- An object with a lease. -/
def leasedObject : ObjectPath := ⟨"box", "lid"⟩

/-- Its holder. -/
def leaseholder : LeaseId := ⟨"x"⟩

/-- A store in which the object is leased. -/
def leasedStore : Store where
  containers := ["box"]
  objects := [(leasedObject, some ⟨leaseholder, .ofSeconds 15, .ofSeconds 15⟩)]
  faults := .const 0
  calls := .const 0

/-- What a service replies for an answer to a release. -/
def releaseReply : Answer → Reply
  | .ok () => .answered 200 none
  | .error .notHolder => .answered 409 (some "LeaseLost")
  | .error _ => .answered 404 (some "BlobNotFound")

theorem answer_releaseReply (s : Store) (now : Span) (o : ObjectPath) (id : LeaseId) :
    (releaseReply (s.perform now (.release o id)).2).answer =
      (s.perform now (.release o id)).2 := by
  unfold Store.perform
  dsimp only
  split
  · rfl
  · rfl
  · split <;> rfl

/-- A service that takes every message for a release, and closes its first connection without an
answer. -/
def droppingService : Service (Store × Nat) where
  reply s _ :=
    let (store, a) := s.1.perform .zero (.release leasedObject leaseholder)
    ((store, s.2 + 1), if s.2 = 0 then .dropped else releaseReply a)
  lag _ _ := .zero
  clock _ := 0
  wait s _ := s
  draw _ := .middle

/-- A release whose first answer is lost. -/
def droppedRelease : Conversation (Store × Nat) :=
  ⟨versionClient "2016-05-31", droppingService, .release leasedObject leaseholder, (leasedStore, 0)⟩

theorem answer_droppedRelease (s : Store × Nat) : (droppedRelease.ask s).2 =
    if s.2 = 0 then .error (.http .connection)
    else (s.1.perform .zero (.release leasedObject leaseholder)).2 := by
  have hnoticed (r : Reply) : r.noticed (.ofSeconds 30) .zero = r := if_neg (by decide)
  show (Reply.noticed (.ofSeconds 30) .zero
    (if s.2 = 0 then .dropped else releaseReply _)).answer = _
  rw [hnoticed]
  split
  · rfl
  · exact answer_releaseReply _ _ _ _

theorem fate_droppedRelease (s : Store × Nat) :
    Fate .zero (.release leasedObject leaseholder) s.1 (droppedRelease.ask s).1.1
      (droppedRelease.ask s).2 := by
  rw [answer_droppedRelease]
  by_cases h : s.2 = 0
  · rw [if_pos h]
    exact .unanswered rfl
  · rw [if_neg h]
    exact .answered

theorem faultless_droppedRelease : droppedRelease.fault? = none :=
  Conversation.fault?_of_lt (by decide)

theorem state_droppedRelease (n : Nat) : droppedRelease.state n = droppedRelease.left n :=
  Conversation.state_eq_left (fun _ _ => rfl) (by decide) n

/-- The service keeps the store. -/
def droppedReleaseKeeping : droppedRelease.Keeping where
  store := Prod.fst
  met := Prod.fst
  instant _ := .zero
  others n := by
    rw [state_droppedRelease]
    exact .refl _
  fate n := fate_droppedRelease (droppedRelease.state n)

/-- The release is sent twice, succeeds, and leaves no lease. -/
theorem call_despite_lost_answers_dropped :
    droppedRelease.client.CanSend droppedRelease.call ∧
      droppedRelease.exchange.sent.length = 2 ∧ droppedRelease.exchange.result = .ok (.ok ()) ∧
      ¬(droppedReleaseKeeping.store droppedRelease.exchange.state).HasRecord leasedObject
        leaseholder := by
  have hsend : droppedRelease.client.CanSend droppedRelease.call := by decide +kernel
  obtain ⟨hregular, hkeeping⟩ := (Conversation.call_despite_lost_answers droppedRelease).2 hsend
  have hpromised := hkeeping droppedReleaseKeeping
  have hfinal : isPassing (droppedRelease.answer 1) = false := by
    unfold Conversation.answer
    rw [state_droppedRelease, answer_droppedRelease]
    rfl
  have hok : droppedRelease.exchange.result = .ok (.ok ()) := by
    refine hpromised.release_succeeds leasedObject leaseholder rfl ⟨_, rfl, rfl⟩ (fun n _ => ?_)
      ⟨1, by decide, hfinal⟩ faultless_droppedRelease
    exact congrArg (fun s : Store × Nat => s.1.slot? leasedObject) (state_droppedRelease n)
  refine ⟨hsend, ?_, hok, hpromised.released leasedObject leaseholder rfl hok⟩
  refine hregular.count_of_final faultless_droppedRelease 1 ?_ hfinal
  intro i hi
  obtain rfl : i = 0 := by omega
  unfold Conversation.answer
  rw [answer_droppedRelease]
  rfl

/-- The creation of a container by a client whose version is no header value, at a service that
answers all requests with success. -/
def unsendableCreation : Conversation Script :=
  ⟨versionClient "a\x01b", Script.service, .createContainer "box", ⟨[], .answered 201 none, [], 0⟩⟩

/-- Nothing is sent, though the answer to the first request would be final. -/
theorem sends_nothing :
    isPassing (unsendableCreation.answer 0) = false ∧
      unsendableCreation.exchange.sent.length ≠ min unsendableCreation.limit (0 + 1) := by
  have hsend : ¬unsendableCreation.client.CanSend unsendableCreation.call := by decide +kernel
  rw [Conversation.exchange_of_not_canSend hsend]
  exact ⟨rfl, by decide⟩

end Blob

end Leasehold
