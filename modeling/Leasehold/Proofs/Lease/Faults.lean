import Mathlib.Data.List.Induction
import Mathlib.Tactic.Common
import Leasehold.Proofs.Lease.History

/-!
# Failed calls leave no trace

Beside its contents, the containers and the objects with their lease records, a store keeps two
books: the faults that are left for each operation, and the calls of each operation.  The rules of
the service neither read nor write the books, and a call that fails writes nothing else.

* `Store.perform_cases`, `Store.perform_withBooks`: what the rules do to the contents and the books.
* `Store.serve_injected_iff`, `Store.faults_serve`, `Store.callsOf_serve`: what a call does to the
  books.
* `Chronicle.callsOf_ofEvents`, `Chronicle.faults_ofEvents`: the books, read off a history.
* `Chronicle.withoutFaults`, `Chronicle.purged_ofEvents`: a history next to itself without faults.
* `Chronicle.faults_leave_no_trace`: which calls fail by a fault, and that nothing is changed by it.
-/

namespace Leasehold

namespace Store

variable {s s' : Store} {now : Span} {r : Request} {e : CallFailure}

/-! ### Contents and books -/

/-- The store with other books. -/
def withBooks (s : Store) (faults calls : PerOperation Nat) : Store :=
  { s with faults := faults, calls := calls }

/-- The same containers, and the same objects with the same lease records. -/
structure SameContents (s s' : Store) : Prop where
  containers : s'.containers = s.containers
  objects : s'.objects = s.objects

theorem SameContents.eq_withBooks (h : s.SameContents s') :
    s' = s.withBooks s'.faults s'.calls := by
  obtain ⟨containers, objects, faults, calls⟩ := s'
  obtain ⟨hc, ho⟩ := h
  dsimp only at hc ho
  rw [hc, ho]
  rfl

/-- The rules of the service allow a call, or they refuse it and leave the store as it was.  None of
their refusals looks like a fault. -/
theorem perform_cases (s : Store) (now : Span) (r : Request) :
    (s.perform now r).2 = .ok () ∨ ∃ e, e ≠ injectedFailure ∧ s.perform now r = (s, .error e) := by
  have hp := s.performs now r
  generalize s.perform now r = y at hp ⊢
  cases hp with
  | refused he => exact .inr ⟨_, he, rfl⟩
  | housed | founded | taken | extended | given => exact .inl rfl

/-- The rules of the service neither read nor write the books. -/
theorem perform_withBooks (s : Store) (faults calls : PerOperation Nat) (now : Span) (r : Request) :
    (s.withBooks faults calls).perform now r =
      ((s.perform now r).1.withBooks faults calls, (s.perform now r).2) := by
  have hslot (o : ObjectPath) : (s.withBooks faults calls).slot? o = s.slot? o := rfl
  have hcontainers : (s.withBooks faults calls).containers = s.containers := rfl
  unfold perform
  cases r with
  | createContainer c =>
    dsimp only
    rw [hcontainers]
    split <;> rfl
  | createObject o =>
    dsimp only
    rw [hcontainers, hslot]
    split
    · split <;> rfl
    · rfl
  | acquire o id secs =>
    dsimp only
    rw [hslot]
    split
    · rfl
    · rfl
    · split <;> rfl
  | renew o id | release o id =>
    dsimp only
    rw [hslot]
    split
    · rfl
    · rfl
    · split <;> rfl

theorem faults_perform (s : Store) (now : Span) (r : Request) :
    (s.perform now r).1.faults = s.faults :=
  congrArg (·.1.faults) (s.perform_withBooks s.faults s.calls now r)

theorem calls_perform (s : Store) (now : Span) (r : Request) :
    (s.perform now r).1.calls = s.calls :=
  congrArg (·.1.calls) (s.perform_withBooks s.faults s.calls now r)

/-! ### One call -/

/-- Without a fault a call is answered by the rules of the service. -/
theorem serve_of_faultless (h : s.faults.get r.operation = 0) (now : Span) :
    s.serve now r = (s.count r.operation).perform now r := by
  unfold serve
  dsimp only
  rw [h]

theorem serve_eq (h : s.faults = .const 0) (now : Span) (r : Request) :
    s.serve now r = (s.count r.operation).perform now r :=
  serve_of_faultless (by rw [h, PerOperation.get_const]) now

/-- A fault that is left for an operation lets a call fail, and is used up. -/
theorem serve_of_fault (h : 0 < s.faults.get r.operation) (now : Span) :
    s.serve now r =
      ((s.count r.operation).withBooks
        (s.faults.set r.operation (s.faults.get r.operation - 1)) (s.count r.operation).calls,
        .error injectedFailure) := by
  unfold serve
  dsimp only
  split
  · next h0 => exact absurd h0 (Nat.ne_of_gt h)
  · next left hleft => rw [hleft]; rfl

/-- A call fails by a fault exactly if one is left for its operation. -/
theorem serve_injected_iff :
    (s.serve now r).2 = .error injectedFailure ↔ 0 < s.faults.get r.operation := by
  rcases Nat.eq_zero_or_pos (s.faults.get r.operation) with h | h
  · rw [serve_of_faultless h]
    rcases perform_cases (s.count r.operation) now r with hok | ⟨e, hne, he⟩
    · rw [hok, h]
      simp
    · rw [he, h]
      simp [hne]
  · simp [serve_of_fault h, h]

/-- A call uses up one fault of its operation, if there is one, and none of another. -/
theorem faults_serve (s : Store) (now : Span) (r : Request) (op : Operation) :
    (s.serve now r).1.faults.get op =
      s.faults.get op - if r.operation = op then 1 else 0 := by
  rcases Nat.eq_zero_or_pos (s.faults.get r.operation) with h | h
  · rw [serve_of_faultless h, faults_perform]
    show s.faults.get op = _
    split
    · next hop => rw [← hop, h]
    · rfl
  · rw [serve_of_fault h]
    show (s.faults.set _ _).get op = _
    rw [PerOperation.get_set]
    split
    · next hop => rw [if_pos hop.symm, hop]
    · next hop => rw [if_neg (Ne.symm hop), Nat.sub_zero]

/-- Every call is counted once under its own operation, and under no other. -/
theorem callsOf_serve (s : Store) (now : Span) (r : Request) (op : Operation) :
    (s.serve now r).1.callsOf op = s.callsOf op + if r.operation = op then 1 else 0 := by
  have hcount : (s.count r.operation).calls.get op =
      s.callsOf op + if r.operation = op then 1 else 0 := by
    show (s.calls.set _ _).get op = _
    rw [PerOperation.get_set]
    split
    · next hop => rw [if_pos hop.symm, hop]; rfl
    · next hop => rw [if_neg (Ne.symm hop)]; rfl
  rw [← hcount]
  rcases Nat.eq_zero_or_pos (s.faults.get r.operation) with h | h
  · rw [serve_of_faultless h]
    unfold callsOf
    rw [calls_perform]
  · rw [serve_of_fault h]
    rfl

/-- A call that fails leaves the contents of the store as they were. -/
theorem sameContents_of_error (h : (s.serve now r).2 = .error e) :
    s.SameContents (s.serve now r).1 := by
  rcases Nat.eq_zero_or_pos (s.faults.get r.operation) with h0 | hpos
  · rw [serve_of_faultless h0] at h ⊢
    rcases perform_cases (s.count r.operation) now r with hok | ⟨e', -, he⟩
    · cases hok.symm.trans h
    · rw [he]
      exact ⟨rfl, rfl⟩
  · rw [serve_of_fault hpos]
    exact ⟨rfl, rfl⟩

/-- A call without a fault does the same to stores with the same contents, and is answered the same
by both. -/
theorem SameContents.serve (h : s.SameContents s') (now : Span)
    (hs : s.faults.get r.operation = 0) (hs' : s'.faults.get r.operation = 0) :
    (s.serve now r).1.SameContents (s'.serve now r).1 ∧ (s'.serve now r).2 = (s.serve now r).2 := by
  rw [serve_of_faultless hs, serve_of_faultless hs']
  have hbooks : s'.count r.operation =
      (s.count r.operation).withBooks s'.faults (s'.count r.operation).calls :=
    SameContents.eq_withBooks (s := s.count r.operation) ⟨h.containers, h.objects⟩
  rw [hbooks, perform_withBooks]
  exact ⟨⟨rfl, rfl⟩, rfl⟩

end Store

/-! ### The books of a history -/

namespace Event

/-- A call of an operation. -/
def isCallOf (op : Operation) : Event → Bool
  | call r => r.operation = op
  | _ => false

/-- Faults are injected for an operation; those left from before are forgotten. -/
def Injects (op : Operation) (e : Event) : Prop := ∃ count, e = inject op count

end Event

namespace Chronicle

variable {c c' : Chronicle} {op : Operation} {h before after : List Event} {e : Event}

theorem callsOf_next (c : Chronicle) (e : Event) (op : Operation) :
    (c.next e).store.callsOf op = c.store.callsOf op + if e.isCallOf op then 1 else 0 := by
  cases e with
  | call r =>
    refine (Store.callsOf_serve c.store c.now r op).trans ?_
    simp only [Event.isCallOf, decide_eq_true_eq]
  | revoke o | inject op' count | pass d => rfl

/-- Every call of an operation has been counted, whatever it was answered. -/
theorem callsOf_ofEvents (h : List Event) (op : Operation) :
    (ofEvents h).store.callsOf op = h.countP (·.isCallOf op) := by
  induction h using List.reverseRecOn with
  | nil => cases op <;> rfl
  | append_singleton h e ih =>
    rw [ofEvents_concat, callsOf_next, ih, List.countP_append, List.countP_singleton]

theorem faults_next (he : ¬e.Injects op) :
    (c.next e).store.faults.get op =
      c.store.faults.get op - if e.isCallOf op then 1 else 0 := by
  cases e with
  | call r =>
    refine (Store.faults_serve c.store c.now r op).trans ?_
    simp only [Event.isCallOf, decide_eq_true_eq]
  | inject op' count =>
    have hop : op ≠ op' := fun h => he ⟨count, by rw [h]⟩
    refine (PerOperation.get_set ..).trans ?_
    rw [if_neg hop]
    rfl
  | revoke o | pass d => rfl

/-- Of the faults injected last for an operation those are left that its calls since then have not
used up. -/
theorem faults_ofEvents (before : List Event) (op : Operation) (count : Nat)
    (hafter : ∀ e ∈ after, ¬e.Injects op) :
    (ofEvents (before ++ .inject op count :: after)).store.faults.get op =
      count - after.countP (·.isCallOf op) := by
  induction after using List.reverseRecOn with
  | nil =>
    rw [ofEvents_concat]
    refine (PerOperation.get_set ..).trans ?_
    rw [if_pos rfl]
    rfl
  | append_singleton after e ih =>
    have hrest := ih fun e he => hafter e (List.mem_append_left _ he)
    have he := hafter e (List.mem_append_right _ (List.mem_singleton.2 rfl))
    rw [← List.cons_append, ← List.append_assoc, ofEvents_concat, faults_next he, hrest,
      List.countP_append, List.countP_singleton, Nat.sub_sub]

/-- Without an injection for it an operation has no faults. -/
theorem faults_ofEvents_of_none (hh : ∀ e ∈ h, ¬e.Injects op) :
    (ofEvents h).store.faults.get op = 0 := by
  induction h using List.reverseRecOn with
  | nil => cases op <;> rfl
  | append_singleton h e ih =>
    have hrest := ih fun e he => hh e (List.mem_append_left _ he)
    have he := hh e (List.mem_append_right _ (List.mem_singleton.2 rfl))
    rw [ofEvents_concat, faults_next he, hrest, Nat.zero_sub]

end Chronicle

/-! ### A history without its faults -/

/-- What is there only for the sake of faults: that they are injected, and the calls that they let
fail. -/
def Occurrence.isArtificial (x : Occurrence) : Bool :=
  match x.event with
  | .inject .. => true
  | .call _ => x.answer = .error Store.injectedFailure
  | .revoke _ | .pass _ => false

namespace Chronicle

variable {c c' : Chronicle} {h before after : List Event} {e : Event}

/-- An event as it happens now. -/
def occurrence (c : Chronicle) (e : Event) : Occurrence := ⟨c.now, e, (c.outcome e).2.2⟩

/-- A history without the injections and without the calls that failed by them. -/
def withoutFaults (h : List Event) : List Event :=
  ((ofEvents h).past.filter fun x => !x.isArtificial).map (·.event)

theorem past_next (c : Chronicle) (e : Event) : (c.next e).past = c.past ++ [c.occurrence e] := rfl

theorem withoutFaults_concat_of_artificial (ha : ((ofEvents h).occurrence e).isArtificial = true) :
    withoutFaults (h ++ [e]) = withoutFaults h := by
  unfold withoutFaults
  rw [ofEvents_concat, past_next, List.filter_append, List.filter_cons_of_neg (by simp [ha])]
  simp

theorem withoutFaults_concat_of_not (ha : ((ofEvents h).occurrence e).isArtificial = false) :
    withoutFaults (h ++ [e]) = withoutFaults h ++ [e] := by
  unfold withoutFaults
  rw [ofEvents_concat, past_next, List.filter_append, List.filter_cons_of_pos (by simp [ha])]
  simp [occurrence]

/-- Less of a history leaves less of it without its faults. -/
theorem withoutFaults_append (before after : List Event) :
    withoutFaults before <+: withoutFaults (before ++ after) := by
  induction after using List.reverseRecOn with
  | nil => simp
  | append_singleton after e ih =>
    rw [← List.append_assoc]
    by_cases ha : ((ofEvents (before ++ after)).occurrence e).isArtificial = true
    · rw [withoutFaults_concat_of_artificial ha]
      exact ih
    · rw [withoutFaults_concat_of_not (Bool.not_eq_true _ ▸ ha)]
      exact ih.trans (List.prefix_append _ _)

/-- A chronicle and the one that is left of it without faults: the same contents at the same
instant, and of the past what is not artificial, with the same answers. -/
structure Purged (c c' : Chronicle) : Prop where
  contents : c.store.SameContents c'.store
  now : c'.now = c.now
  past : c'.past = c.past.filter fun x => !x.isArtificial
  faultless : c'.store.faults = .const 0

/-- What is artificial changes nothing. -/
theorem Purged.skip (hp : c.Purged c') (ha : (c.occurrence e).isArtificial = true) :
    (c.next e).Purged c' := by
  have hpast : c'.past = (c.next e).past.filter fun x => !x.isArtificial := by
    rw [past_next, List.filter_append, List.filter_cons_of_neg (by simp [ha]), hp.past]
    simp
  cases e with
  | call r =>
    have hfail : (c.store.serve c.now r).2 = .error Store.injectedFailure := of_decide_eq_true ha
    have hsame := Store.sameContents_of_error hfail
    exact ⟨⟨hp.contents.containers.trans hsame.containers.symm,
      hp.contents.objects.trans hsame.objects.symm⟩, hp.now, hpast, hp.faultless⟩
  | inject op count =>
    exact ⟨⟨hp.contents.containers, hp.contents.objects⟩, hp.now, hpast, hp.faultless⟩
  | revoke o | pass d => cases ha

/-- What is not artificial does the same without faults, and is answered the same. -/
theorem Purged.next (hp : c.Purged c') (ha : (c.occurrence e).isArtificial = false) :
    (c.next e).Purged (c'.next e) := by
  have hpast (hanswer : (c'.outcome e).2.2 = (c.outcome e).2.2) :
      (c'.next e).past = (c.next e).past.filter fun x => !x.isArtificial := by
    rw [past_next, past_next, List.filter_append, List.filter_cons_of_pos (by simp [ha]), hp.past]
    unfold occurrence
    rw [hanswer, hp.now]
    rfl
  cases e with
  | call r =>
    have hc : c.store.faults.get r.operation = 0 :=
      Nat.eq_zero_of_not_pos (mt Store.serve_injected_iff.2 (of_decide_eq_false ha))
    have hc' : c'.store.faults.get r.operation = 0 := by
      rw [hp.faultless, PerOperation.get_const]
    obtain ⟨hsame, hanswer⟩ := hp.contents.serve c.now hc hc'
    refine ⟨?_, hp.now, hpast ?_, ?_⟩
    · show c.store.serve c.now r |>.1.SameContents (c'.store.serve c'.now r).1
      rw [hp.now]
      exact hsame
    · show (c'.store.serve c'.now r).2 = _
      rw [hp.now]
      exact hanswer
    · show (c'.store.serve c'.now r).1.faults = _
      rw [Store.serve_eq hp.faultless, Store.faults_perform]
      exact hp.faultless
  | revoke o =>
    refine ⟨⟨hp.contents.containers, ?_⟩, hp.now, hpast rfl, hp.faultless⟩
    exact congrArg (List.map _) hp.contents.objects
  | inject op count => cases ha
  | pass d => exact ⟨hp.contents, congrArg (· + d) hp.now, hpast rfl, hp.faultless⟩

theorem purged_ofEvents (h : List Event) : (ofEvents h).Purged (ofEvents (withoutFaults h)) := by
  induction h using List.reverseRecOn with
  | nil => exact ⟨⟨rfl, rfl⟩, rfl, rfl, rfl⟩
  | append_singleton h e ih =>
    rw [ofEvents_concat]
    by_cases ha : ((ofEvents h).occurrence e).isArtificial = true
    · rw [withoutFaults_concat_of_artificial ha]
      exact ih.skip ha
    · rw [Bool.not_eq_true] at ha
      rw [withoutFaults_concat_of_not ha, ofEvents_concat]
      exact ih.next ha

/-! ### Faults -/

/-- Failed calls have no effect.  Whatever has happened to a store, a call that is answered with an
error leaves its contents as they were; every call has been counted once under its operation.  The
calls that fail by a fault are the first after an injection for their operation, as many as it says
and no others, up to the next injection for that operation.  Without the injections and the calls
that failed by them a history has the same contents after each of its parts, and every other event
is answered the same at the same instant. -/
theorem faults_leave_no_trace (h : List Event) :
    (∀ r e, ((ofEvents h).outcome (.call r)).2.2 = .error e →
      (ofEvents h).store.SameContents ((ofEvents h).next (.call r)).store) ∧
    (∀ op, (ofEvents h).store.callsOf op = h.countP (·.isCallOf op)) ∧
    (∀ before op count after, h = before ++ .inject op count :: after →
      (∀ e ∈ after, ¬e.Injects op) → ∀ r, r.operation = op →
        (((ofEvents h).outcome (.call r)).2.2 = .error (.status 500 (some "InternalError")) ↔
          after.countP (·.isCallOf op) < count)) ∧
    (∀ r, (∀ e ∈ h, ¬e.Injects r.operation) →
      ((ofEvents h).outcome (.call r)).2.2 ≠ .error (.status 500 (some "InternalError"))) ∧
    (ofEvents (withoutFaults h)).past = ((ofEvents h).past.filter fun x => !x.isArtificial) ∧
    ∀ before after, h = before ++ after → withoutFaults before <+: withoutFaults h ∧
      (ofEvents (withoutFaults before)).now = (ofEvents before).now ∧
      (ofEvents before).store.SameContents (ofEvents (withoutFaults before)).store := by
  refine ⟨fun r e he => Store.sameContents_of_error he, callsOf_ofEvents h, ?_, fun r hh => ?_,
    (purged_ofEvents h).past, ?_⟩
  · rintro before op count after rfl hafter r rfl
    refine Store.serve_injected_iff.trans ?_
    rw [faults_ofEvents before r.operation count hafter]
    exact Nat.sub_pos_iff_lt
  · refine mt Store.serve_injected_iff.1 ?_
    rw [faults_ofEvents_of_none hh]
    exact Nat.lt_irrefl 0
  · rintro before after rfl
    exact ⟨withoutFaults_append before after, (purged_ofEvents before).now,
      (purged_ofEvents before).contents⟩

/-- A history in which faults for acquisitions are replaced by fewer of them. -/
def faulty : List Event :=
  [.call (.createContainer "c"), .call (.createObject ⟨"c", "o"⟩), .inject .acquire 5,
    .call (.acquire ⟨"c", "o"⟩ ⟨"a"⟩ 15), .inject .acquire 1, .call (.acquire ⟨"c", "o"⟩ ⟨"a"⟩ 15),
    .pass (.ofSeconds 1), .call (.acquire ⟨"c", "o"⟩ ⟨"b"⟩ 15)]

/-- `faults_leave_no_trace` for that history: what is left of it, and the calls that come next. -/
theorem faults_leave_no_trace_replaced :
    withoutFaults faulty = [.call (.createContainer "c"), .call (.createObject ⟨"c", "o"⟩),
      .pass (.ofSeconds 1), .call (.acquire ⟨"c", "o"⟩ ⟨"b"⟩ 15)] ∧
    ((ofEvents faulty).outcome (.call (.acquire ⟨"c", "o"⟩ ⟨"a"⟩ 15))).2.2 = .error .heldByOther ∧
    (ofEvents faulty).store.SameContents
      ((ofEvents faulty).next (.call (.acquire ⟨"c", "o"⟩ ⟨"a"⟩ 15))).store ∧
    (ofEvents faulty).store.callsOf .acquire = 3 ∧
    ((ofEvents (faulty.take 5)).outcome (.call (.acquire ⟨"c", "o"⟩ ⟨"a"⟩ 15))).2.2 =
      .error (.status 500 (some "InternalError")) ∧
    ((ofEvents faulty).outcome (.call (.renew ⟨"c", "o"⟩ ⟨"a"⟩))).2.2 ≠
      .error (.status 500 (some "InternalError")) ∧
    (ofEvents (withoutFaults (faulty.take 6))).now = (ofEvents (faulty.take 6)).now := by
  obtain ⟨herror, hcalls, -, hnone, -, hparts⟩ := faults_leave_no_trace faulty
  obtain ⟨-, -, hnext, -, -, -⟩ := faults_leave_no_trace (faulty.take 5)
  have hheld : ((ofEvents faulty).outcome (.call (.acquire ⟨"c", "o"⟩ ⟨"a"⟩ 15))).2.2 =
      .error .heldByOther := by
    decide +kernel
  refine ⟨by decide +kernel, hheld, herror _ _ hheld, (hcalls .acquire).trans (by decide), ?_,
    hnone (.renew _ _) ?_, (hparts (faulty.take 6) (faulty.drop 6) rfl).2.1⟩
  · exact (hnext (faulty.take 4) .acquire 1 [] rfl (by simp) _ rfl).2 (by decide)
  · rintro e he ⟨count, rfl⟩
    simp [faulty, Request.operation] at he

end Chronicle

end Leasehold
