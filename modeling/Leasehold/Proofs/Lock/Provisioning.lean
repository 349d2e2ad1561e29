import Leasehold.Proofs.Lock.Birth
import Leasehold.Proofs.Lock.CreatingCalls

/-!
# How a construction ends

A construction sends the call for the container and then the one for the object, and builds its
instance.  Before either call it looks at the parent scope, and again whenever it goes on while the
answer is not there.

* `Passage`, `Stint.Reaches`: where a construction comes to in a stint.
* `Stint.Reaches.leads`: what it does there.
* `World.Halfway`, `halfway_of_story`: how far a construction has come when a stint begins.
* `World.Constructed`, `constructed_of_halfway`: all that a construction can come to in a stint.
* `World.idempotent_provisioning`: what a construction answers, and what it leaves alone.
-/

namespace Leasehold

/-- Where a construction can be within a stint: a call is due, it has been sent and its answer is
not there, or its answer is there. -/
inductive Passage
  | due (r : Request) (w : World)
  | away (f : Flight) (w : World)
  | back (r : Request) (a : Answer) (w : World)

namespace Passage

/-- What becomes of a call that was sent or followed. -/
def of (r : Request) : World × Poll Flight Answer → Passage
  | (w, .waiting f) => .away f w
  | (w, .done a) => .back r a w

/-- The world at the passage. -/
def world : Passage → World
  | due _ w | away _ w | back _ _ w => w

/-- The call that it is about. -/
def request : Passage → Request
  | due r _ | back r _ _ => r
  | away f _ => f.request

end Passage

namespace Creation

/-- The calls of a construction, in their order. -/
def calls (c : Creation) : List Request :=
  [.createContainer sharedContainer, .createObject c.name.backing]

/-- The calls of a construction up to one of them. -/
def callsTo (c : Creation) : Request → List Request
  | .createContainer _ => [.createContainer sharedContainer]
  | _ => c.calls

end Creation

/-- The calls of a construction that have been sent at a passage. -/
def Passage.sent (c : Creation) : Passage → List Request
  | due (.createContainer _) _ => []
  | due _ _ => [.createContainer sharedContainer]
  | away f _ => c.callsTo f.request
  | back r _ _ => c.callsTo r

namespace World

variable {A : Step → Prop} {t : TaskId} {w w' : World} {c : Creation} {x y : Stint}
  {xs : List Stint} {P : Passage} {r : Request} {a : Answer} {f : Flight} {p q : Progress}
  {past : List Request} {e : LockFailure} {z : World × Poll Progress Outcome}

/-! ### Passages -/

/-- In the stint the construction comes to the passage. -/
inductive Stint.Reaches (c : Creation) (x : Stint) : Passage → Prop
  /-- It begins with the call for the container. -/
  | begins (text : String) (d : Span) :
      x.before = .unstarted (.create c.label text d c.behaviors c.parent c.id) →
      Term.check d = .ok c.term → LockName.parse text = .ok c.name →
      x.Reaches c (.due (.createContainer sharedContainer) x.start)
  /-- It goes on with the call that it has waited for. -/
  | resumes (f : Flight) (n : Nat) : x.before = .provisioning c f n →
      x.Reaches c (.of f.request (x.start.fly f))
  /-- A call that is due is sent, unless the parent is cancelled. -/
  | sends (r : Request) (w : World) : x.Reaches c (.due r w) →
      w.isParentCancelled c.parent = false → x.Reaches c (.of r (w.issue r))
  /-- When the container is there the call for the object is due. -/
  | next (n : String) (a : Answer) (w : World) : x.Reaches c (.back (.createContainer n) a w) →
      creationResult a = .ok () → x.Reaches c (.due (.createObject c.name.backing) w)

/-- The construction goes on after a call, with the container or the object in place. -/
def onward (w : World) (c : Creation) : Request → World × Poll Progress Outcome
  | .createContainer _ => w.provisionObject c
  | _ => ((w.build c).1, .done (w.build c).2)

/-- The construction learns of an answer. -/
def informed (w : World) (c : Creation) (r : Request) (a : Answer) :
    World × Poll Progress Outcome :=
  match creationResult a with
  | .error e => w.failCreation e
  | .ok () => w.onward c r

/-- What the construction does at a passage, and with it until the stint ends. -/
def Leads (c : Creation) (z : World × Poll Progress Outcome) : Passage → Prop
  | .due r w => r = .createContainer sharedContainer ∧ z = w.provisionContainer c ∨
      r = .createObject c.name.backing ∧ z = w.provisionObject c
  | .away f w => if w.isParentCancelled c.parent then z = w.failCreation .cancelled
      else ∃ w' n, w.Harmless w' ∧ w'.requests = w.requests ∧
        z = (w', .waiting (.provisioning c f n))
  | .back r a w => z = w.informed c r a

/-- A call was sent: the construction waits for its answer, or goes on with it. -/
def afterSending (c : Creation) (r : Request) :
    World × Poll Flight Answer → World × Poll Progress Outcome
  | (w, .waiting f) => (w.takeTicket.1, .waiting (.provisioning c f w.takeTicket.2))
  | (w, .done a) => w.informed c r a

theorem provisionContainer_eq (h : w.isParentCancelled c.parent = false) :
    w.provisionContainer c = afterSending c (.createContainer sharedContainer)
      (w.issue (.createContainer sharedContainer)) := by
  unfold provisionContainer
  rw [if_neg (by rw [h]; decide)]
  rcases w.issue (.createContainer sharedContainer) with ⟨w', f | a⟩
  · rfl
  · dsimp only [afterSending, informed]
    cases creationResult a <;> rfl

theorem provisionObject_eq (h : w.isParentCancelled c.parent = false) :
    w.provisionObject c = afterSending c (.createObject c.name.backing)
      (w.issue (.createObject c.name.backing)) := by
  unfold provisionObject
  rw [if_neg (by rw [h]; decide)]
  rcases w.issue (.createObject c.name.backing) with ⟨w', f | a⟩
  · rfl
  · dsimp only [afterSending, informed]
    cases creationResult a <;> rfl

theorem leads_afterSending {y : World × Poll Flight Answer}
    (h : y.1.isParentCancelled c.parent = false) :
    Leads c (afterSending c r y) (Passage.of r y) := by
  obtain ⟨w', f | a⟩ := y
  · have h : ¬ w'.isParentCancelled c.parent = true := Bool.eq_false_iff.1 h
    dsimp only [Passage.of, Leads]
    rw [if_neg h]
    exact ⟨w'.takeTicket.1, w'.takeTicket.2, ⟨rfl, rfl, rfl, rfl, rfl, .refl _⟩, rfl, rfl⟩
  · rfl

theorem leads_resumeProvisioning (n : Nat) :
    Leads c (w.resumeProvisioning c f n) (Passage.of f.request (w.fly f)) := by
  unfold resumeProvisioning
  rcases w.fly f with ⟨w', f' | a⟩
  · dsimp only [Passage.of, Leads]
    split
    · rfl
    · exact ⟨w', n, .refl w', rfl, rfl⟩
  · dsimp only [Passage.of, Leads, informed]
    cases creationResult a with
    | error e => rfl
    | ok u => cases f.request <;> rfl

theorem creates_of_due (h : x.Reaches c (.due r w)) : Creates r := by
  generalize hP : Passage.due r w = P at h
  cases h with
  | begins => cases hP; exact .inl rfl
  | resumes f n => rcases hf : x.start.fly f with ⟨w', f' | a⟩ <;> rw [hf] at hP <;> cases hP
  | sends r' w' => rcases hi : w'.issue r' with ⟨w'', f | a⟩ <;> rw [hi] at hP <;> cases hP
  | next => cases hP; exact .inr ⟨_, rfl⟩

/-- What a construction does at every passage of a stint. -/
theorem Stint.Reaches.leads (h : x.Reaches c P) (hx : x.By t) : Leads c (x.finish, x.result) P := by
  have hz := hx.goes
  induction h with
  | begins text d hb hd hn =>
    rw [hb, resumeStep, startStep, hd, hn] at hz
    exact Or.inl ⟨rfl, hz.symm⟩
  | resumes f n hb =>
    rw [hb, resumeStep] at hz
    rw [← hz]
    exact leads_resumeProvisioning n
  | sends r w h hc ih =>
    have hc' := ((harmless_issue (creates_of_due h)).isParentCancelled c.parent).trans hc
    rcases ih with ⟨rfl, hz⟩ | ⟨rfl, hz⟩
    · rw [hz, provisionContainer_eq hc]
      exact leads_afterSending hc'
    · rw [hz, provisionObject_eq hc]
      exact leads_afterSending hc'
  | next n a w _ ha ih =>
    refine Or.inr ⟨rfl, Eq.trans ih ?_⟩
    unfold informed
    rw [ha]
    rfl

/-! ### What has been sent -/

/-- The requests that go out in a stint. -/
def Stint.requests (x : Stint) : List Request := x.finish.requests.drop x.start.requests.length

/-- The requests that go out in some stints, of which the latest is the first. -/
def requestsOf (xs : List Stint) : List Request := xs.reverse.flatMap Stint.requests

theorem requestsOf_cons (x : Stint) (xs : List Stint) :
    requestsOf (x :: xs) = requestsOf xs ++ x.requests := by
  rw [requestsOf, List.reverse_cons, List.flatMap_append, List.flatMap_singleton]
  rfl

/-- How far a construction has come that is about to go on, and what it has sent. -/
inductive Halfway (c : Creation) : List Request → Progress → Prop
  | unstarted (text : String) (d : Span) : Term.check d = .ok c.term →
      LockName.parse text = .ok c.name →
      Halfway c [] (.unstarted (.create c.label text d c.behaviors c.parent c.id))
  | provisioning (f : Flight) (n : Nat) : f.request ∈ c.calls →
      Halfway c (c.callsTo f.request) (.provisioning c f n)

theorem Halfway.creation_eq {c' : Creation} {n : Nat}
    (h : Halfway c past (.provisioning c' f n)) : c' = c := by
  cases h
  rfl

/-- What is known at a passage of a construction that has sent `past` before. -/
structure Stint.Brought (c : Creation) (past : List Request) (x : Stint) (P : Passage) : Prop where
  harmless : x.start.Harmless P.world
  request : P.request ∈ c.calls
  sent : ∃ more, P.world.requests = x.start.requests ++ more ∧ past ++ more = P.sent c

theorem mem_calls : r ∈ c.calls ↔
    r = .createContainer sharedContainer ∨ r = .createObject c.name.backing := by
  rw [Creation.calls, List.mem_cons, List.mem_singleton]

theorem creates_of_mem_calls (h : r ∈ c.calls) : Creates r :=
  (mem_calls.1 h).imp_right fun h => ⟨_, h⟩

theorem sent_prefix (c : Creation) (P : Passage) : P.sent c <+: c.calls := by
  have hto (r : Request) : c.callsTo r <+: c.calls := by
    cases r with
    | createContainer n => exact ⟨[_], rfl⟩
    | _ => exact List.prefix_rfl
  cases P with
  | due r w =>
    cases r with
    | createContainer n => exact List.nil_prefix
    | _ => exact ⟨[_], rfl⟩
  | away f w => exact hto _
  | back r a w => exact hto r

/-- A call is sent. -/
theorem brought_issue (h : x.Brought c past (.due r w)) :
    x.Brought c past (.of r (w.issue r)) := by
  have hh : x.start.Harmless (w.issue r).1 :=
    h.harmless.trans (harmless_issue (creates_of_mem_calls h.request))
  obtain ⟨more, hm, hs⟩ := h.sent
  have hm' : (w.issue r).1.requests = x.start.requests ++ (more ++ [r]) := by
    rw [requests_issue, ← List.append_assoc]
    exact congrArg (· ++ [r]) hm
  have hs' : past ++ (more ++ [r]) = c.callsTo r := by
    rw [← List.append_assoc, hs]
    rcases mem_calls.1 h.request with rfl | rfl <;> rfl
  have hf (f : Flight) (h : (w.issue r).2 = .waiting f) : f.request = r := (flight_issue h).2
  rcases hy : w.issue r with ⟨w', f | a⟩ <;> rw [hy] at hh hm' hf
  · obtain rfl := hf f rfl
    exact ⟨hh, h.request, _, hm', hs'⟩
  · exact ⟨hh, h.request, _, hm', hs'⟩

/-- The call that the construction has waited for is followed. -/
theorem brought_fly (h : f.request ∈ c.calls) :
    x.Brought c (c.callsTo f.request) (.of f.request (x.start.fly f)) := by
  have hh := harmless_fly (w := x.start) (creates_of_mem_calls h)
  have hm := requests_fly x.start f
  have hf (f' : Flight) (h : (x.start.fly f).2 = .waiting f') : f'.request = f.request :=
    (flight_fly h).2
  rcases hy : x.start.fly f with ⟨w', f' | a⟩ <;> rw [hy] at hh hm hf
  · have hf := hf f' rfl
    refine ⟨hh, hf.symm ▸ h, [], hm.trans (List.append_nil _).symm, ?_⟩
    exact (List.append_nil _).trans (congrArg c.callsTo hf.symm)
  · exact ⟨hh, h, [], hm.trans (List.append_nil _).symm, List.append_nil _⟩

theorem Stint.Reaches.brought (h : x.Reaches c P) (hs : Halfway c past x.before) :
    x.Brought c past P := by
  generalize hq : x.before = q at hs
  induction h with
  | begins text d hb =>
    cases hs with
    | unstarted text' d' _ _ =>
      exact ⟨.refl _, List.mem_cons_self, [], (List.append_nil _).symm, rfl⟩
    | provisioning f n => cases hq.symm.trans hb
  | resumes f n hb =>
    cases hs with
    | unstarted text d _ _ => cases hq.symm.trans hb
    | provisioning f' n' hf =>
      cases hq.symm.trans hb
      exact brought_fly hf
  | sends r w _ _ ih => exact brought_issue ih
  | next n a w _ _ ih =>
    exact ⟨ih.harmless, List.mem_cons_of_mem _ List.mem_cons_self, ih.sent⟩

/-! ### What a construction comes to in a stint -/

/-- All that a construction can come to in a stint when it has sent `past` before: it fails, waits
for the answer to a call, or builds its instance. -/
inductive Constructed (c : Creation) (past : List Request) (x : Stint) : Prop
  | fails (e : LockFailure) : x.result = .done (.result (.error e)) → x.start.Harmless x.finish →
      past ++ x.requests <+: c.calls → Constructed c past x
  | waits (f : Flight) (n : Nat) : x.result = .waiting (.provisioning c f n) →
      x.start.Harmless x.finish → f.request ∈ c.calls → past ++ x.requests = c.callsTo f.request →
      Constructed c past x
  | builds : x.result = .done (.created ⟨c.name, c.name.backing, c.term, c.id,
        (x.finish.watchersOf x.start.locks.length).length⟩) → x.start.Born c x.finish →
      x.start.store.Keeps x.finish.store → past ++ x.requests = c.calls → Constructed c past x

theorem Stint.Brought.sent_eq (h : x.Brought c past P)
    (hf : x.finish.requests = P.world.requests) : past ++ x.requests = P.sent c := by
  obtain ⟨more, hm, hs⟩ := h.sent
  rw [Stint.requests, hf, hm, List.drop_left, hs]

/-- The construction fails at a passage. -/
theorem Stint.Brought.fails (h : x.Brought c past P)
    (hz : (x.finish, x.result) = P.world.failCreation e) : Constructed c past x := by
  obtain ⟨hf, hres⟩ := Prod.mk.inj hz
  refine .fails e hres (hf ▸ h.harmless) ?_
  rw [h.sent_eq (congrArg World.requests hf)]
  exact sent_prefix c P

section Stint

variable (hx : x.By t) (hs : Halfway c past x.before)
include hx hs

theorem constructed_of_away (h : x.Reaches c (.away f w)) : Constructed c past x := by
  have hb := h.brought hs
  have hz : if w.isParentCancelled c.parent then _ else _ := h.leads hx
  split at hz
  · exact hb.fails hz
  · obtain ⟨w', n, hh, hw, hz⟩ := hz
    obtain ⟨rfl, hres⟩ := Prod.mk.inj hz
    exact .waits f n hres (hb.harmless.trans hh) hb.request (hb.sent_eq hw)

/-- The object is in place, and the instance is built. -/
theorem constructed_of_object (hr : Reachable A x.turn)
    (h : x.Reaches c (.back (.createObject c.name.backing) a w)) : Constructed c past x := by
  have hb := h.brought hs
  have hz : (x.finish, x.result) = w.informed c (.createObject c.name.backing) a := h.leads hx
  unfold informed at hz
  split at hz
  · exact hb.fails hz
  · obtain ⟨hf, hres⟩ := Prod.mk.inj hz
    have hh : x.start.Harmless w := hb.harmless
    have hL : w.Labelled A := (hx.labelled hr).of_eq hh.labels (outlives_of_locks hh.locks)
    obtain ⟨hborn, hstore, hlog⟩ := born_build hL c
    rw [← hf] at hborn hstore hlog
    have hlen : w.locks.length = x.start.locks.length := congrArg List.length hh.locks
    refine .builds ?_ (hborn.of_length hlen) (hstore ▸ hh.store) ?_
    · rw [hres, ← hlen, hf]
      rfl
    · exact hb.sent_eq (congrArg (List.map CallRecord.request) hlog)

theorem constructed_of_due_object (hr : Reachable A x.turn)
    (h : x.Reaches c (.due (.createObject c.name.backing) w)) : Constructed c past x := by
  cases hc : w.isParentCancelled c.parent with
  | true =>
    have hz := h.leads hx
    rcases hz with ⟨he, -⟩ | ⟨-, hz⟩
    · cases he
    · rw [provisionObject, if_pos hc] at hz
      exact (h.brought hs).fails hz
  | false =>
    have hy := h.sends _ w hc
    rcases hi : w.issue (.createObject c.name.backing) with ⟨w', f | a⟩ <;> rw [hi] at hy
    · exact constructed_of_away hx hs hy
    · exact constructed_of_object hx hs hr hy

/-- A call has been sent or followed. -/
theorem constructed_of_call {y : World × Poll Flight Answer} (hr : Reachable A x.turn)
    (hm : r ∈ c.calls) (h : x.Reaches c (.of r y)) : Constructed c past x := by
  obtain ⟨w, f | a⟩ := y
  · exact constructed_of_away hx hs h
  · rcases mem_calls.1 hm with rfl | rfl
    · cases ha : creationResult a with
      | ok u => exact constructed_of_due_object hx hs hr (h.next _ a w ha)
      | error e =>
        have hz : (x.finish, x.result) = w.informed c _ a := h.leads hx
        rw [informed, ha] at hz
        exact (h.brought hs).fails hz
    · exact constructed_of_object hx hs hr h

/-- A construction goes on. -/
theorem constructed_of_halfway (hr : Reachable A x.turn) : Constructed c past x := by
  generalize hb : x.before = q at hs
  have hs' : Halfway c past x.before := hb ▸ hs
  cases hs with
  | unstarted text d hd hn =>
    have h := Stint.Reaches.begins (c := c) text d hb hd hn
    cases hc : x.start.isParentCancelled c.parent with
    | true =>
      rcases h.leads hx with ⟨-, hz⟩ | ⟨he, -⟩
      · rw [provisionContainer, if_pos hc] at hz
        exact (h.brought hs').fails hz
      · cases he
    | false =>
      exact constructed_of_call hx hs' hr List.mem_cons_self (h.sends _ _ hc)
  | provisioning f n hf => exact constructed_of_call hx hs' hr hf (.resumes f n hb)

end Stint

/-- In every stint of its story a construction is halfway. -/
theorem halfway_of_story {text : String} {d : Span}
    (h : Story A t (.create c.label text d c.behaviors c.parent c.id) (x :: xs))
    (hd : Term.check d = .ok c.term) (hn : LockName.parse text = .ok c.name) :
    Halfway c (requestsOf xs) x.before := by
  generalize hl : x :: xs = zs at h
  induction h generalizing x xs with
  | @begins y hr hx hb =>
    cases hl
    rw [hb]
    exact .unstarted text d hd hn
  | @goesOn y z ys hs hq hm hz ih =>
    cases hl
    rw [requestsOf_cons]
    cases constructed_of_halfway hs.stint (ih rfl) hs.reachable with
    | fails e hres _ _ => cases hres.symm.trans hq
    | waits f n hres _ hf hsent =>
      rw [hsent, ← Poll.waiting.inj (hres.symm.trans hq)]
      exact .provisioning f n hf
    | builds hres _ _ _ => cases hres.symm.trans hq

/-! ### Waiting -/

theorem parent_mem_waits {n : Nat} (h : (Progress.provisioning c f n).Holds p)
    (ws : LockId → List TaskId) : (.parent c.parent, n) ∈ p.waits ws := by
  generalize hq : Progress.provisioning c f n = q at h
  induction h with
  | here => rw [← hq]; exact List.mem_append_right _ (List.mem_singleton.2 rfl)
  | listing past rest _ ih => exact ih
  | working l n _ ih => exact List.mem_cons_of_mem _ ih

section Passages

variable (hx : x.By t)
include hx

/-- A call that is due is not sent if the parent is cancelled. -/
theorem Stint.Reaches.refused (h : x.Reaches c (.due r w))
    (hc : w.isParentCancelled c.parent = true) :
    x.result = .done (.result (.error .cancelled)) ∧ x.finish = w := by
  rcases h.leads hx with ⟨-, hz⟩ | ⟨-, hz⟩
  · rw [provisionContainer, if_pos hc] at hz
    exact (Prod.mk.inj hz).symm
  · rw [provisionObject, if_pos hc] at hz
    exact (Prod.mk.inj hz).symm

/-- A call whose answer is not there is given up if the parent is cancelled. -/
theorem Stint.Reaches.interrupted (h : x.Reaches c (.away f w))
    (hc : w.isParentCancelled c.parent = true) :
    x.result = .done (.result (.error .cancelled)) ∧ x.finish = w := by
  have hz : if w.isParentCancelled c.parent then _ else _ := h.leads hx
  rw [if_pos hc] at hz
  exact (Prod.mk.inj hz).symm

/-- An answer other than that the container or the object is there ends the construction. -/
theorem Stint.Reaches.fails {e : CallFailure} (h : x.Reaches c (.back r (.error e) w))
    (hp : e ≠ .present) (hl : e ≠ .leased) :
    x.result = .done (.result (.error (.call e))) ∧ x.finish = w := by
  have he : creationResult (.error e) = .error (.call e) := by
    cases e with
    | present => exact absurd rfl hp
    | leased => exact absurd rfl hl
    | _ => rfl
  have hz : (x.finish, x.result) = w.informed c r (.error e) := h.leads hx
  rw [informed, he] at hz
  exact (Prod.mk.inj hz).symm

/-- With the object in place the construction builds its instance. -/
theorem Stint.Reaches.builds {o : ObjectPath} (h : x.Reaches c (.back (.createObject o) a w))
    (ha : creationResult a = .ok ()) :
    x.finish = (w.build c).1 ∧ x.result = .done (w.build c).2 := by
  have hz : (x.finish, x.result) = w.informed c (.createObject o) a := h.leads hx
  rw [informed, ha] at hz
  exact Prod.mk.inj hz

end Passages

/-- With no plan and no fault for its calls a construction comes to its object at once. -/
theorem exists_object (h : x.Reaches c (.due (.createContainer sharedContainer) w))
    (hu : w.Unhindered) (hc : w.isParentCancelled c.parent = false) :
    ∃ a w', x.Reaches c (.back (.createObject c.name.backing) a w') ∧
      creationResult a = .ok () ∧ sharedContainer ∈ w'.store.containers ∧
      (w'.store.slot? c.name.backing).isSome = true := by
  -- the container is there
  have h₁ := h.sends _ w hc
  rw [hu.issue_container] at h₁
  obtain ⟨hin, ha⟩ := Store.createContainer_faultless w.now sharedContainer hu.container
  have hok :
      creationResult (w.store.serve w.now (.createContainer sharedContainer)).2 = .ok () := by
    rcases ha with ha | ha <;> rw [ha] <;> rfl
  -- the object is there
  have h₂ := (h₁.next _ _ _ hok).sends _ _ hc
  have hu₁ := hu.called_container
  rw [hu₁.issue_object] at h₂
  obtain ⟨hobj, ha'⟩ := Store.createObject_faultless (o := c.name.backing) w.now hu₁.object hin
  refine ⟨_, _, h₂, ?_, ?_, hobj⟩
  · rcases ha' with ha | ha | ha <;> exact (congrArg creationResult ha).trans rfl
  · show sharedContainer ∈ (Store.serve _ _ (.createObject _)).1.containers
    rw [Store.containers_createObject]
    exact hin

/-- Such a construction builds its instance at once, and the container and the object are there. -/
theorem built_at_once {text : String} {d : Span}
    (h : Story A t (.create c.label text d c.behaviors c.parent c.id) [x])
    (hd : Term.check d = .ok c.term) (hn : LockName.parse text = .ok c.name)
    (hu : x.start.Unhindered) (hc : x.start.isParentCancelled c.parent = false) :
    ∃ i, x.result = .done (.created i) ∧ sharedContainer ∈ x.finish.store.containers ∧
      (x.finish.store.slot? c.name.backing).isSome = true := by
  have hs := halfway_of_story h hd hn
  cases h with
  | begins hr hx hb =>
    obtain ⟨a, w', hw, ha, hin, hobj⟩ := exists_object (.begins text d hb hd hn) hu hc
    have hh : x.start.Harmless w' := (hw.brought hs).harmless
    have hL : w'.Labelled A := (hx.labelled hr).of_eq hh.labels (outlives_of_locks hh.locks)
    obtain ⟨-, hstore, -⟩ := born_build hL c
    obtain ⟨hf, hres⟩ := hw.builds hx ha
    rw [← hf] at hstore
    exact ⟨_, hres, hstore ▸ hin, hstore ▸ hobj⟩

/-! ### What a construction leaves alone -/

namespace Constructed

variable (h : Constructed c past x)
include h

theorem keeps : x.start.store.Keeps x.finish.store := by
  cases h with
  | fails _ _ hh _ | waits _ _ _ hh _ _ => exact hh.store
  | builds _ _ hk _ => exact hk

theorem requests : past ++ x.requests <+: c.calls := by
  cases h with
  | fails _ _ _ hp => exact hp
  | waits f _ _ _ _ he => exact he ▸ sent_prefix c (.away f x.finish)
  | builds _ _ _ he => exact he ▸ List.prefix_rfl

theorem untouched (hne : ∀ i, x.result ≠ .done (.created i)) :
    x.finish.locks = x.start.locks ∧ x.finish.tasks = x.start.tasks := by
  cases h with
  | fails _ _ hh _ | waits _ _ _ hh _ _ => exact ⟨hh.locks, hh.tasks⟩
  | builds hres _ _ _ => exact absurd hres (hne _)

theorem born {i : Introduction} (hi : x.result = .done (.created i)) :
    past ++ x.requests = c.calls ∧ x.start.Born c x.finish ∧ i.name = c.name ∧
      i.object = c.name.backing ∧ i.term = c.term ∧ i.id = c.id := by
  cases h with
  | fails _ hres _ _ | waits _ _ hres _ _ _ => cases hres.symm.trans hi
  | builds hres hb _ he =>
    cases hres.symm.trans hi
    exact ⟨he, hb, rfl, rfl, rfl, rfl⟩

/-- The end of the parent wakes a construction that waits. -/
theorem woken (hx : x.By t) (hr : Reachable A x.turn) (hq : x.result = .waiting q)
    (hm : Meanwhile A t (x.turn.poll t) w) (hc : w.isParentCancelled c.parent = false) :
    (w.cancelParent c.parent).Runnable t := by
  cases h with
  | fails _ hres _ _ | builds hres _ _ _ => cases hres.symm.trans hq
  | waits f n hres _ _ _ =>
    obtain ⟨p', hh, -, ha⟩ := hx.waits hr hres
    exact runnable_cancelParent hc (hm.activity? (Reachable.tame (hr.tail (.poll t))) ha)
      (parent_mem_waits hh)

end Constructed

/-! ### The whole construction -/

/-- What a construction has come to by the end of a stint, of which `xs` are the earlier ones. -/
structure Provisioned (A : Step → Prop) (t : TaskId) (c : Creation) (xs : List Stint) (x : Stint) :
    Prop where
  /-- The record of every object that was there is as it was, and new objects have none. -/
  records : x.start.store.Keeps x.finish.store
  /-- So are the holders of all objects, and how long they remain so. -/
  holders : ∀ now o, x.finish.store.holder now o = x.start.store.holder now o ∧
    x.finish.store.remaining now o = x.start.store.remaining now o
  /-- The construction has sent at most the call for the container, and then the one for the
  object. -/
  requests : requestsOf (x :: xs) <+: c.calls
  /-- Unless it succeeds there is no new instance and no new watcher. -/
  untouched : (∀ i, x.result ≠ .done (.created i)) →
    x.finish.locks = x.start.locks ∧ x.finish.tasks = x.start.tasks
  /-- When it succeeds both calls have been sent, and the instance is there. -/
  born : ∀ i, x.result = .done (.created i) → requestsOf (x :: xs) = c.calls ∧
    x.start.Born c x.finish ∧ i.name = c.name ∧ i.object = c.name.backing ∧ i.term = c.term ∧
    i.id = c.id
  /-- A call that is due is not sent if the parent is cancelled. -/
  refused : ∀ r w, x.Reaches c (.due r w) → w.isParentCancelled c.parent = true →
    x.result = .done (.result (.error .cancelled)) ∧ x.finish = w
  /-- A call whose answer is not there is given up if the parent is cancelled. -/
  interrupted : ∀ f w, x.Reaches c (.away f w) → w.isParentCancelled c.parent = true →
    x.result = .done (.result (.error .cancelled)) ∧ x.finish = w
  /-- An answer that is an error ends the construction, but for the two that say that the container
  or the object is there. -/
  failed : ∀ r e w, x.Reaches c (.back r (.error e) w) → e ≠ .present → e ≠ .leased →
    x.result = .done (.result (.error (.call e))) ∧ x.finish = w
  /-- With any other answer to the call for the object it succeeds. -/
  succeeds : ∀ o a w, x.Reaches c (.back (.createObject o) a w) →
    a = .ok () ∨ a = .error .present ∨ a = .error .leased → ∃ i, x.result = .done (.created i)
  /-- While it waits for an answer the cancellation of the parent wakes its task. -/
  woken : ∀ q w, x.result = .waiting q → Meanwhile A t (x.turn.poll t) w →
    w.isParentCancelled c.parent = false → (w.cancelParent c.parent).Runnable t
  /-- If nothing hinders its calls it succeeds at once, and the container and the object are
  there. -/
  unhindered : xs = [] → x.start.Unhindered → x.start.isParentCancelled c.parent = false →
    ∃ i, x.result = .done (.created i) ∧ sharedContainer ∈ x.finish.store.containers ∧
      (x.finish.store.slot? c.name.backing).isSome = true

/-- A construction sends the call for the container and then the one for the object, each at most
once, and changes no lease.  It is cut short by a parent that is cancelled before a call or is found
so while the answer is not there, and by any answer but that the container or the object is there;
then it sends nothing more and leaves no instance and no watcher behind.  An answer that is there
counts even if the parent was cancelled meanwhile: then the next call is not sent, or the instance
is born cancelled.  Otherwise it builds an idle instance, whatever containers, objects and leases
there were. -/
theorem idempotent_provisioning {text : String} {d : Span} (hd : Term.check d = .ok c.term)
    (hn : LockName.parse text = .ok c.name)
    (h : Story A t (.create c.label text d c.behaviors c.parent c.id) (x :: xs)) :
    Provisioned A t c xs x := by
  have hx := h.stint
  have hcon := constructed_of_halfway hx (halfway_of_story h hd hn) h.reachable
  have hkeeps := hcon.keeps
  exact {
    records := hkeeps
    holders := fun now o => ⟨hkeeps.holder now o, hkeeps.remaining now o⟩
    requests := requestsOf_cons x xs ▸ hcon.requests
    untouched := hcon.untouched
    born := fun i hi => requestsOf_cons x xs ▸ hcon.born hi
    refused := fun r w hw => hw.refused hx
    interrupted := fun f w hw => hw.interrupted hx
    failed := fun r e w hw => hw.fails hx
    succeeds := fun o a w hw ha =>
      ⟨_, (hw.builds hx (by rcases ha with rfl | rfl | rfl <;> rfl)).2⟩
    woken := fun q w hq hm hc => hcon.woken hx h.reachable hq hm hc
    unhindered := by
      rintro rfl hu hc
      exact built_at_once h hd hn hu hc }

/-! ### A cancellation that comes together with the answer -/

/-- The work of an exclusive section cancels the parent just when the answer to the call for an
object comes. -/
def cancelledTogether : List Step :=
  [.create "b" "beta" (.ofSeconds 15) [] "p" ⟨"j"⟩,
    .plan .acquire ⟨.ofSeconds 1, none, .zero, none⟩ 1,
    .plan .createObject ⟨.ofSeconds 1, none, .zero, none⟩ 1,
    .spawn "k" (.exclusive "b" [.cancelParent "p"]),
    .spawn "c" (.create "a" "alpha" (.ofSeconds 15) [] "p" ⟨"i"⟩), .sleep (.ofSeconds 2)]

theorem within_cancelledTogether : (Step.steps cancelledTogether).Within fun _ => True := by
  simp [cancelledTogether, Step.Within, Step.AllWithin]

/-- The task is about to begin a construction whose name and term are in order. -/
def beginsConstruction : Option Task → Bool
  | some ⟨.calling (.unstarted (.create _ text d _ _ _)), false⟩ =>
    (LockName.parse text).toBool && (Term.check d).toBool
  | _ => false

theorem exists_construction {a : Option Task} (h : beginsConstruction a = true) :
    ∃ (c : Creation) (text : String) (d : Span), Term.check d = .ok c.term ∧
      LockName.parse text = .ok c.name ∧
      a = some ⟨.calling (.unstarted (.create c.label text d c.behaviors c.parent c.id)),
        false⟩ := by
  unfold beginsConstruction at h
  split at h
  · next label text d behaviors parent id =>
    obtain ⟨hn, hd⟩ := Bool.and_eq_true_iff.1 h
    cases hn' : LockName.parse text with
    | error e => rw [hn'] at hn; cases hn
    | ok name =>
      cases hd' : Term.check d with
      | error e => rw [hd'] at hd; cases hd
      | ok term => exact ⟨⟨label, name, term, behaviors, parent, id⟩, text, d, hd', hn', rfl⟩
  · cases h

/-- The task waits for the answer to a call for an object, and whether its parent is cancelled. -/
def awaitsObject (w : World) : Option Task → Option Bool
  | some ⟨.calling (.provisioning c f _), false⟩ =>
    if f.request = .createObject c.name.backing ∧
        (w.log[f.record]?.bind (·.answer)).isNone = true then
      some (w.isParentCancelled c.parent)
    else none
  | _ => none

theorem exists_awaited {a : Option Task} {b : Bool} (h : awaitsObject w a = some b) :
    ∃ c f n, a = some ⟨.calling (.provisioning c f n), false⟩ ∧
      f.request = .createObject c.name.backing ∧ w.log[f.record]?.bind (·.answer) = none ∧
      w.isParentCancelled c.parent = b := by
  unfold awaitsObject at h
  split at h
  · next c f n =>
    split at h
    · next hf => exact ⟨c, f, n, rfl, hf.1, Option.isNone_iff_eq_none.1 hf.2, Option.some.inj h⟩
    · cases h
  · cases h

/-- The task has ended with a new instance. -/
def hasCreated : Option Outcome → Bool
  | some (.created _) => true
  | _ => false

theorem exists_created {a : Option Outcome} (h : hasCreated a = true) :
    ∃ i, a = some (.created i) := by
  unfold hasCreated at h
  split at h
  · exact ⟨_, rfl⟩
  · cases h

/-- The clock has come to the answers of both calls. -/
def answersHere : World := (afterTurns cancelledTogether 8).advanceInOrder 1000

theorem answersHere_eq : afterTurns cancelledTogether 9 = answersHere := by
  rw [← turn_afterTurns]
  exact turn_eq_advanceInOrder (by decide +kernel) (by decide +kernel) (by decide +kernel)
    (by decide +kernel) (by decide +kernel)

theorem turn_answersHere : afterTurns cancelledTogether 10 = answersHere.turn := by
  rw [← answersHere_eq, turn_afterTurns]

/-- While the call for its object is under way the parent of a construction is cancelled, and yet
the construction answers with an instance. -/
theorem exists_cancelledTogether : ∃ (c : Creation) (text : String) (d : Span) (x y : Stint)
    (f : Flight) (n : Nat) (i : Introduction),
    Term.check d = .ok c.term ∧ LockName.parse text = .ok c.name ∧
    Story (fun _ => True) 2 (.create c.label text d c.behaviors c.parent c.id) [y, x] ∧
    x.result = .waiting (.provisioning c f n) ∧ f.request = .createObject c.name.backing ∧
    (x.turn.poll 2).isParentCancelled c.parent = false ∧
    y.turn.isParentCancelled c.parent = true ∧
    y.turn.log[f.record]?.bind (·.answer) = none ∧ y.result = .done (.created i) := by
  obtain ⟨c, text, d, hd, hn, hx⟩ := exists_construction (by decide +kernel :
    beginsConstruction (afterTurns cancelledTogether 6).tasks[2]? = true)
  obtain ⟨c', f, n, h₇, hf, -, hc₇⟩ := exists_awaited (by decide +kernel :
    awaitsObject (afterTurns cancelledTogether 7) (afterTurns cancelledTogether 7).tasks[2]? =
      some false)
  obtain ⟨c'', f', n', h₁₀, -, ha, hc₁₀⟩ := exists_awaited (by decide +kernel :
    awaitsObject answersHere.turn answersHere.turn.tasks[2]? = some true)
  obtain ⟨i, h₁₁⟩ := exists_created (by decide +kernel :
    hasCreated (answersHere.turn.turn.outcome? 2) = true)
  rw [← turn_answersHere] at h₁₀ ha hc₁₀ h₁₁
  rw [turn_afterTurns] at h₁₁
  have hup₆ : (afterTurns cancelledTogether 6).upNext? = some 2 := by decide +kernel
  have hup₁₀ : (afterTurns cancelledTogether 10).upNext? = some 2 := by
    rw [turn_answersHere]
    decide +kernel
  have hr₆ := reachable_afterTurns within_cancelledTogether 6
  have hr₇ := reachable_afterTurns within_cancelledTogether 7
  have hp₆ := poll_afterTurns hup₆
  -- the construction begins, and waits for its object
  have hxr := waiting_afterTurns within_cancelledTogether hup₆ hx h₇
  have hm : Meanwhile (fun _ => True) 2 (afterTurns cancelledTogether 7)
      (afterTurns cancelledTogether (3 + 7)) := by
    refine meanwhile_afterTurns fun i hi => ?_
    obtain rfl | rfl | rfl : i = 0 ∨ i = 1 ∨ i = 2 := by omega
    · decide +kernel
    · decide +kernel
    · rw [answersHere_eq]
      decide +kernel
  have ha₁₀ := hm.activity? hr₇.tame (by rw [activity?, h₇]; rfl)
  rw [activity?, h₁₀] at ha₁₀
  cases ha₁₀
  have hyr := done_afterTurns within_cancelledTogether hup₁₀ h₁₀ h₁₁
  have hs := (Story.begins_whole hr₆ hx).goesOn_whole hxr (by rw [hp₆]; exact hm) h₁₀
  obtain rfl : c' = c := Halfway.creation_eq (halfway_of_story hs hd hn)
  refine ⟨c', text, d, _, _, f, n, i, hd, hn, hs, hxr, hf, ?_, hc₁₀, ha, hyr⟩
  show ((afterTurns cancelledTogether 6).poll 2).isParentCancelled _ = false
  rw [hp₆]
  exact hc₇

/-- A parent that is cancelled while a call is not answered does not always end a construction. -/
theorem uncancelled_provisioning : ¬ ∀ (A : Step → Prop) (t : TaskId) (c : Creation)
    (text : String) (d : Span) (x y : Stint) (xs : List Stint) (f : Flight) (n : Nat),
    Term.check d = .ok c.term → LockName.parse text = .ok c.name →
    Story A t (.create c.label text d c.behaviors c.parent c.id) (y :: x :: xs) →
    x.result = .waiting (.provisioning c f n) → y.turn.isParentCancelled c.parent = true →
    y.turn.log[f.record]?.bind (·.answer) = none →
    y.result = .done (.result (.error .cancelled)) := by
  intro h
  obtain ⟨c, text, d, x, y, f, n, i, hd, hn, hs, hx, -, -, hc, ha, hy⟩ := exists_cancelledTogether
  cases hy.symm.trans (h _ _ c text d x y [] f n hd hn hs hx hc ha)

/-- A construction that gets its answer although its parent was cancelled meanwhile has sent both
calls, and its instance is there. -/
theorem idempotent_provisioning_cancelledTogether : ∃ (c : Creation) (text : String) (d : Span)
    (x y : Stint), Term.check d = .ok c.term ∧ LockName.parse text = .ok c.name ∧
    Story (fun _ => True) 2 (.create c.label text d c.behaviors c.parent c.id) [y, x] ∧
    Provisioned (fun _ => True) 2 c [x] y ∧ requestsOf [y, x] = c.calls ∧
    y.start.Born c y.finish := by
  obtain ⟨c, text, d, x, y, f, n, i, hd, hn, hs, -, -, -, -, -, hy⟩ := exists_cancelledTogether
  have hp := idempotent_provisioning hd hn hs
  exact ⟨c, text, d, x, y, hd, hn, hs, hp, (hp.born i hy).1, (hp.born i hy).2.1⟩

end World

end Leasehold
