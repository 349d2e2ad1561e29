import Mathlib.Data.Nat.Find
import Mathlib.Tactic.Common
import Leasehold.Proofs.Backoff.Unbudgeted
import Leasehold.Proofs.Blob.Composing

/-!
# Requests that are sent again

A `Conversation` is a call together with the client that makes it and the service that it finds.
Sent again and again without an end, it goes through states, messages and answers one after the
other; a call takes the first ones of them.

* `Conversation.exists_last`: there is a request that a call ends with: the first one whose answer
  is final, or the last one that the settings allow.
* `Conversation.fault?`: the fault that ends a call before its second request.  Later delays can
  always be computed (`Conversation.exists_pause`).
* `Conversation.exchange_eq`: without a fault a call sends the messages up to that request, and what
  it answers is the answer to that request, read by `Conversation.verdict`.
* `Conversation.regular`: how often a call is sent, what its messages have in common, and what it
  answers, for every conversation.
-/

namespace Leasehold.Blob

/-- Whether the same request may be answered otherwise when it is sent again. -/
def isPassing : Answer → Bool
  | .ok () => false
  | .error e => e.isTransient

namespace Client

variable {σ : Type} {service : Service σ} {b : Backoff} {s : σ}

/-- A pause without a budget: after it the interval is at most the ceiling. -/
theorem pause_cases (hb : b.Unbudgeted) (service : Service σ) (s : σ) :
    (∃ e, pause service b s = .error e) ∨
      ∃ x, pause service b s = .ok x ∧ x.1.Unbudgeted ∧ x.1.interval ≤ .ofSeconds 60 := by
  unfold pause
  rcases Backoff.next_unbudgeted hb (.ofSeconds (service.clock s)) (service.draw s) with
    ⟨e, he⟩ | ⟨delay, b', hnext, hb', hle⟩
  · rw [he]
    exact .inl ⟨e, rfl⟩
  · rw [hnext]
    exact .inr ⟨_, rfl, hb', hle⟩

theorem pause_of_lt (hb : b.Unbudgeted) (hlt : b.interval < Span.immense) (service : Service σ)
    (s : σ) : ∃ x, pause service b s = .ok x := by
  obtain ⟨delay, b', hnext⟩ :=
    Backoff.next_of_lt hb hlt (.ofSeconds (service.clock s)) (service.draw s)
  unfold pause
  rw [hnext]
  exact ⟨_, rfl⟩

/-- Only time passes in a pause. -/
theorem wait_of_pause {x : Backoff × σ} (h : pause service b s = .ok x) :
    ∃ d, x.2 = service.wait s d := by
  unfold pause at h
  split at h
  · cases h
    exact ⟨_, rfl⟩
  · cases h

end Client

/-- A call by a client to a service in some state. -/
structure Conversation (σ : Type) where
  client : Client
  service : Service σ
  call : Request
  start : σ

namespace Conversation

variable {σ : Type} {t : Conversation σ} {n more : Nat} {e : BackoffFault}

/-- The message that finds the service in a state. -/
def messageAt (t : Conversation σ) (s : σ) : Message :=
  t.client.message (.ofRequest t.call) (t.service.clock s)

/-- The state after a message that finds the service in another one, and the answer. -/
def ask (t : Conversation σ) (s : σ) : σ × Answer := t.client.ask t.service (t.messageAt s) s

/-- The delays that are left and the state that a request finds, the first one being number 0.  A
conversation whose next delay cannot be computed goes on from where it is. -/
def moment (t : Conversation σ) : Nat → Backoff × σ
  | 0 => (t.client.delays (.ofSeconds (t.service.clock t.start)), t.start)
  | n + 1 =>
    match Client.pause t.service (moment t n).1 (t.ask (moment t n).2).1 with
    | .ok next => next
    | .error _ => moment t n

/-- The state that a request finds. -/
def state (t : Conversation σ) (n : Nat) : σ := (t.moment n).2

/-- The request of a number. -/
def message (t : Conversation σ) (n : Nat) : Message := t.messageAt (t.state n)

/-- The answer to a request. -/
def answer (t : Conversation σ) (n : Nat) : Answer := (t.ask (t.state n)).2

/-- The state that a number of requests has left. -/
def left (t : Conversation σ) : Nat → σ
  | 0 => t.start
  | n + 1 => (t.ask (t.state n)).1

/-- The pause after a request. -/
def pause (t : Conversation σ) (n : Nat) : Except BackoffFault (Backoff × σ) :=
  Client.pause t.service (t.moment n).1 (t.left (n + 1))

/-- How often a call is sent at most. -/
def limit (t : Conversation σ) : Nat := max 1 t.client.settings.tries

/-- The fault that ends a call: it would be sent again, but the first delay cannot be computed. -/
def fault? (t : Conversation σ) : Option BackoffFault :=
  match t.pause 0 with
  | .ok _ => none
  | .error e => if isPassing (t.answer 0) = true ∧ 1 < t.limit then some e else none

/-- What happens when the call is made. -/
def exchange (t : Conversation σ) : Exchange σ := t.client.call t.service t.call t.start

/-- Whether a call ends with a request: all answers before it may pass, and its own is final, or it
is the last one that the settings allow. -/
def EndsWith (t : Conversation σ) (n : Nat) : Prop :=
  n < t.limit ∧ (∀ i < n, isPassing (t.answer i) = true) ∧
    (isPassing (t.answer n) = true → n + 1 = t.limit)

/-- What a call answers that ends with a request: the answer to that request, but a release whose
lease has gone by the second request or later has succeeded. -/
def verdict (t : Conversation σ) (n : Nat) : Answer :=
  if t.call.operation = .release ∧ t.answer n = .error .notHolder ∧ 0 < n then .ok ()
  else t.answer n

/-- A result is final if it is read off a final answer. -/
theorem isPassing_verdict (t : Conversation σ) (n : Nat) :
    isPassing (t.verdict n) = isPassing (t.answer n) := by
  unfold verdict
  split
  · next h =>
    rw [h.2.1]
    rfl
  · rfl

theorem verdict_of_ne_release (h : t.call.operation ≠ .release) : t.verdict n = t.answer n :=
  if_neg fun h' => h h'.1

/-! ### Pauses -/

theorem moment_succ {x : Backoff × σ} (h : t.pause n = .ok x) : t.moment (n + 1) = x := by
  unfold moment
  rw [show Client.pause t.service (t.moment n).1 (t.ask (t.moment n).2).1 = .ok x from h]

theorem unbudgeted_moment (t : Conversation σ) (n : Nat) : (t.moment n).1.Unbudgeted := by
  induction n with
  | zero => exact Backoff.unbudgeted_new _ _
  | succ n ih =>
    rcases Client.pause_cases ih t.service (t.left (n + 1)) with ⟨e, he⟩ | ⟨x, hx, hb, -⟩
    · unfold moment
      rw [show Client.pause t.service (t.moment n).1 (t.ask (t.moment n).2).1 = .error e from he]
      exact ih
    · rw [moment_succ hx]
      exact hb

/-- If the first delay can be computed, all others can, too. -/
theorem exists_pause (h : ∃ x, t.pause 0 = .ok x) (n : Nat) : ∃ x, t.pause n = .ok x := by
  induction n with
  | zero => exact h
  | succ n ih =>
    obtain ⟨x, hx⟩ := ih
    have hminute : Span.ofSeconds 60 < Span.immense := by decide
    rcases Client.pause_cases (t.unbudgeted_moment n) t.service (t.left (n + 1)) with
      ⟨e, he⟩ | ⟨y, hy, -, hle⟩
    · cases hx.symm.trans he
    · refine Client.pause_of_lt (t.unbudgeted_moment (n + 1)) ?_ t.service _
      rw [moment_succ hy]
      exact Nat.lt_of_le_of_lt hle hminute

theorem fault?_eq_some :
    t.fault? = some e ↔ isPassing (t.answer 0) = true ∧ 1 < t.limit ∧ t.pause 0 = .error e := by
  unfold fault?
  cases t.pause 0 with
  | ok x => simp
  | error e' => simp [and_assoc]

/-- Only an immense initial interval has a delay that cannot be computed. -/
theorem fault?_of_lt (h : t.client.settings.retryDelay < Span.immense) : t.fault? = none := by
  obtain ⟨x, hx⟩ := Client.pause_of_lt (t.unbudgeted_moment 0) h t.service (t.left 1)
  unfold fault?
  rw [show t.pause 0 = .ok x from hx]

/-- If nothing changes while the client waits, a request finds what the one before it has left. -/
theorem state_eq_left (hwait : ∀ s d, t.service.wait s d = s)
    (h : t.client.settings.retryDelay < Span.immense) (n : Nat) : t.state n = t.left n := by
  cases n with
  | zero => rfl
  | succ n =>
    have hfirst := Client.pause_of_lt (t.unbudgeted_moment 0) h t.service (t.left 1)
    obtain ⟨x, hx⟩ := exists_pause hfirst n
    obtain ⟨d, hd⟩ := Client.wait_of_pause hx
    unfold state
    rw [moment_succ hx, hd, hwait]

/-- A call without a fault that ends with a request pauses after all requests before it. -/
theorem EndsWith.pauses (hn : t.EndsWith n) (hfault : t.fault? = none) :
    ∀ i < n, isPassing (t.answer i) = true ∧ ∃ x, t.pause i = .ok x := by
  intro i hi
  refine ⟨hn.2.1 i hi, exists_pause ?_ i⟩
  cases hpause : t.pause 0 with
  | ok x => exact ⟨x, rfl⟩
  | error e =>
    have hlimit : 1 < t.limit := by
      have := hn.1
      omega
    rw [fault?_eq_some.2 ⟨hn.2.1 0 (by omega), hlimit, hpause⟩] at hfault
    cases hfault

/-! ### The requests of a call -/

theorem ask_moment (t : Conversation σ) (n : Nat) :
    t.client.ask t.service (t.client.message (.ofRequest t.call) (t.service.clock (t.moment n).2))
      (t.moment n).2 = (t.left (n + 1), t.answer n) := rfl

/-- The request of a number is sent for the last time if its answer is final or no more are left. -/
theorem sendUpTo_of_final (hsend : t.client.CanSend t.call)
    (h : isPassing (t.answer n) = true → more = 0) :
    t.client.sendUpTo t.service (.ofRequest t.call) more (t.moment n).1 (t.moment n).2 =
      ⟨[t.message n], .ok (t.answer n), t.left (n + 1)⟩ := by
  rw [Client.sendUpTo, Client.compose_of_canSend hsend]
  dsimp only
  rw [ask_moment]
  dsimp only
  cases hanswer : t.answer n with
  | ok u => rfl
  | error e =>
    cases more with
    | zero => rfl
    | succ more =>
      have hfinal : ¬e.isTransient = true := fun he => by
        rw [hanswer] at h
        cases h he
      dsimp only
      rw [if_neg hfinal]
      rfl

/-- A request whose answer may pass is followed by a pause, if more are left. -/
theorem sendUpTo_of_passing (hsend : t.client.CanSend t.call)
    (h : isPassing (t.answer n) = true) :
    (∀ e, t.pause n = .error e →
      t.client.sendUpTo t.service (.ofRequest t.call) (more + 1) (t.moment n).1 (t.moment n).2 =
        ⟨[t.message n], .error e, t.left (n + 1)⟩) ∧
    ∀ x, t.pause n = .ok x →
      t.client.sendUpTo t.service (.ofRequest t.call) (more + 1) (t.moment n).1 (t.moment n).2 =
        let rest := t.client.sendUpTo t.service (.ofRequest t.call) more x.1 x.2
        { rest with sent := t.message n :: rest.sent } := by
  rw [Client.sendUpTo, Client.compose_of_canSend hsend]
  dsimp only
  rw [ask_moment]
  dsimp only
  cases hanswer : t.answer n with
  | ok u =>
    rw [hanswer] at h
    cases h
  | error e =>
    have hpassing : e.isTransient = true := by
      rw [hanswer] at h
      exact h
    dsimp only
    rw [if_pos hpassing]
    refine ⟨fun e he => ?_, fun x hx => ?_⟩
    · rw [show Client.pause t.service (t.moment n).1 (t.left (n + 1)) = .error e from he]
      rfl
    · rw [show Client.pause t.service (t.moment n).1 (t.left (n + 1)) = .ok x from hx]
      rfl

theorem sendUpTo_eq (hsend : t.client.CanSend t.call) (first more : Nat) (hn : n ≤ more)
    (hbefore : ∀ i < n, isPassing (t.answer (first + i)) = true ∧ ∃ x, t.pause (first + i) = .ok x)
    (hlast : isPassing (t.answer (first + n)) = true → n = more) :
    t.client.sendUpTo t.service (.ofRequest t.call) more (t.moment first).1 (t.moment first).2 =
      ⟨(List.range' first (n + 1)).map t.message, .ok (t.answer (first + n)),
        t.left (first + n + 1)⟩ := by
  -- After a pause the rest of the requests begins with the next one.
  induction n generalizing first more with
  | zero => exact sendUpTo_of_final hsend fun h => (hlast h).symm
  | succ n ih =>
    obtain ⟨more, rfl⟩ : ∃ k, more = k + 1 := ⟨more - 1, by omega⟩
    obtain ⟨hpassing, x, hx⟩ := hbefore 0 (Nat.succ_pos n)
    have hrest := ih (first + 1) more (by omega)
      (fun i hi => by
        rw [Nat.add_assoc, Nat.add_comm 1 i]
        exact hbefore (i + 1) (Nat.succ_lt_succ hi))
      (fun h => by
        rw [Nat.add_assoc, Nat.add_comm 1 n] at h
        have := hlast h
        omega)
    rw [moment_succ hx, Nat.add_assoc, Nat.add_comm 1 n] at hrest
    rw [(sendUpTo_of_passing (n := first) hsend hpassing).2 x hx, hrest]
    rfl

/-- A call ends with a request. -/
theorem exists_last (t : Conversation σ) : ∃ n, t.EndsWith n := by
  classical
  -- It is the first one after which the call is not sent again.
  have hlimit : 0 < t.limit := Nat.lt_of_lt_of_le Nat.one_pos (Nat.le_max_left _ _)
  have hexists : ∃ n, isPassing (t.answer n) = true → n + 1 = t.limit :=
    ⟨t.limit - 1, fun _ => Nat.sub_add_cancel hlimit⟩
  have hbefore : ∀ i < Nat.find hexists, isPassing (t.answer i) = true ∧ i + 1 ≠ t.limit :=
    fun i hi => Classical.not_imp.1 (Nat.find_min hexists hi)
  have hfound : Nat.find hexists ≤ t.limit - 1 :=
    Nat.find_min' hexists fun _ => Nat.sub_add_cancel hlimit
  exact ⟨Nat.find hexists, by omega, fun i hi => (hbefore i hi).1, Nat.find_spec hexists⟩

/-- If any answer within the limit is final, then so is the last one. -/
theorem EndsWith.final (hn : t.EndsWith n) {m : Nat} (hm : m < t.limit)
    (hfinal : isPassing (t.answer m) = false) : isPassing (t.answer n) = false := by
  obtain ⟨-, hpassing, hlast⟩ := hn
  by_contra h
  have hlimit := hlast (eq_true_of_ne_false h)
  obtain hlt | rfl : m < n ∨ m = n := by omega
  · rw [hpassing m hlt] at hfinal
    cases hfinal
  · exact h hfinal

theorem exchange_eq (hsend : t.client.CanSend t.call) (hfault : t.fault? = none)
    (hn : t.EndsWith n) :
    t.exchange = ⟨(List.range (n + 1)).map t.message, .ok (t.verdict n), t.left (n + 1)⟩ := by
  have hlimit := hn.1
  have hsent : t.client.sendUpTo t.service (.ofRequest t.call) (t.client.settings.tries - 1)
      (t.client.delays (.ofSeconds (t.service.clock t.start))) t.start =
        ⟨(List.range' 0 (n + 1)).map t.message, .ok (t.answer (0 + n)), t.left (0 + n + 1)⟩ := by
    refine sendUpTo_eq hsend 0 _ (by unfold limit at hlimit; omega) (fun i hi => ?_) (fun h => ?_)
    · rw [Nat.zero_add]
      exact hn.pauses hfault i hi
    · rw [Nat.zero_add] at h
      have hlast := hn.2.2 h
      unfold limit at hlast
      omega
  rw [Nat.zero_add, ← List.range_eq_range'] at hsent
  unfold exchange Client.call Client.send verdict
  rw [hsent]
  dsimp only
  split
  · next o id hcall ha =>
    rw [List.length_map, List.length_range, Except.ok.inj ha, hcall]
    by_cases h : 0 < n
    · rw [if_pos (Nat.succ_lt_succ h), if_pos ⟨rfl, rfl, h⟩]
    · rw [if_neg fun h' => h (Nat.lt_of_succ_lt_succ h'), if_neg fun h' => h h'.2.2]
  · next hother =>
    rw [if_neg]
    rintro ⟨hrelease, ha, -⟩
    cases hcall : t.call with
    | release o id => exact hother o id hcall (congrArg Except.ok ha)
    | _ =>
      rw [hcall] at hrelease
      cases hrelease

/-- A call that a fault ends has been sent once. -/
theorem exchange_of_fault (hsend : t.client.CanSend t.call) (hfault : t.fault? = some e) :
    t.exchange = ⟨[t.message 0], .error e, t.left 1⟩ := by
  obtain ⟨hpassing, hlimit, hpause⟩ := fault?_eq_some.1 hfault
  obtain ⟨more, hmore⟩ : ∃ k, t.client.settings.tries - 1 = k + 1 :=
    ⟨t.client.settings.tries - 2, by unfold limit at hlimit; omega⟩
  have hsent : t.client.sendUpTo t.service (.ofRequest t.call) (more + 1)
      (t.client.delays (.ofSeconds (t.service.clock t.start))) t.start =
        ⟨[t.message 0], .error e, t.left 1⟩ := (sendUpTo_of_passing hsend hpassing).1 e hpause
  unfold exchange Client.call Client.send
  rw [hmore, hsent]
  cases t.call <;> rfl

/-- A call that cannot be sent fails at once, and the service does not hear of it. -/
theorem exchange_of_not_canSend (hsend : ¬t.client.CanSend t.call) :
    t.exchange = ⟨[], .ok (.error (.http .unsendable)), t.start⟩ := by
  unfold exchange Client.call Client.send Client.sendUpTo
  rw [Client.compose_of_not_canSend hsend]
  cases t.call <;> rfl

/-! ### What every call does -/

/-- What holds of a call that can be sent, whatever the service answers and whatever is drawn. -/
structure Regular (t : Conversation σ) : Prop where
  /-- A call ends without an answer just if its first delay cannot be computed: then it has been
  sent once, and would be again. -/
  faulty : ∀ e, t.exchange.result = .error e ↔ t.fault? = some e
  count_of_fault : ∀ e, t.fault? = some e →
    t.exchange.sent.length = 1 ∧ 1 < t.limit ∧ isPassing (t.answer 0) = true
  /-- Only an immense initial interval can do that. -/
  immense : ∀ e, t.fault? = some e → ¬t.client.settings.retryDelay < Span.immense
  /-- The first answer that is final is the last one, within the limit. -/
  count_of_final : t.fault? = none → ∀ k, (∀ i < k, isPassing (t.answer i) = true) →
    isPassing (t.answer k) = false → t.exchange.sent.length = min t.limit (k + 1)
  /-- Without a final answer the limit is used up. -/
  count_of_passing : t.fault? = none → (∀ i, isPassing (t.answer i) = true) →
    t.exchange.sent.length = t.limit
  sent : t.exchange.sent = (List.range t.exchange.sent.length).map t.message
  state : t.exchange.state = t.left t.exchange.sent.length
  /-- The requests are equal but for the date and the signature. -/
  alike : ∀ m ∈ t.exchange.sent, ∀ m' ∈ t.exchange.sent, m.undated = m'.undated
  /-- The result is the answer to the last request, unless a release finds no lease any more. -/
  answer : t.fault? = none → t.exchange.result = .ok (t.verdict (t.exchange.sent.length - 1))

theorem count_of_final (hn : t.EndsWith n) {k : Nat}
    (hbefore : ∀ i < k, isPassing (t.answer i) = true) (hfinal : isPassing (t.answer k) = false) :
    n + 1 = min t.limit (k + 1) := by
  obtain ⟨hlimit, hpassing, hlast⟩ := hn
  have hle : n ≤ k := by
    by_contra h
    rw [hpassing k (Nat.lt_of_not_le h)] at hfinal
    cases hfinal
  rcases Nat.lt_or_eq_of_le hle with h | rfl
  · have hn := hlast (hbefore n h)
    omega
  · omega

/-- However many messages are sent, they differ in their date and their signature only. -/
theorem undated_of_mem {k : Nat} {m m' : Message} (hm : m ∈ (List.range k).map t.message)
    (hm' : m' ∈ (List.range k).map t.message) : m.undated = m'.undated := by
  obtain ⟨i, -, rfl⟩ := List.mem_map.1 hm
  obtain ⟨j, -, rfl⟩ := List.mem_map.1 hm'
  exact Client.undated_message t.client t.call _ _

/-- A call that a fault ends. -/
theorem regular_of_fault (hsend : t.client.CanSend t.call) (hfault : t.fault? = some e) :
    t.Regular := by
  have hexchange := exchange_of_fault hsend hfault
  have hone : t.exchange.sent = (List.range 1).map t.message := by
    rw [hexchange]
    rfl
  have hlength : t.exchange.sent.length = 1 := by rw [hexchange, List.length_singleton]
  have hsome : t.fault? ≠ none := by
    rw [hfault]
    exact Option.some_ne_none e
  obtain ⟨hpassing, hlimit, -⟩ := fault?_eq_some.1 hfault
  refine ⟨fun e' => ?_, fun _ _ => ⟨hlength, hlimit, hpassing⟩, fun _ _ hlt => ?_,
    fun hnone => absurd hnone hsome, fun hnone => absurd hnone hsome, ?_, ?_, fun m hm m' hm' => ?_,
    fun hnone => absurd hnone hsome⟩
  · rw [hexchange, hfault]
    exact ⟨fun h => congrArg some (Except.error.inj h), fun h => congrArg _ (Option.some.inj h)⟩
  · exact hsome (fault?_of_lt hlt)
  · rw [hlength]
    exact hone
  · rw [hlength, hexchange]
  · rw [hone] at hm hm'
    exact undated_of_mem hm hm'

/-- A call without a fault. -/
theorem regular_of_faultless (hsend : t.client.CanSend t.call) (hfault : t.fault? = none) :
    t.Regular := by
  obtain ⟨n, hn⟩ := t.exists_last
  have hexchange := exchange_eq hsend hfault hn
  have hlength : t.exchange.sent.length = n + 1 := by
    rw [hexchange, List.length_map, List.length_range]
  have hnone (e : BackoffFault) : t.fault? ≠ some e := by
    rw [hfault]
    exact (Option.some_ne_none e).symm
  refine ⟨fun e => ⟨fun h => ?_, fun h => absurd h (hnone e)⟩, fun e h => absurd h (hnone e),
    fun e h => absurd h (hnone e), fun _ => ?_, fun _ => ?_, ?_, ?_, fun m hm m' hm' => ?_,
    fun _ => ?_⟩
  · rw [hexchange] at h
    cases h
  · intro k hbefore hfinal
    rw [hlength]
    exact count_of_final hn hbefore hfinal
  · intro hpassing
    rw [hlength]
    exact hn.2.2 (hpassing n)
  · rw [hlength, hexchange]
  · rw [hlength, hexchange]
  · rw [hexchange] at hm hm'
    exact undated_of_mem hm hm'
  · rw [hlength, hexchange, Nat.add_sub_cancel]

theorem regular (hsend : t.client.CanSend t.call) : t.Regular := by
  cases hfault : t.fault? with
  | none => exact regular_of_faultless hsend hfault
  | some e => exact regular_of_fault hsend hfault

/-- A call by a client whose initial interval is not immense has an answer. -/
theorem exists_answer (h : t.client.settings.retryDelay < Span.immense) :
    ∃ a, t.exchange.result = .ok a := by
  by_cases hsend : t.client.CanSend t.call
  · exact ⟨_, (regular hsend).answer (fault?_of_lt h)⟩
  · rw [exchange_of_not_canSend hsend]
    exact ⟨_, rfl⟩

end Conversation

end Leasehold.Blob
