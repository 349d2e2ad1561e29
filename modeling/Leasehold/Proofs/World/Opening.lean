import Mathlib.Data.List.TakeWhile
import Leasehold.Proofs.Blob.Sending
import Leasehold.Proofs.Lock.Provisioning
import Leasehold.Proofs.Name.Grammar
import Leasehold.World.Remote

/-!
# What is checked before a lock is built

The caller's input is checked in a fixed order.  The first fault is the answer, and then there is
neither a client nor a lock; without a fault the lock is built, and no later failure looks like a
fault of the input.

* `Opening.Fails`: the faults of an input; `SetupFailure.rank`: their order.
* `Opening.check_cases`: the checks find the first fault.
* `World.AtOnce`, `World.startStep_create`: a construction whose calls are answered at once is over
  in its first turn.
* `Opening.checked_in_order`: what comes of an input.
-/

namespace Leasehold

/-! ### The account's name -/

namespace Account

/-- The first label of a host is what stands before its first dot. -/
theorem firstLabel_spec (host : String) : '.' ∉ (firstLabel host).toList ∧
    (host = firstLabel host ∨ ∃ rest, host = firstLabel host ++ "." ++ rest) := by
  have hlabel : (firstLabel host).toList = host.toList.takeWhile (· ≠ '.') := String.toList_ofList
  have hsplit := List.takeWhile_append_dropWhile (p := fun c => decide (c ≠ '.')) (l := host.toList)
  have hhead := List.head?_dropWhile_not (fun c => decide (c ≠ '.')) host.toList
  rw [← hlabel] at hsplit
  refine ⟨fun hdot => ?_, ?_⟩
  · rw [hlabel] at hdot
    simpa using List.mem_takeWhile_imp hdot
  · cases hrest : host.toList.dropWhile fun c => decide (c ≠ '.') with
    | nil =>
      rw [hrest, List.append_nil] at hsplit
      exact .inl (String.toList_inj.1 hsplit.symm)
    | cons c rest =>
      rw [hrest] at hsplit hhead
      have hc : c = '.' := by simpa using hhead
      refine .inr ⟨String.ofList rest, String.toList_inj.1 ?_⟩
      rw [String.toList_append, String.toList_append, String.toList_ofList, ← hsplit, hc]
      simp

/-- The first label is empty only if nothing stands before the first dot. -/
theorem firstLabel_eq_empty_iff {host : String} :
    firstLabel host = "" ↔ host = "" ∨ ∃ rest, host = "." ++ rest := by
  constructor
  · intro h
    obtain ⟨-, hhost⟩ := firstLabel_spec host
    rw [h, String.empty_append] at hhost
    exact hhost
  · rintro (rfl | ⟨rest, rfl⟩)
    · rfl
    · unfold firstLabel
      rw [String.toList_append]
      rfl

/-- The name of the account in a URL: not empty, and what stands before the first dot of the
host. -/
structure IsNameIn (u : Url) (name : String) : Prop where
  nonempty : name ≠ ""
  dotless : '.' ∉ name.toList
  host : ∃ host, u.hostName? = some host ∧ (host = name ∨ ∃ rest, host = name ++ "." ++ rest)

theorem nameIn?_eq_none_iff {u : Url} : nameIn? u = none ↔
    ∀ host, u.hostName? = some host → host = "" ∨ ∃ rest, host = "." ++ rest := by
  have hall (host : String) : (host = "" ∨ ∃ rest, host = "." ++ rest) ↔
      (firstLabel host).isEmpty = true := by
    rw [← firstLabel_eq_empty_iff, String.isEmpty_iff]
  simp only [hall]
  unfold nameIn?
  cases u.hostName? with
  | none => simp
  | some host => simp

theorem not_isRoot_iff {u : Url} :
    (!isRoot u) = true ↔ u.path ≠ "/" ∨ u.query ≠ none ∨ u.fragment ≠ none := by
  unfold isRoot
  rw [Bool.not_eq_true', Bool.and_eq_false_iff, Bool.and_eq_false_iff, or_assoc,
    beq_eq_false_iff_ne, Option.isNone_eq_false_iff, Option.isNone_eq_false_iff,
    Option.isSome_iff_ne_none, Option.isSome_iff_ne_none]

theorem isNameIn_of_nameIn? {u : Url} {name : String} (h : nameIn? u = some name) :
    IsNameIn u name := by
  unfold nameIn? at h
  split at h
  · cases h
  · next host hu =>
    split at h
    · cases h
    · next hempty =>
      cases h
      obtain ⟨hdot, hhost⟩ := firstLabel_spec host
      exact ⟨fun he => hempty (by rw [he]; rfl), hdot, host, hu, hhost⟩

end Account

/-! ### The checks -/

/-- The place of a fault in the order of the checks. -/
def SetupFailure.rank : SetupFailure → ℕ
  | noKey => 0
  | termOutOfRange _ => 1
  | badName _ => 2
  | notUrl .. => 3
  | insecure _ => 4
  | notRoot _ => 5
  | badKey => 6
  | noAccountName _ => 7

theorem SetupFailure.rank_lt (e : SetupFailure) : e.rank < 8 := by
  cases e <;> simp [rank]

namespace Opening

variable {o : Opening} {e e' : SetupFailure} {n : ℕ}

/-- What can be wrong with an input.  The faults are looked at one by one, whatever the others
are. -/
inductive Fails (o : Opening) : SetupFailure → Prop
  | noKey (h : o.accessKey = "") : Fails o .noKey
  | term (h : o.term < .ofSeconds 15 ∨ .ofSeconds 60 < o.term) : Fails o (.termOutOfRange o.term)
  | name (e : NameFailure) (h : LockName.parse o.name = .error e) : Fails o (.badName e)
  | endpoint (e : UrlError) (h : Url.parse o.endpoint = .error e) :
      Fails o (.notUrl o.endpoint e.message)
  | scheme (u : Url) (h : Url.parse o.endpoint = .ok u) (hs : u.scheme ≠ "https") :
      Fails o (.insecure o.endpoint)
  | root (u : Url) (h : Url.parse o.endpoint = .ok u)
      (hr : u.path ≠ "/" ∨ u.query ≠ none ∨ u.fragment ≠ none) : Fails o (.notRoot o.endpoint)
  | key (h : Base64.decode? o.accessKey.toList = none) : Fails o .badKey
  | account (u : Url) (h : Url.parse o.endpoint = .ok u)
      (hl : ∀ host, u.hostName? = some host → host = "" ∨ ∃ rest, host = "." ++ rest) :
      Fails o (.noAccountName o.endpoint)

/-- An input has at most one fault of each rank. -/
theorem Fails.unique (h : o.Fails e) (h' : o.Fails e') (hr : e.rank = e'.rank) : e = e' := by
  cases h <;> cases h'
  case name.name e he e' he' => rw [Except.error.inj (he.symm.trans he')]
  case endpoint.endpoint e he e' he' => rw [Except.error.inj (he.symm.trans he')]
  all_goals cases hr <;> rfl

/-- The input has no fault before a rank. -/
def Clear (o : Opening) (n : ℕ) : Prop := ∀ e, o.Fails e → n ≤ e.rank

theorem Clear.next (h : o.Clear n) (hn : ∀ e, o.Fails e → e.rank ≠ n) : o.Clear (n + 1) :=
  fun e he => Nat.lt_of_le_of_ne (h e he) (hn e he).symm

theorem Clear.isFirst (h : o.Clear e.rank) (he : o.Fails e) : IsFirst SetupFailure.rank o.Fails e :=
  ⟨he, fun e' hlt he' => Nat.not_le.2 hlt (h e' he')⟩

theorem term_check_cases (d : Span) :
    (Term.check d = .error (.termOutOfRange d) ∧ (d < .ofSeconds 15 ∨ .ofSeconds 60 < d)) ∨
      ∃ term, Term.check d = .ok term ∧ ¬(d < .ofSeconds 15 ∨ .ofSeconds 60 < d) := by
  unfold Term.check Term.ofSpan?
  by_cases h : shortestTerm ≤ d ∧ d ≤ longestTerm
  · rw [dif_pos h]
    refine .inr ⟨_, rfl, ?_⟩
    rintro (hlt | hlt)
    · exact Nat.not_lt.2 h.1 hlt
    · exact Nat.not_lt.2 h.2 hlt
  · rw [dif_neg h]
    refine .inl ⟨rfl, ?_⟩
    by_contra hno
    exact h ⟨Nat.not_lt.1 fun hlt => hno (.inl hlt), Nat.not_lt.1 fun hlt => hno (.inr hlt)⟩

/-- The checks of the account find the first fault, or there is none and they give the account. -/
theorem read_cases (hkey : o.accessKey ≠ "") (h3 : o.Clear 3) :
    (∃ e, Account.read o.endpoint o.accessKey = .error e ∧ IsFirst SetupFailure.rank o.Fails e) ∨
      ∃ a, Account.read o.endpoint o.accessKey = .ok a ∧ o.Clear 8 ∧
        Url.parse o.endpoint = .ok a.endpoint ∧
        Base64.decode? o.accessKey.toList = some a.key ∧ Account.IsNameIn a.endpoint a.name := by
  unfold Account.read
  -- the key is looked at again here, but an empty one has been found before
  rw [if_neg (mt String.isEmpty_iff.1 hkey)]
  cases hurl : Url.parse o.endpoint with
  | error f => exact .inl ⟨_, rfl, h3.isFirst (.endpoint f hurl)⟩
  | ok u =>
  have h4 := h3.next fun e he hr => by
    cases he with
    | endpoint f h => cases hurl.symm.trans h
    | _ => cases hr
  dsimp only
  by_cases hscheme : u.scheme ≠ Account.secureScheme
  · exact .inl ⟨_, if_pos hscheme, h4.isFirst (.scheme u hurl hscheme)⟩
  have h5 := h4.next fun e he hr => by
    cases he with
    | scheme u' h hs => cases hurl.symm.trans h; exact hscheme hs
    | _ => cases hr
  rw [if_neg hscheme]
  by_cases hroot : (!Account.isRoot u) = true
  · exact .inl ⟨_, if_pos hroot, h5.isFirst (.root u hurl (Account.not_isRoot_iff.1 hroot))⟩
  have h6 := h5.next fun e he hr => by
    cases he with
    | root u' h hs => cases hurl.symm.trans h; exact hroot (Account.not_isRoot_iff.2 hs)
    | _ => cases hr
  rw [if_neg hroot]
  cases hdecode : Base64.decode? o.accessKey.toList with
  | none => exact .inl ⟨_, rfl, h6.isFirst (.key hdecode)⟩
  | some key =>
  have h7 := h6.next fun e he hr => by
    cases he with
    | key h => cases hdecode.symm.trans h
    | _ => cases hr
  dsimp only
  cases hname : Account.nameIn? u with
  | none =>
    exact .inl ⟨_, rfl, h7.isFirst (.account u hurl (Account.nameIn?_eq_none_iff.1 hname))⟩
  | some name =>
  have h8 := h7.next fun e he hr => by
    cases he with
    | account u' h hl =>
      cases hurl.symm.trans h
      cases hname.symm.trans (Account.nameIn?_eq_none_iff.2 hl)
    | _ => cases hr
  exact .inr ⟨_, rfl, h8, rfl, rfl, Account.isNameIn_of_nameIn? hname⟩

/-- What has passed all checks is what was handed in. -/
structure Passed (o : Opening) (c : Checked) : Prop where
  faultless : ∀ e, ¬o.Fails e
  name : LockName.parse o.name = .ok c.name
  term : Term.check o.term = .ok c.term
  endpoint : Url.parse o.endpoint = .ok c.account.endpoint
  key : Base64.decode? o.accessKey.toList = some c.account.key
  account : Account.IsNameIn c.account.endpoint c.account.name

/-- The checks find the first fault, or there is none. -/
theorem check_cases (o : Opening) :
    (∃ e, o.check = .error e ∧ IsFirst SetupFailure.rank o.Fails e) ∨
      ∃ c, o.check = .ok c ∧ o.Passed c := by
  -- each check either finds a fault, which is then the first, or clears the input of its rank
  have h0 : o.Clear 0 := fun e _ => Nat.zero_le e.rank
  unfold check
  by_cases hkey : o.accessKey = ""
  · exact .inl ⟨.noKey, if_pos (String.isEmpty_iff.2 hkey), h0.isFirst (.noKey hkey)⟩
  have h1 := h0.next fun e he hr => by
    cases he with
    | noKey h => exact hkey h
    | _ => cases hr
  rw [if_neg (mt String.isEmpty_iff.1 hkey)]
  obtain ⟨hterm, hout⟩ | ⟨term, hterm, hin⟩ := term_check_cases o.term
  · rw [hterm]
    exact .inl ⟨_, rfl, h1.isFirst (.term hout)⟩
  have h2 := h1.next fun e he hr => by
    cases he with
    | term h => exact hin h
    | _ => cases hr
  rw [hterm]
  dsimp only
  cases hname : LockName.parse o.name with
  | error f => exact .inl ⟨_, rfl, h2.isFirst (.name f hname)⟩
  | ok name =>
  have h3 := h2.next fun e he hr => by
    cases he with
    | name f h => cases hname.symm.trans h
    | _ => cases hr
  dsimp only
  obtain ⟨e, herror, hfirst⟩ | ⟨a, haccount, h8, hurl, hdecode, hlabel⟩ := read_cases hkey h3
  · rw [herror]
    exact .inl ⟨e, rfl, hfirst⟩
  rw [haccount]
  exact .inr ⟨_, rfl, fun e he => Nat.not_le.2 e.rank_lt (h8 e he), hname, hterm, hurl, hdecode,
    hlabel⟩

theorem check_eq_error_iff : o.check = .error e ↔ IsFirst SetupFailure.rank o.Fails e := by
  refine eq_error_iff_isFirst (fun e h => ?_) (fun c h => ?_) fun e e' => Fails.unique
  · obtain ⟨e', he, hfirst⟩ | ⟨c, hok, -⟩ := o.check_cases
    · cases h.symm.trans he
      exact hfirst
    · cases h.symm.trans hok
  · obtain ⟨e', he, -⟩ | ⟨c', hok, hpassed⟩ := o.check_cases
    · cases h.symm.trans he
    · exact hpassed.faultless

end Opening

/-! ### A construction without delay -/

namespace World

variable {w : World} {c : Creation} {r : Request} {op : Operation} {t : TaskId}

/-- No call that is planned takes time. -/
def AtOnce (w : World) : Prop := ∀ x ∈ w.plans, x.2.before = .zero ∧ x.2.after = .zero

theorem AtOnce.of_plans {w' : World} (h : w.AtOnce) (hp : w'.plans = w.plans) : w'.AtOnce :=
  fun x hx => h x (hp ▸ hx)

theorem atOnce_takePlan (h : w.AtOnce) (op : Operation) : (w.takePlan op).1.AtOnce ∧
    (w.takePlan op).2.before = .zero ∧ (w.takePlan op).2.after = .zero := by
  unfold takePlan
  split
  · next op' p hfind =>
    exact ⟨fun x hx => h x (List.mem_of_mem_eraseP hx),
      h (op', p) (List.mem_of_find?_eq_some hfind)⟩
  · exact ⟨h, rfl, rfl⟩

theorem arrive_atOnce (h : w.AtOnce) (n : ℕ) (r : Request) {p : Plan} (hp : p.after = .zero) :
    ∃ w' a, w.arrive n r p = (w', .done a) ∧ w'.AtOnce := by
  have hsettle : (w.settleCall r p).1.AtOnce := h.of_plans (plans_settleCall r p)
  unfold arrive
  rw [hp]
  dsimp only
  rw [if_pos (ceilMillis_now_add_zero _)]
  exact ⟨_, _, rfl, hsettle⟩

/-- A call that takes no time is answered before the task goes on. -/
theorem issue_atOnce (h : w.AtOnce) (r : Request) :
    ∃ w' a, w.issue r = (w', .done a) ∧ w'.AtOnce := by
  obtain ⟨hrest, hbefore, hafter⟩ := atOnce_takePlan h r.operation
  unfold issue
  dsimp only
  rw [hbefore, if_pos (ceilMillis_now_add_zero _)]
  refine arrive_atOnce ?_ _ r hafter
  exact hrest.of_plans rfl

/-- What a construction answers is no fault of its input. -/
def IsBuilt (y : World × Poll Progress Outcome) : Prop :=
  ∃ w o, y = (w, .done o) ∧ ∀ e, o ≠ .result (.error (.setup e))

theorem isBuilt_failCreation {e : LockFailure} (h : ∀ e', e ≠ .setup e') :
    IsBuilt (w.failCreation e) :=
  ⟨w, _, rfl, fun e' he => h e' (Except.error.inj (Outcome.result.inj he))⟩

theorem isBuilt_cancelled : IsBuilt (w.failCreation .cancelled) :=
  isBuilt_failCreation fun e' he => by cases he

theorem isBuilt_informed (h : IsBuilt (w.onward c r)) (a : Answer) :
    IsBuilt (w.informed c r a) := by
  unfold informed
  split
  · next e he =>
    refine isBuilt_failCreation fun e' hsetup => ?_
    unfold creationResult at he
    split at he <;> cases he
    cases hsetup
  · exact h

theorem isBuilt_provisionObject (h : w.AtOnce) (c : Creation) : IsBuilt (w.provisionObject c) := by
  by_cases hp : w.isParentCancelled c.parent = true
  · rw [provisionObject, if_pos hp]
    exact isBuilt_cancelled
  · obtain ⟨w', a, hissue, -⟩ := issue_atOnce h (.createObject c.name.backing)
    rw [provisionObject_eq (Bool.eq_false_iff.2 hp), hissue]
    exact isBuilt_informed ⟨_, _, rfl, fun e he => by cases he⟩ a

theorem isBuilt_provisionContainer (h : w.AtOnce) (c : Creation) :
    IsBuilt (w.provisionContainer c) := by
  by_cases hp : w.isParentCancelled c.parent = true
  · rw [provisionContainer, if_pos hp]
    exact isBuilt_cancelled
  · obtain ⟨w', a, hissue, hrest⟩ := issue_atOnce h (.createContainer sharedContainer)
    rw [provisionContainer_eq (Bool.eq_false_iff.2 hp), hissue]
    show IsBuilt (w'.informed c (.createContainer sharedContainer) a)
    exact isBuilt_informed (by exact isBuilt_provisionObject hrest c) a

/-- A construction from an input without faults is over in its first turn. -/
theorem isBuilt_startStep (h : w.AtOnce) {o : Opening} {x : Opening.Checked} (ho : o.Passed x) :
    IsBuilt (w.startStep t o.step) := by
  unfold Opening.step startStep
  rw [ho.term]
  dsimp only
  rw [ho.name]
  exact isBuilt_provisionContainer h _

/-- A step that is over in the first turn of its task has its outcome after that turn. -/
theorem outcome?_turn_spawned {s : Step} {w' : World} {out : Outcome} (hidle : w.ready = [])
    (hs : s.Within fun _ => True)
    (hdone : ((w.spawn (.calling (.unstarted s))).1.atTurn w.tasks.length).startStep
      w.tasks.length s = (w', .done out)) :
    (w.spawn (.calling (.unstarted s))).1.turn.outcome? w.tasks.length = some out := by
  have htask : (w.spawn (.calling (.unstarted s))).1.tasks[w.tasks.length]? =
      some ⟨.calling (.unstarted s), false⟩ := by
    simp [spawn]
  have hready : (w.spawn (.calling (.unstarted s))).1.ready = [w.tasks.length] := by
    show w.ready ++ _ = _
    rw [hidle]
    rfl
  have hact := (turn_calling (A := fun _ => True) htask
    ⟨hs, fun l hl => by cases hl⟩).activity? (poll_calling htask) w.tasks.length
  rw [if_pos rfl] at hact
  rw [turn, hready]
  dsimp only
  refine outcome?_eq_some_iff.2 (hact.trans ?_)
  rw [resumeStep, hdone]
  rfl

/-- A step that is over in the first turn of its task is waited for during that turn only. -/
theorem await_spawned {s : Step} {w' : World} {out : Outcome} (hidle : w.ready = [])
    (hs : s.Within fun _ => True)
    (hdone : ((w.spawn (.calling (.unstarted s))).1.atTurn w.tasks.length).startStep
      w.tasks.length s = (w', .done out)) (fuel : ℕ) :
    (await w.tasks.length none fuel (w.spawn (.calling (.unstarted s))).1).2 =
      if fuel < 2 then none else some out := by
  have hbefore : (w.spawn (.calling (.unstarted s))).1.outcome? w.tasks.length = none := by
    unfold outcome?
    simp [spawn]
  -- the first move of the fuel is the turn, and the second one finds the outcome
  cases fuel with
  | zero => rfl
  | succ fuel =>
    rw [await, hbefore]
    dsimp only [Option.any_none]
    rw [if_neg Bool.false_ne_true]
    cases fuel with
    | zero => rfl
    | succ fuel =>
      rw [await, outcome?_turn_spawned hidle hs hdone]
      exact (if_neg (by omega)).symm

end World

namespace Remote

/-- The world in which the answers to the calls of a step are planned. -/
def expecting (r : Remote) (step : Step) : World :=
  { r.world with plans := (results r.client (r.world.callsOfStep step) r.script).map planned }

theorem ready_expecting (r : Remote) (step : Step) :
    (r.expecting step).ready = r.world.ready := by
  simp only [expecting]

/-- A client whose initial interval is not immense has an answer to every call. -/
theorem isOk_of_mem_results {c : Blob.Client} (h : c.settings.retryDelay < Span.immense)
    {rs : List Request} {s : Blob.Script} {x : Operation × Except BackoffFault Answer × Blob.Script}
    (hx : x ∈ results c rs s) : x.2.1.isOk = true := by
  induction rs generalizing s with
  | nil => cases hx
  | cons r rest ih =>
    obtain ⟨a, ha⟩ := Blob.Conversation.exists_answer (t := ⟨c, Blob.Script.service, r, s⟩) h
    have hok : (c.call Blob.Script.service r s).result.isOk = true := congrArg Except.isOk ha
    rw [results, hok] at hx
    obtain rfl | hx := List.mem_cons.1 hx
    · exact hok
    · exact ih hx

theorem atOnce_expecting {r : Remote} (h : r.client.settings.retryDelay < Span.immense)
    (step : Step) : (r.expecting step).AtOnce := by
  intro y hy
  obtain ⟨⟨op, result, script⟩, hz, rfl⟩ := List.mem_map.1 hy
  cases result with
  | ok a => exact ⟨rfl, rfl⟩
  | error e => cases isOk_of_mem_results h hz

theorem perform_snd {r : Remote} (h : r.client.settings.retryDelay < Span.immense) (fuel : ℕ)
    (step : Step) : (r.perform fuel step).2 =
      (World.await (r.expecting step).tasks.length none fuel
        ((r.expecting step).spawn (.calling (.unstarted step))).1).2 := by
  have hall : (results r.client (r.world.callsOfStep step) r.script).all (fun x => x.2.1.isOk) =
      true := List.all_eq_true.2 fun x hx => isOk_of_mem_results h hx
  unfold perform
  dsimp only
  rw [if_pos hall]
  rfl

theorem client_perform (r : Remote) (fuel : ℕ) (step : Step) :
    (r.perform fuel step).1.client = r.client := by
  unfold perform
  rfl

end Remote

namespace Opening

variable {o : Opening} {x : Checked}

/-- An input without faults is answered in its first turn, and by no fault of an input. -/
theorem perform_step (ho : o.Passed x) {r : Remote} (hidle : r.world.ready = [])
    (hmild : r.client.settings.retryDelay < Span.immense) :
    ∃ out, (∀ e, out ≠ .result (.error (.setup e))) ∧
      ∀ fuel, (r.perform fuel o.step).2 = if fuel < 2 then none else some out := by
  have hready := (r.ready_expecting o.step).trans hidle
  have hwithin : o.step.Within fun _ => True := trivial
  generalize hw : r.expecting o.step = w at hready
  have hplanned : w.AtOnce := by
    rw [← hw]
    exact Remote.atOnce_expecting hmild o.step
  have honce : ((w.spawn (.calling (.unstarted o.step))).1.atTurn w.tasks.length).AtOnce :=
    hplanned.of_plans rfl
  obtain ⟨w', out, hdone, hout⟩ := World.isBuilt_startStep (t := w.tasks.length) honce ho
  have hperform (fuel : ℕ) : (r.perform fuel o.step).2 = if fuel < 2 then none else some out := by
    rw [Remote.perform_snd hmild, hw]
    exact World.await_spawned hready hwithin hdone fuel
  exact ⟨out, hout, hperform⟩

theorem ready_cancelParent_start (p : String) : (World.start.cancelParent p).ready = [] := by
  simp [World.start, World.cancelParent, World.wakeAll, World.concerned]

/-- An input with a fault is answered by the first one, and neither a client nor a lock is made. -/
theorem run_of_isFirst (h : IsFirst SetupFailure.rank o.Fails e) (fuel : ℕ) (cancelled : Bool)
    (script : Blob.Script) :
    o.run fuel cancelled script = (none, some (.result (.error (.setup e)))) := by
  unfold run
  rw [check_eq_error_iff.2 h]

/-- What answers an input that has passed all checks. -/
def remote (o : Opening) (x : Checked) (cancelled : Bool) (script : Blob.Script) : Remote where
  client := .ofAccount x.account .standard
  script := script
  world := if cancelled then World.start.cancelParent o.parent else World.start

theorem run_of_passed (h : o.check = .ok x) (fuel : ℕ) (cancelled : Bool) (script : Blob.Script) :
    o.run fuel cancelled script = (some ((o.remote x cancelled script).perform fuel o.step).1,
      ((o.remote x cancelled script).perform fuel o.step).2) := by
  unfold run
  rw [h]
  rfl

theorem ready_remote (o : Opening) (x : Checked) (cancelled : Bool) (script : Blob.Script) :
    (o.remote x cancelled script).world.ready = [] := by
  cases cancelled with
  | false => rfl
  | true => exact ready_cancelParent_start o.parent

theorem mild_remote {cancelled : Bool} {script : Blob.Script} :
    (o.remote x cancelled script).client.settings.retryDelay < Span.immense := by
  show Blob.Settings.standard.retryDelay < Span.immense
  decide

/-- The input for a lock is checked in order.  It is answered by a fault exactly if it has one, and
then by the first: a missing key, the term, the name, an endpoint that is no URL, its scheme, what
follows its host, the key, the account's name.  Then no client is made, so that no call can be, and
no lock; whether the parent scope is cancelled makes no difference.  An input without faults is
answered with a client of the account that it says, and not by a fault. -/
theorem checked_in_order (o : Opening) (cancelled : Bool) (script : Blob.Script) :
    (∀ fuel e, (o.run fuel cancelled script).2 = some (.result (.error (.setup e))) ↔
      IsFirst SetupFailure.rank o.Fails e) ∧
    ((∃ e, o.Fails e) → ∃ e, ∀ fuel,
      o.run fuel cancelled script = (none, some (.result (.error (.setup e))))) ∧
    ((∀ e, ¬o.Fails e) → ∃ account out,
      Url.parse o.endpoint = .ok account.endpoint ∧
      Account.IsNameIn account.endpoint account.name ∧
      Base64.decode? o.accessKey.toList = some account.key ∧
      (∀ e, out ≠ .result (.error (.setup e))) ∧
      ∀ fuel, ∃ remote, remote.client = Blob.Client.ofAccount account .standard ∧
        o.run fuel cancelled script = (some remote, if fuel < 2 then none else some out)) := by
  refine ⟨fun fuel e => ⟨fun h => ?_, fun h => ?_⟩, ?_, fun hnone => ?_⟩
  · obtain ⟨e', he', hfirst⟩ | ⟨x, hx, hpassed⟩ := o.check_cases
    · rw [run_of_isFirst hfirst] at h
      cases h
      exact hfirst
    · obtain ⟨out, hout, hperform⟩ :=
        perform_step hpassed (ready_remote o x cancelled script) mild_remote
      rw [run_of_passed hx, hperform] at h
      split at h
      · cases h
      · exact absurd (Option.some.inj h) (hout e)
  · rw [run_of_isFirst h]
  · rintro ⟨e, he⟩
    have hexists : ∃ e', IsFirst SetupFailure.rank o.Fails e' := exists_isFirst he
    obtain ⟨e', hfirst⟩ := hexists
    exact ⟨e', fun fuel => run_of_isFirst hfirst fuel cancelled script⟩
  · obtain ⟨e', -, hfirst⟩ | ⟨x, hx, hpassed⟩ := o.check_cases
    · exact absurd hfirst.1 (hnone e')
    · obtain ⟨out, hout, hperform⟩ :=
        perform_step hpassed (ready_remote o x cancelled script) mild_remote
      refine ⟨x.account, out, hpassed.endpoint, hpassed.account, hpassed.key, hout, fun fuel => ?_⟩
      refine ⟨_, Remote.client_perform (o.remote x cancelled script) fuel o.step, ?_⟩
      rw [run_of_passed hx, hperform]

/-- An input for a lock at a service on the same machine. -/
def loopback (scheme key : String) : Opening :=
  ⟨scheme ++ "://[::1]", key, "svc-a", .ofSeconds 15, none, "root", ⟨"a"⟩⟩

/-- `checked_in_order` for an input with two faults under a cancelled parent, and for one without
faults. -/
theorem checked_in_order_loopback :
    let silent : Blob.Script := ⟨[], .answered 201 none, [], 0⟩
    (loopback "http" "!").Fails .badKey ∧
    ((loopback "http" "!").run 2 true silent).2 =
      some (.result (.error (.setup (.insecure "http://[::1]")))) ∧
    ∃ remote out, ((loopback "https" "c2VjcmV0LWtleQ==").run 2 false silent) =
        (some remote, some out) ∧
      remote.client.account = "[::1]" ∧ ∀ e, out ≠ .result (.error (.setup e)) := by
  intro silent
  have hinsecure : (loopback "http" "!").check = .error (.insecure "http://[::1]") := by rfl
  have hnone : ∀ e, ¬(loopback "https" "c2VjcmV0LWtleQ==").Fails e := by
    obtain ⟨e, he, -⟩ | ⟨x, -, hpassed⟩ := (loopback "https" "c2VjcmV0LWtleQ==").check_cases
    · have hok : (loopback "https" "c2VjcmV0LWtleQ==").check.isOk = true := by rfl
      rw [he] at hok
      cases hok
    · exact hpassed.faultless
  obtain ⟨hfirst, -, -⟩ := checked_in_order (loopback "http" "!") true silent
  obtain ⟨-, -, hpassed⟩ := checked_in_order (loopback "https" "c2VjcmV0LWtleQ==") false silent
  obtain ⟨account, out, hurl, hname, -, hout, hrun⟩ := hpassed hnone
  obtain ⟨remote, hclient, hanswer⟩ := hrun 2
  have hlabel : account.name = "[::1]" := by
    have hparse : (Url.parse "https://[::1]").toOption.bind Url.hostName? = some "[::1]" := by rfl
    rw [show Url.parse "https://[::1]" = .ok account.endpoint from hurl] at hparse
    obtain ⟨host, hhost, heq | ⟨rest, heq⟩⟩ := hname.host
    · exact heq.symm.trans (Option.some.inj (hhost.symm.trans hparse))
    · have hdot : '.' ∈ host.toList := by simp [heq]
      rw [Option.some.inj (hhost.symm.trans hparse)] at hdot
      exact absurd hdot (by decide)
  exact ⟨.key (by decide), (hfirst 2 _).2 (check_eq_error_iff.1 hinsecure), remote, out, hanswer,
    hclient ▸ hlabel, hout⟩

end Opening

end Leasehold
