import Mathlib.Data.List.Induction
import Mathlib.Tactic.Common
import Leasehold.Loss

/-!
# Readers of a loss cell

A `LossBoard` is a loss cell with all the readers that were ever made of it, some of them in the
middle of a wait.  A history is a list of `BoardAct`s: writes, looks, new readers, waits that begin
and go on, and at some point the end of the writer.

* `BoardAct.settled`, `BoardAct.verdict`: the loss that a history settles, and what a reader learns.
* `LossBoard.Kept`, `kept_ofActs`: after every history the cell holds the loss that is settled, and
  no reader that waits has seen it.
* `LossBoard.one_loss_for_all`: the answers to all that can be done after a history.
-/

namespace Leasehold

/-- A reader of a board, and whether it is in the middle of a wait. -/
structure Listener where
  reader : LossReader
  waiting : Bool
  deriving DecidableEq, Repr

/-- What can be done with a loss cell and its readers, which go by numbers in order of creation. -/
inductive BoardAct
  | raise (loss : Loss)
  | ask
  | subscribe
  | clone (reader : Nat)
  | read (reader : Nat)
  /-- A wait begins with a look at the cell. -/
  | wait (reader : Nat)
  /-- A wait goes on. -/
  | resume (reader : Nat)
  /-- A wait is given up. -/
  | giveUp (reader : Nat)
  | close
  deriving DecidableEq, Repr

/-- The answer to an act. -/
inductive BoardAnswer
  /-- There is no writer any more, no such reader, or it is in the middle of a wait, or it is
  not. -/
  | refused
  | nothing
  | flag (b : Bool)
  | reader (number : Nat)
  | loss (loss : Option Loss)
  | reading (reading : Reading)
  deriving DecidableEq, Repr

/-! ### What a history settles -/

namespace BoardAct

/-- The loss that a history settles: the first one that is raised, unless the writer goes before. -/
def settled : List BoardAct → Option Loss
  | [] => none
  | .raise l :: _ => some l
  | .close :: _ => none
  | _ :: rest => settled rest

/-- What a reader learns after a history. -/
def verdict (acts : List BoardAct) : Reading :=
  match settled acts with
  | some l => .lost l
  | none => if .close ∈ acts then .ended else .pending

variable {acts more : List BoardAct} {l : Loss}

/-- A loss that is settled stays so. -/
theorem settled_append (h : settled acts = some l) : settled (acts ++ more) = some l := by
  induction acts with
  | nil => cases h
  | cons a acts ih =>
    cases a with
    | raise => exact h
    | close => cases h
    | _ => exact ih h

/-- Without a loss so far, only a writer that is there can settle one. -/
theorem settled_append_of_none (h : settled acts = none) :
    settled (acts ++ more) = if .close ∈ acts then none else settled more := by
  induction acts with
  | nil => simp
  | cons a acts ih =>
    cases a with
    | raise => cases h
    | close => simp [settled]
    | _ => simpa [settled] using ih h

/-- Once there is something to learn it stays the same. -/
theorem verdict_append (h : verdict acts ≠ .pending) : verdict (acts ++ more) = verdict acts := by
  cases hs : settled acts with
  | some l => simp only [verdict, settled_append hs, hs]
  | none =>
    have hc : .close ∈ acts := by
      by_contra hc
      simp [verdict, hs, hc] at h
    simp [verdict, settled_append_of_none hs, hs, hc]

end BoardAct

/-! ### Boards -/

/-- A loss cell with the readers that were made of it. -/
structure LossBoard where
  cell : LossCell
  listeners : List Listener
  deriving DecidableEq, Repr

namespace LossBoard

/-- A cell without a loss and without readers. -/
def new : LossBoard := ⟨.new, []⟩

/-- One more reader. -/
def add (b : LossBoard) (r : LossReader) : LossBoard × BoardAnswer :=
  ({ b with listeners := b.listeners ++ [⟨r, false⟩] }, .reader b.listeners.length)

/-- A reader has looked at the cell; it goes on waiting if there was nothing to learn. -/
def looked (b : LossBoard) (n : Nat) (x : LossReader × Reading) : LossBoard × BoardAnswer :=
  ({ b with listeners := b.listeners.set n ⟨x.1, x.2 = .pending⟩ }, .reading x.2)

/-- What is done with a reader that is in the middle of a wait, or with one that is not. -/
def withReader (b : LossBoard) (n : Nat) (waiting : Bool)
    (f : LossReader → LossBoard × BoardAnswer) : LossBoard × BoardAnswer :=
  match b.listeners[n]? with
  | some x => if x.waiting = waiting then f x.reader else (b, .refused)
  | none => (b, .refused)

/-- One act.  What the writer does it does only while it is there, and a reader in the middle of a
wait does nothing else. -/
def step (b : LossBoard) : BoardAct → LossBoard × BoardAnswer
  | .raise l =>
    if b.cell.closed then (b, .refused)
    else ({ b with cell := (b.cell.raise l).1 }, .flag (b.cell.raise l).2)
  | .ask => (b, if b.cell.closed then .refused else .flag b.cell.isRaised)
  | .subscribe => if b.cell.closed then (b, .refused) else b.add b.cell.reader
  | .clone n => b.withReader n false b.add
  | .read n => b.withReader n false fun r => (b, .loss (r.read b.cell))
  | .wait n => b.withReader n false fun r => b.looked n (r.look b.cell)
  | .resume n => b.withReader n true fun r => b.looked n (r.resume b.cell)
  | .giveUp n => b.withReader n true fun r =>
    ({ b with listeners := b.listeners.set n ⟨r, false⟩ }, .nothing)
  | .close => ({ b with cell := b.cell.close }, .nothing)

/-- The board after a history. -/
def ofActs (acts : List BoardAct) : LossBoard := acts.foldl (fun b a => (b.step a).1) new

@[simp] theorem ofActs_concat (acts : List BoardAct) (a : BoardAct) :
    ofActs (acts ++ [a]) = ((ofActs acts).step a).1 := List.foldl_append ..

/-! ### What every act keeps -/

/-- The cell holds the loss that the history settles and has counted it, and no reader in the middle
of a wait has seen it. -/
structure Kept (acts : List BoardAct) (b : LossBoard) : Prop where
  loss : b.cell.loss = BoardAct.settled acts
  closed : b.cell.closed = true ↔ .close ∈ acts
  version : b.cell.version = if b.cell.isRaised then 1 else 0
  unseen : ∀ x ∈ b.listeners, x.waiting = true → x.reader.seen = 0

variable {acts : List BoardAct} {b b' : LossBoard} {a : BoardAct} {n : Nat} {x : Listener}
  {r : LossReader} {y : LossReader × Reading}

/-- What concerns the readers only. -/
theorem Kept.listen (h : Kept acts b) (hs : BoardAct.settled [a] = none) (ha : a ≠ .close)
    (hc : b'.cell = b.cell) (hu : ∀ x ∈ b'.listeners, x.waiting = true → x.reader.seen = 0) :
    Kept (acts ++ [a]) b' where
  loss := by
    rw [hc, h.loss]
    cases hl : BoardAct.settled acts with
    | some l => rw [BoardAct.settled_append hl]
    | none => rw [BoardAct.settled_append_of_none hl, hs, ite_self]
  closed := by
    rw [hc, h.closed, List.mem_append, List.mem_singleton, or_iff_left (Ne.symm ha)]
  version := by rw [hc, h.version]
  unseen := hu

theorem Kept.add (h : Kept acts b) (r : LossReader) :
    ∀ x ∈ (b.add r).1.listeners, x.waiting = true → x.reader.seen = 0 := by
  intro x hx hw
  rcases List.mem_append.1 hx with hx | hx
  · exact h.unseen x hx hw
  · rw [List.mem_singleton.1 hx] at hw
    cases hw

/-- A reader that goes on waiting has seen the cell without a loss. -/
theorem Kept.looked (h : Kept acts b) (hy : y.2 = .pending → y.1.seen = 0) :
    ∀ x ∈ (b.looked n y).1.listeners, x.waiting = true → x.reader.seen = 0 := by
  intro x hx hw
  rcases List.mem_or_eq_of_mem_set hx with hx | rfl
  · exact h.unseen x hx hw
  · exact hy (of_decide_eq_true hw)

/-- A look tells the verdict, and leaves the reader with nothing seen if there is none. -/
theorem Kept.look (h : Kept acts b) (r : LossReader) :
    (r.look b.cell).2 = BoardAct.verdict acts ∧
      ((r.look b.cell).2 = .pending → (r.look b.cell).1.seen = 0) := by
  unfold LossReader.look BoardAct.verdict
  rw [← h.loss]
  cases hl : b.cell.loss with
  | some l => exact ⟨rfl, fun hp => by cases hp⟩
  | none =>
    refine ⟨?_, fun _ => ?_⟩
    · simp only [h.closed]
    · simp [h.version, LossCell.isRaised, hl]

/-- A reader in the middle of a wait has news exactly when there is something to learn. -/
theorem Kept.hasNews (h : Kept acts b) (hr : r.seen = 0) :
    r.hasNews b.cell = true ↔ BoardAct.verdict acts ≠ .pending := by
  unfold LossReader.hasNews BoardAct.verdict
  rw [hr, h.version, LossCell.isRaised, ← h.loss]
  cases hl : b.cell.loss with
  | some l => simp
  | none => simp [h.closed]

/-- A wait that goes on tells the verdict as well. -/
theorem Kept.resume (h : Kept acts b) (hr : r.seen = 0) :
    (r.resume b.cell).2 = BoardAct.verdict acts ∧
      ((r.resume b.cell).2 = .pending → (r.resume b.cell).1.seen = 0) := by
  unfold LossReader.resume
  by_cases hn : r.hasNews b.cell = true
  · rw [if_pos hn]
    exact h.look r
  · rw [if_neg hn]
    exact ⟨(Decidable.not_not.1 fun hv => hn ((h.hasNews hr).2 hv)).symm, fun _ => hr⟩

theorem withReader_of_some {waiting : Bool} {f : LossReader → LossBoard × BoardAnswer}
    (hx : b.listeners[n]? = some x) (hw : x.waiting = waiting) :
    b.withReader n waiting f = f x.reader := by
  rw [withReader, hx]
  exact if_pos hw

/-- An act of a reader either is refused or finds the reader as it must be. -/
theorem withReader_cases (b : LossBoard) (n : Nat) (waiting : Bool)
    (f : LossReader → LossBoard × BoardAnswer) :
    b.withReader n waiting f = (b, .refused) ∨
      ∃ x, b.listeners[n]? = some x ∧ x.waiting = waiting ∧
        b.withReader n waiting f = f x.reader := by
  cases hx : b.listeners[n]? with
  | none => exact .inl (by rw [withReader, hx])
  | some x =>
    by_cases hw : x.waiting = waiting
    · exact .inr ⟨x, rfl, hw, withReader_of_some hx hw⟩
    · exact .inl (by rw [withReader, hx]; exact if_neg hw)

/-- What an act of a reader keeps if the reader may do it, it keeps in any case. -/
theorem Kept.withReader (h : Kept acts b) {waiting : Bool}
    {f : LossReader → LossBoard × BoardAnswer} (hs : BoardAct.settled [a] = none)
    (ha : a ≠ .close) (hc : ∀ r, (f r).1.cell = b.cell)
    (hu : ∀ x, b.listeners[n]? = some x → x.waiting = waiting →
      ∀ z ∈ (f x.reader).1.listeners, z.waiting = true → z.reader.seen = 0) :
    Kept (acts ++ [a]) (b.withReader n waiting f).1 := by
  rcases withReader_cases b n waiting f with he | ⟨x, hx, hw, he⟩ <;> rw [he]
  · exact h.listen hs ha rfl h.unseen
  · exact h.listen hs ha (hc _) (hu x hx hw)

/-- A write counts if it is the first one. -/
theorem Kept.raise (h : Kept acts b) (hc : b.cell.closed = false) (l : Loss) :
    Kept (acts ++ [.raise l]) { b with cell := (b.cell.raise l).1 } := by
  have hn : .close ∉ acts := fun hm => by rw [h.closed.2 hm] at hc; cases hc
  have hclosed : (b.cell.raise l).1.closed = b.cell.closed := by
    unfold LossCell.raise
    split <;> rfl
  refine ⟨?_, ?_, ?_, h.unseen⟩
  · show (b.cell.raise l).1.loss = _
    cases hl : b.cell.loss with
    | some l' =>
      rw [LossCell.raise, hl, BoardAct.settled_append (h.loss.symm.trans hl)]
      exact hl
    | none =>
      rw [LossCell.raise, hl, BoardAct.settled_append_of_none (h.loss.symm.trans hl), if_neg hn]
      rfl
  · show (b.cell.raise l).1.closed = true ↔ _
    rw [hclosed, h.closed, List.mem_append, List.mem_singleton, or_iff_left (by simp)]
  · show (b.cell.raise l).1.version = if (b.cell.raise l).1.isRaised then 1 else 0
    have hv := h.version
    cases hl : b.cell.loss with
    | some l' => simp [LossCell.raise, LossCell.isRaised, hl] at hv ⊢; exact hv
    | none => simp [LossCell.raise, LossCell.isRaised, hl] at hv ⊢; exact hv

theorem Kept.close (h : Kept acts b) :
    Kept (acts ++ [.close]) { b with cell := b.cell.close } where
  loss := by
    show b.cell.loss = _
    rw [h.loss]
    cases hl : BoardAct.settled acts with
    | some l => rw [BoardAct.settled_append hl]
    | none => rw [BoardAct.settled_append_of_none hl]; simp [BoardAct.settled]
  closed := by simp [LossCell.close]
  version := h.version
  unseen := h.unseen

/-- Every act keeps the invariant. -/
theorem Kept.step (h : Kept acts b) (a : BoardAct) : Kept (acts ++ [a]) (b.step a).1 := by
  cases a with
  | raise l =>
    cases hc : b.cell.closed with
    | true =>
      -- nothing is written once the writer is gone
      have hm : .close ∈ acts := h.closed.1 hc
      rw [LossBoard.step, hc]
      refine ⟨?_, ?_, h.version, h.unseen⟩
      · show b.cell.loss = _
        cases hl : BoardAct.settled acts with
        | some l' => rw [h.loss, BoardAct.settled_append hl, hl]
        | none => rw [h.loss, BoardAct.settled_append_of_none hl, if_pos hm, hl]
      · show b.cell.closed = true ↔ _
        rw [hc]
        simp [hm]
    | false =>
      rw [LossBoard.step, hc]
      exact h.raise hc l
  | ask => exact h.listen rfl (by simp) rfl h.unseen
  | subscribe =>
    rw [LossBoard.step]
    split
    · exact h.listen rfl (by simp) rfl h.unseen
    · exact h.listen rfl (by simp) rfl (h.add _)
  | clone n => exact h.withReader rfl (by simp) (fun _ => rfl) fun x _ _ => h.add x.reader
  | read n => exact h.withReader rfl (by simp) (fun _ => rfl) fun x _ _ => h.unseen
  | wait n =>
    exact h.withReader rfl (by simp) (fun _ => rfl) fun x _ _ => h.looked (h.look x.reader).2
  | resume n =>
    refine h.withReader rfl (by simp) (fun _ => rfl) fun x hx hw => h.looked ?_
    exact (h.resume (h.unseen x (List.mem_of_getElem? hx) hw)).2
  | giveUp n =>
    refine h.withReader rfl (by simp) (fun _ => rfl) fun x _ _ z hz hzw => ?_
    rcases List.mem_or_eq_of_mem_set hz with hz | rfl
    · exact h.unseen z hz hzw
    · cases hzw
  | close => exact h.close

theorem kept_ofActs (acts : List BoardAct) : Kept acts (ofActs acts) := by
  induction acts using List.reverseRecOn with
  | nil => exact ⟨rfl, by simp [ofActs, new, LossCell.new], rfl, fun x hx => by cases hx⟩
  | append_singleton acts a ih =>
    rw [ofActs_concat]
    exact ih.step a

/-! ### What is answered -/

/-- A wait that begins at one state of a cell and is asked for at a later one tells what the history
up to then says. -/
theorem receive_ofActs (acts more : List BoardAct) (r : LossReader) :
    (r.receive (ofActs acts).cell (ofActs (acts ++ more)).cell).2 =
      BoardAct.verdict (acts ++ more) := by
  obtain ⟨hv, hs⟩ := (kept_ofActs acts).look r
  unfold LossReader.receive
  split
  · next r' hp =>
    rw [hp] at hs
    exact ((kept_ofActs (acts ++ more)).resume (hs rfl)).1
  · next hp =>
    have hne : BoardAct.verdict acts ≠ .pending := fun he => by
      rw [he] at hv
      exact hp _ (Prod.ext rfl hv)
    rw [hv, BoardAct.verdict_append hne]

/-- A loss is written once and learned by all.  After any history of a loss cell and its readers,
the first loss raised while the writer was there is the one that every look and every wait yields,
and raising it was the only write that succeeded; without one, a wait ends exactly when the writer
is gone and stays pending until then. -/
theorem one_loss_for_all (acts : List BoardAct) :
    -- the writer
    (∀ l, ((ofActs acts).step (.raise l)).2 =
      if .close ∈ acts then .refused else .flag (BoardAct.settled acts).isNone) ∧
    ((ofActs acts).step .ask).2 =
      (if .close ∈ acts then .refused else .flag (BoardAct.settled acts).isSome) ∧
    -- every reader, in the middle of a wait or not
    (∀ n x, (ofActs acts).listeners[n]? = some x →
      (x.waiting = false →
        ((ofActs acts).step (.read n)).2 = .loss (BoardAct.settled acts) ∧
        ((ofActs acts).step (.wait n)).2 = .reading (BoardAct.verdict acts) ∧
        ∀ more, (x.reader.receive (ofActs acts).cell (ofActs (acts ++ more)).cell).2 =
          BoardAct.verdict (acts ++ more)) ∧
      (x.waiting = true →
        ((ofActs acts).step (.resume n)).2 = .reading (BoardAct.verdict acts) ∧
        (x.reader.hasNews (ofActs acts).cell = true ↔ BoardAct.verdict acts ≠ .pending))) ∧
    -- new readers
    ((ofActs acts).step .subscribe).2 =
      (if .close ∈ acts then .refused else .reader (ofActs acts).listeners.length) ∧
    ∀ n x, (ofActs acts).listeners[n]? = some x → x.waiting = false →
      ((ofActs acts).step (.clone n)).2 = .reader (ofActs acts).listeners.length := by
  have h := kept_ofActs acts
  refine ⟨fun l => ?_, ?_, fun n x hx => ⟨fun hw => ⟨?_, ?_, ?_⟩, fun hw => ⟨?_, ?_⟩⟩, ?_,
    fun n x hx hw => ?_⟩
  · simp only [step, ← h.closed, apply_ite Prod.snd, LossCell.raise_snd, LossCell.isRaised, h.loss,
      Option.not_isSome]
  · simp only [step, ← h.closed, LossCell.isRaised, h.loss]
  · rw [step, withReader_of_some hx hw]
    exact congrArg BoardAnswer.loss h.loss
  · rw [step, withReader_of_some hx hw]
    exact congrArg BoardAnswer.reading (h.look x.reader).1
  · exact fun more => receive_ofActs acts more x.reader
  · rw [step, withReader_of_some hx hw]
    exact congrArg BoardAnswer.reading (h.resume (h.unseen x (List.mem_of_getElem? hx) hw)).1
  · exact h.hasNews (h.unseen x (List.mem_of_getElem? hx) hw)
  · simp only [step, ← h.closed, apply_ite Prod.snd, add]
  · rw [step, withReader_of_some hx hw]
    rfl

/-- A reader that waits, two losses, a reader that comes late and its clone, and the end of the
writer. -/
def heard : List BoardAct :=
  [.subscribe, .wait 0, .raise ⟨"alpha", ⟨"i"⟩, "first"⟩, .raise ⟨"alpha", ⟨"i"⟩, "second"⟩,
    .subscribe, .clone 1, .close]

/-- All three learn of the first loss. -/
theorem one_loss_for_all_heard :
    (ofActs heard).listeners = [⟨⟨0⟩, true⟩, ⟨⟨1⟩, false⟩, ⟨⟨1⟩, false⟩] ∧
    ((ofActs heard).step (.resume 0)).2 = .reading (.lost ⟨"alpha", ⟨"i"⟩, "first"⟩) ∧
    ((ofActs heard).step (.wait 1)).2 = .reading (.lost ⟨"alpha", ⟨"i"⟩, "first"⟩) ∧
    ((ofActs heard).step (.read 2)).2 = .loss (some ⟨"alpha", ⟨"i"⟩, "first"⟩) := by
  have hl : (ofActs heard).listeners = [⟨⟨0⟩, true⟩, ⟨⟨1⟩, false⟩, ⟨⟨1⟩, false⟩] := by decide
  obtain ⟨-, -, hr, -⟩ := one_loss_for_all heard
  refine ⟨hl, ((hr 0 ⟨⟨0⟩, true⟩ ?_).2 rfl).1, ((hr 1 ⟨⟨1⟩, false⟩ ?_).1 rfl).2.1,
    ((hr 2 ⟨⟨1⟩, false⟩ ?_).1 rfl).1⟩ <;> rw [hl] <;> rfl

end LossBoard

end Leasehold
