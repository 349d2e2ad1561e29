import Leasehold.Error

/-!
# Loss cells

A `LossCell` is the one place where the loss of a lock is written, at most once.  Any number of
readers look at it.  The cell counts its versions, a reader remembers the version that it last
looked at, and a reader that waits looks again only at news: a version it has not seen, or the end
of the cell.

* `LossCell.raise` writes the loss and says whether it was the first.
* `LossReader.look` is one look at the cell: the loss, the end of a cell without one, or nothing
  yet.
* `LossReader.receive` is a wait that begins at one state of the cell and is asked for at a later
  one.
-/

namespace Leasehold

/-- Where a loss is written, how often that happened, and whether the writer is gone. -/
structure LossCell where
  loss : Option Loss
  version : Nat
  closed : Bool
  deriving DecidableEq, Repr

/-- A reader of a loss cell with the version it last looked at. -/
structure LossReader where
  seen : Nat
  deriving DecidableEq, Repr

/-- What a reader learns. -/
inductive Reading
  | lost (loss : Loss)
  | ended
  | pending
  deriving DecidableEq, Repr

namespace LossCell

/-- A cell without a loss. -/
def new : LossCell := ⟨none, 0, false⟩

instance : Inhabited LossCell := ⟨new⟩

/-- Writes a loss unless there is one, and says whether it was written. -/
def raise (s : LossCell) (l : Loss) : LossCell × Bool :=
  match s.loss with
  | some _ => (s, false)
  | none => ({ s with loss := some l, version := s.version + 1 }, true)

/-- Whether a loss was written. -/
def isRaised (s : LossCell) : Bool := s.loss.isSome

@[simp] theorem isRaised_new : new.isRaised = false := rfl

/-- After a write there is a loss. -/
@[simp] theorem isRaised_raise (s : LossCell) (l : Loss) : (s.raise l).1.isRaised = true := by
  cases h : s.loss <;> simp [raise, isRaised, h]

/-- Only the first loss is written. -/
theorem raise_snd (s : LossCell) (l : Loss) : (s.raise l).2 = !s.isRaised := by
  cases h : s.loss <;> simp [raise, isRaised, h]

/-- A new reader, which has seen the present version. -/
def reader (s : LossCell) : LossReader := ⟨s.version⟩

/-- The writer goes. -/
def close (s : LossCell) : LossCell := { s with closed := true }

end LossCell

namespace LossReader

/-- The loss, if there is one by now. -/
def read (_ : LossReader) (s : LossCell) : Option Loss := s.loss

/-- One look at the cell.  A loss counts whether or not it is new to the reader; only without one
does it matter that the writer is gone. -/
def look (r : LossReader) (s : LossCell) : LossReader × Reading :=
  match s.loss with
  | some l => ({ r with seen := s.version }, .lost l)
  | none => ({ r with seen := s.version }, if s.closed then .ended else .pending)

/-- Whether a waiting reader has a reason to look again. -/
def hasNews (r : LossReader) (s : LossCell) : Bool := r.seen != s.version || s.closed

/-- Goes on waiting: looks at news only. -/
def resume (r : LossReader) (s : LossCell) : LossReader × Reading :=
  if r.hasNews s then r.look s else (r, .pending)

/-- A wait that begins at the cell `s` and is asked for when the cell has become `later`. -/
def receive (r : LossReader) (s later : LossCell) : LossReader × Reading :=
  match r.look s with
  | (r', .pending) => r'.resume later
  | learned => learned

end LossReader

end Leasehold
