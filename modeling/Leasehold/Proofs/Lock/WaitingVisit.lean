import Leasehold.Proofs.Lock.Waiting
import Leasehold.Proofs.World.Labels

/-!
# What visits and acquisitions wait for

When a visit to a critical section or an acquisition ends its turn with a wait, what it waits for
has not come yet: it has looked at the lock and at the clock just before.

* `World.Follows`: what every part of a turn keeps.
* `World.Rested`: a part of a turn that ends with a wait, of which something is known.
* `entered_visit`, `entered_resumeEntry`: visits to a critical section.
* `rested_startLocking`, `rested_resumeAttempt`: acquisitions.
-/

namespace Leasehold.World

variable {A : Step → Prop} {t : TaskId} {w w' w'' : World} {l : LockId} {R : Prop} {k : Lock}

/-! ### Parts of a turn -/

/-- Time stands still, nothing of the locks is taken back, and the labels remain those of their
locks. -/
structure Follows (A : Step → Prop) (w w' : World) : Prop extends w.Instantly w' where
  labelled : w.Labelled A → w'.Labelled A

namespace Follows

theorem refl (A : Step → Prop) (w : World) : Follows A w w := ⟨.refl w, id⟩

theorem trans (h : Follows A w w') (h' : Follows A w' w'') : Follows A w w'' :=
  ⟨h.toInstantly.trans h'.toInstantly, h'.labelled ∘ h.labelled⟩

theorem of_labels (h : w.Instantly w') (hl : w'.labels = w.labels) : Follows A w w' :=
  ⟨h, fun hA => hA.of_eq hl h.outlives⟩

theorem quiet (h : w.Quiet w') (hl : w'.labels = w.labels) : Follows A w w' :=
  of_labels ⟨h.clock, outlives_of_locks h.locks⟩ hl

end Follows

/-- A part of a turn that began at `w` has come to `y`; if it is a wait, `S` holds of it. -/
structure Rested {α β : Type} (A : Step → Prop) (w : World) (S : World → α → Prop)
    (y : World × Poll α β) : Prop extends Follows A w y.1 where
  rests : ∀ a, y.2 = .waiting a → S y.1 a

section Rested

variable {α β : Type} {S : World → α → Prop}

theorem rested_done (h : Follows A w w') (b : β) : Rested A w S (w', .done b) :=
  ⟨h, fun a ha => by cases ha⟩

theorem rested_waiting {a : α} (h : Follows A w w') (ha : S w' a) :
    Rested (β := β) A w S (w', .waiting a) :=
  ⟨h, fun a' ha' => by cases ha'; exact ha⟩

theorem Rested.after {y : World × Poll α β} (h : Rested A w' S y) (hf : Follows A w w') :
    Rested A w S y :=
  ⟨hf.trans h.toFollows, h.rests⟩

end Rested

/-! ### Owners and scopes -/

/-- Moves that leave the labels alone. -/
theorem Follows.of_stretch {c c' : Option Engagement}
    (h : Stretch (fun _ => True) (fun _ => True) t w c w' c') (hl : w'.labels = w.labels) :
    Follows A w w' :=
  .of_labels (instantly_of_moves h.moves) hl

theorem follows_share : Follows A w (w.share l) := .of_stretch (t := 0) share_stretch rfl

theorem follows_unlist : Follows A w (w.updateLock l fun k => { k with listed := false }) :=
  .of_stretch (t := 0) unlist_stretch rfl

theorem follows_unshare : Follows A w (w.unshare l) :=
  .of_stretch (t := 0) unshare_stretch (labels_unshare w l)

theorem follows_cancelScope : Follows A w (w.cancelScope l) :=
  .of_stretch (t := 0) cancelScope_stretch (labels_cancelScope w l)

theorem follows_dropLock : Follows A w (w.dropLock l).1 :=
  .of_stretch (t := 0) dropLock_stretch (labels_dropLock w l)

theorem follows_abandonStep (p : Progress) : Follows A w (w.abandonStep t p) :=
  .of_stretch (abandonStep_stretch p (fun _ _ => trivial) w) (labels_abandonStep w t p)

/-! ### Visits -/

/-- An errand that is a release has a deadline that the lock allows. -/
def Permits (A : Step → Prop) (w : World) (l : LockId) (errand : Errand) : Prop :=
  ∀ k d, w.locks[l]? = some k → errand = .release d → Deadline A k d

theorem permits_unlockErrand : w.Permits A l (w.unlockErrand l) := by
  intro k d hk hd
  unfold unlockErrand at hd
  rw [hk] at hd
  cases hd
  exact .term

theorem permits_of_allows {d : Span} (h : w.Allows A l d) : w.Permits A l (.release d) := by
  intro k d' hk hd
  cases hd
  obtain ⟨k', hk', hd⟩ := h
  exact Option.some.inj (hk'.symm.trans hk) ▸ hd

theorem Permits.share {errand : Errand} (h : w.Permits A l errand) :
    (w.share l).Permits A l errand := by
  intro k d hk hd
  rw [World.share, getElem?_updateLock, if_pos rfl] at hk
  obtain ⟨k', hk', rfl⟩ := Option.map_eq_some_iff.1 hk
  exact (h k' d hk' hd).congr rfl rfl

/-- What is known of a visit that waits. -/
def EntryRests (A : Step → Prop) (l : LockId) (w : World) (e : Entry) : Prop :=
  w.Rests A False (e.waits l) (some (l, e))

/-- What becomes of a visit that began at `w`, of which the labels are `ls`. -/
structure Entered (A : Step → Prop) (l : LockId) (ls : List (String × LockId))
    (y : World × Poll Entry Reply) : Prop where
  labels : y.1.labels = ls
  rests : ∀ e, y.2 = .waiting e → EntryRests A l y.1 e

section Entered

variable {ls : List (String × LockId)}

theorem entered_done (hl : w.labels = ls) (r : Reply) : Entered A l ls (w, .done r) :=
  ⟨hl, fun e he => by cases he⟩

theorem entered_reply (hl : w.labels = ls) (r : Reply) : Entered A l ls (w.reply t l r) :=
  entered_done ((labels_leave w t l).trans hl) r

theorem entered_waiting {e : Entry} (hl : w.labels = ls) (h : EntryRests A l w e) :
    Entered A l ls (w, .waiting e) :=
  ⟨hl, fun e' he => by cases he; exact h⟩

theorem entered_takeAnswer (hl : w.labels = ls) (call : LeaseCall) (a : Answer) :
    Entered A l ls (w.takeAnswer t l k call a) := by
  cases call with
  | acquire =>
    cases a with
    | ok u => exact entered_reply (w := w.setStage l .acquired) hl _
    | error e => exact entered_reply hl _
  | renew => exact entered_reply hl _
  | release => exact entered_reply ((labels_cancelScope w l).trans hl) _

/-- A visit that waits for a call and for the cancellation of its lock. -/
theorem entryRests_of_live {e : Entry} {call : LeaseCall} {f : Flight} (he : e.Awaits call f)
    (hr : call ≠ .release) (hk : w.locks[l]? = some k) (hc : k.cancelled = false) :
    EntryRests A l w e where
  live l' m hx := by
    have hl : l' = l := by
      cases he with
      | acquiring | renewing => simp_all [Entry.waits, Flight.waits]
      | releasing => exact absurd rfl hr
    exact hl ▸ ⟨k, hk, .inl hc⟩
  there l' e' h := by cases h; exact ⟨k, hk⟩
  errand l' d h := by cases h; cases he
  limit l' f' limit h := by cases h; cases he; exact absurd rfl hr

theorem entryRests_releasing {f : Flight} {limit : Timer} (hk : w.locks[l]? = some k)
    (h : w.Limited A False l f limit) : EntryRests A l w (.releasing f limit) where
  live l' m hx := by simp [Entry.waits, Flight.waits] at hx
  there l' e' h := by cases h; exact ⟨k, hk⟩
  errand l' d h := by cases h
  limit l' f' limit' h' := by cases h'; exact h

theorem entryRests_queued {errand : Errand} (hk : w.locks[l]? = some k)
    (h : ∀ d, errand = .release d → Deadline A k d) : EntryRests A l w (.queued errand) where
  live l' m hx := by cases hx
  there l' e' h := by cases h; exact ⟨k, hk⟩
  errand l' d h' := by cases h'; exact ⟨k, hk, h d rfl⟩
  limit l' f' limit h := by cases h

theorem entered_letIn (hk : w.locks[l]? = some k) {errand : Errand}
    (hd : ∀ d, errand = .release d → Deadline A k d) {y : World × Poll Entry Reply}
    (hy : w.LetIn t l k errand y) : Entered A l w.labels y := by
  have hlabels {call w' p} (hs : w.Sends l k errand call (w', p)) : w'.labels = w.labels := by
    have hl := labels_issue (w.setStage l call.during) (k.request call)
    rwa [hs.issued] at hl
  cases hy with
  | observed | refused => exact entered_reply rfl _
  | answered hs => exact entered_takeAnswer (hlabels hs) _ _
  | waiting hs hc ha =>
    have hl := hlabels hs
    exact entered_waiting hl (entryRests_of_live ha hc (hs.lock hk) (hs.live hc))
  | @releasing w' f d he hs hx =>
    subst he
    have hl := hlabels hs
    have hsent : w'.ledger.Sent f.record (k.request .release) w'.now := by
      have hu := underway_issue (w := w.setStage l .released) (k.request .release)
      rw [show (w.setStage l .released).issue (k.request .release) = _ from hs.issued] at hu
      rw [hs.now]
      exact hu.sent f rfl
    -- the deadline was allowed for the lock before it was released
    have hallows : w'.Allows A l d := ⟨_, hs.lock hk, (hd d rfl).congr rfl rfl⟩
    exact entered_waiting hl (entryRests_releasing (hs.lock hk)
      ⟨⟨_, w'.now, d, hsent, hallows, Nat.le_refl _⟩,
        .inl (Nat.lt_of_not_le (of_decide_eq_false hx))⟩)
  | @timeout w' f d he hs =>
    subst he
    have hl := hlabels hs
    exact entered_takeAnswer (w := (w'.timer d).1) hl _ _

/-- A visit begins. -/
theorem entered_visit {e : Errand} (hd : w.Permits A l e) :
    Entered A l w.labels (w.visit t l e) := by
  cases hk : w.locks[l]? with
  | none =>
    rw [visit_of_none hk]
    exact entered_done rfl _
  | some k =>
    have hk' := getElem?_enqueued hk t
    have hd' : ∀ d, e = .release d → Deadline A { k with queue := k.queue ++ [t] } d :=
      fun d h => (hd k d hk h).congr rfl rfl
    rcases visit_cases (t := t) hk e with ⟨-, he⟩ | ⟨-, he⟩ <;> rw [he]
    · exact entered_letIn hk' hd' (letIn_enter hk' e)
    · exact entered_waiting rfl (entryRests_queued hk' hd')

theorem live_of_isCancelled (hk : w.locks[l]? = some k) (hc : ¬ w.isCancelled l = true) :
    k.cancelled = false := by
  unfold isCancelled at hc
  rw [hk] at hc
  exact Bool.eq_false_iff.2 hc

/-- A visit goes on after a wait. -/
theorem entered_resumeEntry {e : Entry} (h : w.Rests A R (e.waits l) (some (l, e))) :
    Entered A l w.labels (w.resumeEntry t l e) := by
  cases hk : w.locks[l]? with
  | none =>
    rw [resumeEntry_of_none hk]
    exact entered_done rfl _
  | some k =>
    have hd {errand} (he : e = .queued errand) (d) (hr : errand = .release d) : Deadline A k d := by
      subst hr he
      obtain ⟨k', hk', hd⟩ := h.errand l d rfl
      exact Option.some.inj (hk'.symm.trans hk) ▸ hd
    have hlabels {f y} (hy : w.fly f = y) : y.1.labels = w.labels := hy ▸ labels_fly w f
    have hlock {f y} (hy : w.fly f = y) : y.1.locks[l]? = some k := by
      rw [← hy, locks_fly, hk]
    have hr := goesOn_resumeEntry (t := t) hk e
    generalize w.resumeEntry t l e = y at hr ⊢
    cases hr with
    | admitted _ hy => exact entered_letIn hk (hd rfl) hy
    | behind => exact entered_waiting rfl (entryRests_queued hk (hd rfl))
    | answered _ hy => exact entered_takeAnswer (hlabels hy) _ _
    | waiting _ hc hy hx ha =>
      have hlive := live_of_isCancelled (hlock hy) (Bool.eq_false_iff.1 hx)
      exact entered_waiting (hlabels hy) (entryRests_of_live ha hc (hlock hy) hlive)
    | interrupted _ _ hy => exact entered_reply (hlabels hy) _
    | @releasing f f' w' limit hy hx =>
      obtain ⟨r, b, d, hs, ⟨k', hk', hd⟩, hle⟩ := (h.limit l f limit rfl).sent
      have hsent : w'.ledger.Sent f'.record r b := (hy ▸ underway_fly hs).sent f' rfl
      have hallows : w'.Allows A l d := ⟨k, hlock hy, Option.some.inj (hk'.symm.trans hk) ▸ hd⟩
      exact entered_waiting (hlabels hy) (entryRests_releasing (hlock hy)
        ⟨⟨r, b, d, hsent, hallows, hle⟩, .inl (Nat.lt_of_not_le (of_decide_eq_false hx))⟩)
    | timeout hy => exact entered_takeAnswer (hlabels hy) _ _

/-- After a turn in which it begins a visit has looked at what it waits for. -/
theorem rested_visit {e : Errand} (hd : w.Permits A l e) :
    Rested A w (EntryRests A l) (w.visit t l e) :=
  have he := entered_visit hd
  ⟨.of_labels (instantly_visit e) he.labels, he.rests⟩

/-- After a turn in which it goes on a visit has looked at what it waits for. -/
theorem rested_resumeEntry {e : Entry} (h : w.Rests A R (e.waits l) (some (l, e))) :
    Rested A w (EntryRests A l) (w.resumeEntry t l e) :=
  have he := entered_resumeEntry h
  ⟨.of_labels (instantly_resumeEntry e) he.labels, he.rests⟩

end Entered

/-! ### Acquisitions -/

/-- What is known of an acquisition that waits. -/
def AttemptRests (A : Step → Prop) (l : LockId) (w : World) (a : Attempt) : Prop :=
  w.Rests A False (a.waits l) (a.entry?.map (l, ·))

section Attempts

variable {a : Attempt}

/-- A wait outside all critical sections, for the cancellation of one lock. -/
theorem rests_of_live {waits : List (Wait × Nat)} (hl : w.Live R l)
    (hx : ∀ l' n, (.scope l', n) ∈ waits → l' = l) : w.Rests A R waits none where
  live l' n h := hx l' n h ▸ hl
  there l' e h := by cases h
  errand l' d h := by cases h
  limit l' f limit h := by cases h

/-- An acquisition that waits is one of a lock. -/
theorem exists_lock_of_rests (h : w.Rests A R (a.waits l) (a.entry?.map (l, ·))) :
    ∃ k, w.locks[l]? = some k := by
  induction a with
  | entering e => exact h.there l e rfl
  | retrying inner b a ih | wrapping tag a ih => exact ih h
  | pausing inner b timer n =>
    obtain ⟨k, hk, -⟩ := h.live l n (by simp [Attempt.waits])
    exact ⟨k, hk⟩

/-- An acquisition without layers is a visit. -/
theorem rested_entering {y : World × Poll Entry Reply} (h : Rested A w (EntryRests A l) y) :
    Rested A w (AttemptRests A l) (y.1, y.2.within .entering) := by
  obtain ⟨w', e | r⟩ := y
  · exact rested_waiting h.toFollows (h.rests e rfl)
  · exact rested_done h.toFollows r

/-- A retrying layer waits only while the lock is not cancelled. -/
theorem rested_retryAfter (h : Follows A w w') (hk : w'.locks[l]? = some k) (inner : Strategy)
    (b : Backoff) (r : Reply) : Rested A w (AttemptRests A l) (w'.retryAfter l inner b r) := by
  cases r with
  | ok s => exact rested_done h _
  | error e =>
    have hd := h.trans (.quiet (quiet_takeDraw w') (by unfold takeDraw; split <;> rfl))
    have hk' : w'.takeDraw.1.locks[l]? = some k := by rw [(quiet_takeDraw w').locks, hk]
    unfold retryAfter
    dsimp only
    split
    · split
      · next delay b' _ =>
        have ht := (hd.trans (.quiet (quiet_timer _ delay) rfl)).trans
          (.quiet (quiet_takeTicket _) rfl)
        split
        · exact rested_done ht _
        · next hc =>
          exact rested_waiting ht (rests_of_live ⟨k, hk', .inl (live_of_isCancelled hk' hc)⟩
            fun _ _ => Attempt.lock_of_waits)
      · exact rested_done hd _
    · exact rested_done h _

theorem rested_noteOutcome (h : Follows A w w') (tag : String) (r : Reply) :
    Rested (α := Attempt) A w (AttemptRests A l) (w'.noteOutcome tag r, .done r) :=
  rested_done (h.trans (.quiet (quiet_noteOutcome w' tag r) (labels_noteOutcome w' tag r))) r

/-- An acquisition begins. -/
theorem rested_startAttempt (s : Strategy) :
    ∀ (w : World) (k : Lock), w.locks[l]? = some k →
      Rested A w (AttemptRests A l) (w.startAttempt t l s) := by
  induction s with
  | direct =>
    exact fun w k _ => rested_entering (rested_visit fun k d _ hd => by cases hd)
  | retry budget inner ih =>
    intro w k hk
    unfold startAttempt
    dsimp only
    have h := ih w k hk
    rcases hy : w.startAttempt t l inner with ⟨w', a | r⟩ <;> rw [hy] at h
    · exact rested_waiting h.toFollows (h.rests a rfl)
    · obtain ⟨k', hk', -⟩ := h.outlives l k hk
      exact rested_retryAfter h.toFollows hk' inner _ r
  | wrap tag refuses inner ih =>
    intro w k hk
    have hn : Follows A w (w.note ("before " ++ tag)) := .quiet (quiet_note w _) rfl
    unfold startAttempt
    dsimp only
    split
    · exact rested_noteOutcome hn tag _
    · have h := (ih (w.note ("before " ++ tag)) k hk).after hn
      rcases hy : (w.note ("before " ++ tag)).startAttempt t l inner with ⟨w', a | r⟩ <;>
        rw [hy] at h
      · exact rested_waiting h.toFollows (h.rests a rfl)
      · exact rested_noteOutcome h.toFollows tag r

/-- An acquisition goes on after a wait. -/
theorem rested_resumeAttempt (h : w.Rests A R (a.waits l) (a.entry?.map (l, ·))) :
    Rested A w (AttemptRests A l) (w.resumeAttempt t l a) := by
  obtain ⟨k, hk⟩ := exists_lock_of_rests h
  induction a with
  | entering e => exact rested_entering (rested_resumeEntry h)
  | retrying inner b a ih =>
    have h := ih h
    unfold resumeAttempt
    rcases hy : w.resumeAttempt t l a with ⟨w', a' | r⟩ <;> rw [hy] at h
    · exact rested_waiting h.toFollows (h.rests a' rfl)
    · obtain ⟨k', hk', -⟩ := h.outlives l k hk
      exact rested_retryAfter h.toFollows hk' inner b r
  | pausing inner b timer n =>
    unfold resumeAttempt
    split
    · have h := rested_startAttempt (A := A) (t := t) inner w k hk
      rcases hy : w.startAttempt t l inner with ⟨w', a' | r⟩ <;> rw [hy] at h
      · exact rested_waiting h.toFollows (h.rests a' rfl)
      · obtain ⟨k', hk', -⟩ := h.outlives l k hk
        exact rested_retryAfter h.toFollows hk' inner b r
    · split
      · exact rested_done (.refl A w) _
      · next hc =>
        exact rested_waiting (.refl A w) (rests_of_live
          ⟨k, hk, .inl (live_of_isCancelled hk hc)⟩ fun _ _ => Attempt.lock_of_waits)
  | wrapping tag a ih =>
    have h := ih h
    unfold resumeAttempt
    rcases hy : w.resumeAttempt t l a with ⟨w', a' | r⟩ <;> rw [hy] at h
    · exact rested_waiting h.toFollows (h.rests a' rfl)
    · exact rested_noteOutcome h.toFollows tag r

/-- An acquisition by the lock's own strategy begins. -/
theorem rested_startLocking : Rested A w (AttemptRests A l) (w.startLocking t l) := by
  unfold startLocking
  cases hk : w.locks[l]? with
  | none => exact rested_done (.refl A w) _
  | some k => exact rested_startAttempt k.strategy w k hk

end Attempts

end Leasehold.World
