import Mathlib.Data.List.Induction
import Mathlib.Data.String.Basic
import Mathlib.Order.WellFounded
import Mathlib.Tactic.Common
import Mathlib.Tactic.IntervalCases
import Leasehold.Lease.Request

/-!
# The grammar of lock names

The rules of names are checked one after the other.  Together they say that a name is made of groups
of letters and digits with single hyphens between them.

* `IsFirst`: the first of several faults; `eq_error_iff_isFirst`: what it takes to find it.
* `Grouped`: the grammar; `grouped_iff_tidy`: what the rules say about hyphens and characters.
* `LockName.Breaks`: how a text breaks a rule; `LockName.check_eq_error_iff`: the error is the first
  rule that is broken.
* `LockName.grammar`: which texts are names, and what the others are told.
-/

namespace Leasehold

/-! ### The first of several faults -/

section IsFirst

variable {ε α : Type} {rank : ε → ℕ} {P : ε → Prop} {e e' : ε} {x : Except ε α}

/-- Of all that has the property, `e` comes first. -/
def IsFirst (rank : ε → ℕ) (P : ε → Prop) (e : ε) : Prop := P e ∧ ∀ e', rank e' < rank e → ¬P e'

theorem exists_isFirst (h : P e) : ∃ e, IsFirst rank P e := by
  obtain ⟨e', he, hmin⟩ := (measure rank).wf.has_min {e | P e} ⟨e, h⟩
  exact ⟨e', he, fun e'' hlt hP => hmin e'' hP hlt⟩

/-- A check that answers with a first fault, and passes only if there is none, answers with every
first fault. -/
theorem eq_error_iff_isFirst (herror : ∀ e, x = .error e → IsFirst rank P e)
    (hok : ∀ a, x = .ok a → ∀ e, ¬P e)
    (hinj : ∀ e e', P e → P e' → rank e = rank e' → e = e') :
    x = .error e ↔ IsFirst rank P e := by
  refine ⟨herror e, fun h => ?_⟩
  cases hx : x with
  | ok a => exact absurd h.1 (hok a hx e)
  | error e' =>
    have h' := herror e' hx
    have hle : rank e ≤ rank e' := Nat.not_lt.1 fun hlt => h.2 e' hlt h'.1
    have hge : rank e' ≤ rank e := Nat.not_lt.1 fun hlt => h'.2 e hlt h.1
    rw [hinj e e' h.1 h'.1 (Nat.le_antisymm hle hge)]

end IsFirst

/-! ### Characters -/

/-- The letters and digits of names. -/
def IsGroupChar (c : Char) : Prop := 'a' ≤ c ∧ c ≤ 'z' ∨ '0' ≤ c ∧ c ≤ '9'

variable {c : Char} {cs g : List Char} {n : String} {e e' : NameFailure}

theorem isNameChar_iff : isNameChar c = true ↔ IsGroupChar c ∨ c = '-' := by
  simp [isNameChar, IsGroupChar]

theorem IsGroupChar.ne_hyphen (h : IsGroupChar c) : c ≠ '-' := by
  rintro rfl
  revert h
  unfold IsGroupChar
  decide

theorem ascii_of_isNameChar (h : isNameChar c = true) : c.toNat < 128 := by
  simp only [isNameChar, Bool.or_eq_true, Bool.and_eq_true, decide_eq_true_eq, beq_iff_eq,
    Char.le_def, UInt32.le_iff_toNat_le] at h
  obtain (⟨-, h⟩ | ⟨-, h⟩) | rfl := h
  · exact Nat.lt_of_le_of_lt h (by decide)
  · exact Nat.lt_of_le_of_lt h (by decide)
  · decide

/-- What holds of the few characters of names can be tried out. -/
theorem forall_isNameChar {P : Char → Prop}
    (hall : ∀ n : Fin 128, isNameChar (Char.ofNat n) = true → P (Char.ofNat n))
    (h : isNameChar c = true) : P c := by
  have hc := hall ⟨c.toNat, ascii_of_isNameChar h⟩
  simp only [Char.ofNat_toNat] at hc
  exact hc h

theorem lowerChar_of_isNameChar (h : isNameChar c = true) : Text.lowerChar c = [c] := by
  have hlower : c.toLower = c := forall_isNameChar (P := fun c => c.toLower = c) (by decide) h
  rw [Text.lowerChar, if_pos (ascii_of_isNameChar h), hlower]

/-- A text of such characters is its own lowercase form. -/
theorem lowercase_of_isNameChar (h : n.toList.all isNameChar = true) : Text.lowercase n = n := by
  have hlist : ∀ before, Text.lowerAfter before n.toList = n.toList := by
    generalize n.toList = cs at h
    induction cs with
    | nil => exact fun _ => rfl
    | cons c cs ih =>
      intro before
      rw [List.all_cons, Bool.and_eq_true] at h
      have hascii := ascii_of_isNameChar h.1
      rw [Text.lowerAfter, if_neg (by omega), lowerChar_of_isNameChar h.1, ih h.2]
      rfl
  rw [Text.lowercase, hlist, String.ofList_toList]

/-! ### Groups -/

/-- Letters and digits, at least one. -/
def IsGroup (g : List Char) : Prop := g ≠ [] ∧ ∀ c ∈ g, IsGroupChar c

/-- One or more groups with single hyphens between them. -/
inductive Grouped : List Char → Prop
  | group {g : List Char} : IsGroup g → Grouped g
  | join {g rest : List Char} : IsGroup g → Grouped rest → Grouped (g ++ '-' :: rest)

theorem isGroup_singleton (h : IsGroupChar c) : IsGroup [c] :=
  ⟨List.cons_ne_nil _ _, fun _ hd => List.mem_singleton.1 hd ▸ h⟩

theorem IsGroup.cons (hc : IsGroupChar c) (h : IsGroup g) : IsGroup (c :: g) :=
  ⟨List.cons_ne_nil _ _, List.forall_mem_cons.2 ⟨hc, h.2⟩⟩

theorem Grouped.cons (hc : IsGroupChar c) (h : Grouped cs) : Grouped (c :: cs) := by
  cases h with
  | group hg => exact .group (hg.cons hc)
  | join hg hrest => exact .join (hg.cons hc) hrest

/-- What the rules ask of a text, its length apart. -/
structure Tidy (cs : List Char) : Prop where
  nonempty : cs ≠ []
  chars : cs.all isNameChar = true
  head : cs.head? ≠ some '-'
  last : cs.getLast? ≠ some '-'
  single : hasDoubleHyphen cs = false

namespace Tidy

theorem singleton (hc : IsGroupChar c) : Tidy [c] := by
  have hne := hc.ne_hyphen
  refine ⟨List.cons_ne_nil _ _, ?_, by simpa using hne, by simpa using hne, ?_⟩
  · simp [isNameChar_iff.2 (.inl hc)]
  · simp [hasDoubleHyphen]

theorem cons (hc : IsGroupChar c) (h : Tidy cs) : Tidy (c :: cs) := by
  have hne := hc.ne_hyphen
  obtain ⟨d, ds, rfl⟩ := List.exists_cons_of_ne_nil h.nonempty
  refine ⟨List.cons_ne_nil _ _, ?_, by simpa using hne, ?_, ?_⟩
  · rw [List.all_cons, isNameChar_iff.2 (.inl hc), h.chars]
    rfl
  · rw [List.getLast?_cons_cons]
    exact h.last
  · simpa [hasDoubleHyphen, hne] using h.single

theorem hyphen (hc : IsGroupChar c) (h : Tidy cs) : Tidy (c :: '-' :: cs) := by
  have hne := hc.ne_hyphen
  obtain ⟨d, ds, rfl⟩ := List.exists_cons_of_ne_nil h.nonempty
  have hd : d ≠ '-' := fun he => h.head (by rw [he]; rfl)
  refine ⟨List.cons_ne_nil _ _, ?_, by simpa using hne, ?_, ?_⟩
  · rw [List.all_cons, List.all_cons, isNameChar_iff.2 (.inl hc), h.chars]
    rfl
  · rw [List.getLast?_cons_cons, List.getLast?_cons_cons]
    exact h.last
  · simpa [hasDoubleHyphen, hne, hd] using h.single

end Tidy

theorem tidy_group (h : IsGroup g) : Tidy g := by
  induction g with
  | nil => exact absurd rfl h.1
  | cons c g ih =>
    have hc : IsGroupChar c := h.2 c List.mem_cons_self
    cases g with
    | nil => exact .singleton hc
    | cons d g => exact (ih ⟨List.cons_ne_nil _ _, fun x hx => h.2 x (.tail _ hx)⟩).cons hc

theorem tidy_join (h : IsGroup g) (hcs : Tidy cs) : Tidy (g ++ '-' :: cs) := by
  induction g with
  | nil => exact absurd rfl h.1
  | cons c g ih =>
    have hc : IsGroupChar c := h.2 c List.mem_cons_self
    cases g with
    | nil => exact hcs.hyphen hc
    | cons d g => exact (ih ⟨List.cons_ne_nil _ _, fun x hx => h.2 x (.tail _ hx)⟩).cons hc

namespace Tidy

theorem isGroupChar (h : Tidy (c :: cs)) : IsGroupChar c := by
  have hc := List.all_eq_true.1 h.chars c List.mem_cons_self
  refine (isNameChar_iff.1 hc).resolve_right fun he => h.head ?_
  rw [he]
  rfl

theorem tail {d : Char} (h : Tidy (c :: d :: cs)) (hd : d ≠ '-') : Tidy (d :: cs) where
  nonempty := List.cons_ne_nil _ _
  chars := (Bool.and_eq_true_iff.1 h.chars).2
  head := by simpa using hd
  last := h.last
  single := by simpa [hasDoubleHyphen, h.isGroupChar.ne_hyphen] using h.single

theorem afterHyphen (h : Tidy (c :: '-' :: cs)) : Tidy cs := by
  have hne : cs ≠ [] := by
    rintro rfl
    exact h.last rfl
  obtain ⟨d, ds, rfl⟩ := List.exists_cons_of_ne_nil hne
  have hsingle := h.single
  have hd : d ≠ '-' := by
    rintro rfl
    simp [hasDoubleHyphen, h.isGroupChar.ne_hyphen] at hsingle
  have hchars := (Bool.and_eq_true_iff.1 h.chars).2
  exact ⟨hne, (Bool.and_eq_true_iff.1 hchars).2, by simpa using hd, h.last,
    by simpa [hasDoubleHyphen, h.isGroupChar.ne_hyphen, hd] using hsingle⟩

/-- Character by character, a hyphen together with the one before it. -/
theorem grouped (h : Tidy cs) : Grouped cs := by
  induction cs using List.twoStepInduction with
  | nil => exact absurd rfl h.nonempty
  | singleton c => exact .group (isGroup_singleton h.isGroupChar)
  | cons_cons c d cs ih ih' =>
    by_cases hd : d = '-'
    · subst hd
      exact .join (isGroup_singleton h.isGroupChar) (ih h.afterHyphen)
    · exact .cons h.isGroupChar (ih' d (h.tail hd))

end Tidy

theorem grouped_iff_tidy : Grouped cs ↔ Tidy cs := by
  refine ⟨fun h => ?_, Tidy.grouped⟩
  induction h with
  | group hg => exact tidy_group hg
  | join hg _ ih => exact tidy_join hg ih

/-! ### The rules -/

theorem firstForeign?_eq_none_iff {k : ℕ} :
    firstForeign? k cs = none ↔ cs.all isNameChar = true := by
  induction cs generalizing k with
  | nil => simp [firstForeign?]
  | cons c cs ih => cases hc : isNameChar c <;> simp [firstForeign?, hc, ih]

theorem firstForeign?_append {before : List Char} (hb : before.all isNameChar = true)
    (hc : isNameChar c = false) (after : List Char) (k : ℕ) :
    firstForeign? k (before ++ c :: after) =
      some (c, k + (String.ofList before).utf8ByteSize) := by
  induction before generalizing k with
  | nil => simp [firstForeign?, hc]
  | cons d before ih =>
    rw [List.all_cons, Bool.and_eq_true] at hb
    rw [List.cons_append, firstForeign?, if_pos hb.1, ih hb.2]
    simp only [String.utf8ByteSize_ofList, String.utf8Len_cons]
    congr 2
    omega

theorem exists_of_firstForeign? {k i : ℕ} (h : firstForeign? k cs = some (c, i)) :
    ∃ before after, cs = before ++ c :: after ∧ before.all isNameChar = true ∧
      isNameChar c = false := by
  induction cs generalizing k with
  | nil => cases h
  | cons d cs ih =>
    unfold firstForeign? at h
    split at h
    · next hd =>
      obtain ⟨before, after, rfl, hb, hc⟩ := ih h
      refine ⟨d :: before, after, rfl, ?_, hc⟩
      rw [List.all_cons, hd, hb]
      rfl
    · next hd =>
      cases h
      exact ⟨[], cs, rfl, rfl, Bool.eq_false_iff.2 hd⟩

theorem hasDoubleHyphen_iff :
    hasDoubleHyphen cs = true ↔ ∃ before after, cs = before ++ '-' :: '-' :: after := by
  fun_induction hasDoubleHyphen cs with
  | case1 rest => exact ⟨fun _ => ⟨[], rest, rfl⟩, fun _ => rfl⟩
  | case2 c rest hne ih =>
    rw [ih]
    constructor
    · rintro ⟨before, after, rfl⟩
      exact ⟨c :: before, after, rfl⟩
    · rintro ⟨before, after, he⟩
      cases before with
      | nil =>
        cases he
        exact (hne _ rfl rfl).elim
      | cons d before =>
        cases he
        exact ⟨before, after, rfl⟩
  | case3 => simp

/-- The order of the rules. -/
def NameFailure.rank : NameFailure → ℕ
  | tooShort _ => 0
  | tooLong _ => 1
  | foreignCharacter .. => 2
  | leadingHyphen _ => 3
  | trailingHyphen _ => 4
  | doubleHyphen _ => 5

namespace LockName

/-- The text breaks a rule, and the error says which one. -/
inductive Breaks (n : String) : NameFailure → Prop
  | tooShort : n.utf8ByteSize < 3 → Breaks n (.tooShort n)
  | tooLong : 58 < n.utf8ByteSize → Breaks n (.tooLong n)
  /-- The first character that names do not have, and the number of bytes before it. -/
  | foreignCharacter (before : List Char) (c : Char) (after : List Char) :
      n.toList = before ++ c :: after → before.all isNameChar = true → isNameChar c = false →
      Breaks n (.foreignCharacter n c (String.ofList before).utf8ByteSize)
  | leadingHyphen (rest : List Char) : n.toList = '-' :: rest → Breaks n (.leadingHyphen n)
  | trailingHyphen (front : List Char) : n.toList = front ++ ['-'] → Breaks n (.trailingHyphen n)
  | doubleHyphen (before after : List Char) : n.toList = before ++ '-' :: '-' :: after →
      Breaks n (.doubleHyphen n)

/-- The texts of names: 3 to 58 bytes in groups. -/
def IsName (n : String) : Prop := 3 ≤ n.utf8ByteSize ∧ n.utf8ByteSize ≤ 58 ∧ Grouped n.toList

/-- What is seen of a text that breaks the rule of a rank. -/
def IsBroken (n : String) : ℕ → Prop
  | 0 => n.utf8ByteSize < minLength
  | 1 => maxLength < n.utf8ByteSize
  | 2 => firstForeign? 0 n.toList ≠ none
  | 3 => n.toList.head? = some '-'
  | 4 => n.toList.getLast? = some '-'
  | 5 => hasDoubleHyphen n.toList = true
  | _ => False

theorem Breaks.isBroken (h : Breaks n e) : IsBroken n e.rank := by
  cases h with
  | tooShort hs => exact hs
  | tooLong hl => exact hl
  | foreignCharacter before c after hn hb hc =>
    show firstForeign? 0 n.toList ≠ none
    rw [hn, firstForeign?_append hb hc]
    simp
  | leadingHyphen rest hn =>
    show n.toList.head? = some '-'
    rw [hn]
    rfl
  | trailingHyphen front hn =>
    show n.toList.getLast? = some '-'
    rw [hn, List.getLast?_concat]
  | doubleHyphen before after hn => exact hasDoubleHyphen_iff.2 ⟨before, after, hn⟩

theorem Breaks.unique (h : Breaks n e) (h' : Breaks n e') (hr : e.rank = e'.rank) : e = e' := by
  cases h <;> cases h'
  case foreignCharacter.foreignCharacter before c after hn hb hc before' c' after' hn' hb' hc' =>
    -- both are what the search from the left comes to
    have hfound := (firstForeign?_append hb hc after 0).symm.trans
      ((congrArg (firstForeign? 0) (hn.symm.trans hn')).trans
        (firstForeign?_append hb' hc' after' 0))
    obtain ⟨rfl, hi⟩ := Prod.mk.inj (Option.some.inj hfound)
    rw [Nat.zero_add, Nat.zero_add] at hi
    rw [hi]
  all_goals cases hr <;> rfl

/-- A text either breaks no rule and passes, or it is told of a rule that it breaks while it keeps
all rules before that one. -/
theorem check_cases (n : String) :
    (check n = .ok () ∧ ∀ i, ¬IsBroken n i) ∨
      ∃ e, check n = .error e ∧ Breaks n e ∧ ∀ i < e.rank, ¬IsBroken n i := by
  unfold check
  dsimp only
  by_cases hshort : n.utf8ByteSize < minLength
  · refine .inr ⟨_, if_pos hshort, .tooShort hshort, fun i hi => ?_⟩
    cases hi
  rw [if_neg hshort]
  by_cases hlong : maxLength < n.utf8ByteSize
  · refine .inr ⟨_, if_pos hlong, .tooLong hlong, fun i (hi : i < 1) => ?_⟩
    interval_cases i
    exact hshort
  rw [if_neg hlong]
  cases hforeign : firstForeign? 0 n.toList with
  | some x =>
    obtain ⟨c, k⟩ := x
    obtain ⟨before, after, hn, hb, hc⟩ := exists_of_firstForeign? hforeign
    rw [hn, firstForeign?_append hb hc, Nat.zero_add] at hforeign
    cases hforeign
    refine .inr ⟨_, rfl, .foreignCharacter before c after hn hb hc, fun i (hi : i < 2) => ?_⟩
    interval_cases i
    exacts [hshort, hlong]
  | none =>
    dsimp only
    have hchars : ¬IsBroken n 2 := not_not.2 hforeign
    by_cases hhead : n.toList.head? = some '-'
    · obtain ⟨rest, hn⟩ := List.head?_eq_some_iff.1 hhead
      refine .inr ⟨_, if_pos hhead, .leadingHyphen rest hn, fun i (hi : i < 3) => ?_⟩
      interval_cases i
      exacts [hshort, hlong, hchars]
    rw [if_neg hhead]
    by_cases hlast : n.toList.getLast? = some '-'
    · obtain ⟨front, hn⟩ := List.getLast?_eq_some_iff.1 hlast
      refine .inr ⟨_, if_pos hlast, .trailingHyphen front hn, fun i (hi : i < 4) => ?_⟩
      interval_cases i
      exacts [hshort, hlong, hchars, hhead]
    rw [if_neg hlast]
    by_cases hdouble : hasDoubleHyphen n.toList = true
    · obtain ⟨before, after, hn⟩ := hasDoubleHyphen_iff.1 hdouble
      refine .inr ⟨_, if_pos hdouble, .doubleHyphen before after hn, fun i (hi : i < 5) => ?_⟩
      interval_cases i
      exacts [hshort, hlong, hchars, hhead, hlast]
    refine .inl ⟨if_neg hdouble, fun i hi => ?_⟩
    unfold IsBroken at hi
    split at hi
    exacts [hshort hi, hlong hi, hi hforeign, hhead hi, hlast hi, hdouble hi, hi]

/-- The error is the first rule that is broken. -/
theorem check_eq_error_iff : check n = .error e ↔ IsFirst NameFailure.rank (Breaks n) e := by
  refine eq_error_iff_isFirst (fun e h => ?_) (fun _ h e he => ?_) fun e e' => Breaks.unique
  · obtain ⟨hok, -⟩ | ⟨e', herror, hb, hlow⟩ := check_cases n
    · cases h.symm.trans hok
    · cases h.symm.trans herror
      exact ⟨hb, fun e' hlt he' => hlow e'.rank hlt he'.isBroken⟩
  · obtain ⟨-, hall⟩ | ⟨e', herror, -⟩ := check_cases n
    · exact hall e.rank he.isBroken
    · cases h.symm.trans herror

theorem isName_iff : IsName n ↔ ∀ i, ¬IsBroken n i := by
  constructor
  · rintro ⟨hshort, hlong, hgrouped⟩ i hi
    have htidy := grouped_iff_tidy.1 hgrouped
    unfold IsBroken at hi
    split at hi
    · exact Nat.not_le.2 hi hshort
    · exact Nat.not_le.2 hi hlong
    · exact hi (firstForeign?_eq_none_iff.2 htidy.chars)
    · exact htidy.head hi
    · exact htidy.last hi
    · exact Bool.false_ne_true (htidy.single.symm.trans hi)
    · exact hi
  · intro hall
    have hshort : 3 ≤ n.utf8ByteSize := Nat.not_lt.1 (hall 0)
    refine ⟨hshort, Nat.not_lt.1 (hall 1),
      grouped_iff_tidy.2 ⟨fun he => ?_, ?_, hall 3, hall 4, ?_⟩⟩
    · rw [String.toList_eq_nil_iff.1 he] at hshort
      exact absurd hshort (by decide)
    · exact firstForeign?_eq_none_iff.1 (not_not.1 (hall 2))
    · exact Bool.eq_false_iff.2 (hall 5)

/-- The texts that pass are those of the grammar. -/
theorem check_eq_ok_iff : check n = .ok () ↔ IsName n := by
  rw [isName_iff]
  obtain ⟨hok, hall⟩ | ⟨e, herror, hb, -⟩ := check_cases n
  · exact ⟨fun _ => hall, fun _ => hok⟩
  · refine ⟨fun hok => ?_, fun hall => absurd hb.isBroken (hall _)⟩
    cases hok.symm.trans herror

/-! ### Names -/

theorem parse_eq_ok_iff {s : String} {k : LockName} :
    parse s = .ok k ↔ k.text = Text.lowercase s := by
  unfold parse
  split
  · next e he =>
    refine ⟨fun h => (by cases h), fun h => ?_⟩
    cases (h ▸ k.check_text).symm.trans he
  · next h =>
    obtain ⟨text, htext⟩ := k
    constructor
    · rintro ⟨⟩
      rfl
    · rintro rfl
      rfl

theorem parse_eq_error_iff {s : String} :
    parse s = .error e ↔ check (Text.lowercase s) = .error e := by
  unfold parse
  split
  · next e' he => rw [he, Except.error.injEq, Except.error.injEq]
  · next hok =>
    refine ⟨fun h => (by cases h), fun h => ?_⟩
    cases hok.symm.trans h

theorem exists_parse_iff {s : String} : (∃ k, parse s = .ok k) ↔ IsName (Text.lowercase s) := by
  rw [← check_eq_ok_iff]
  constructor
  · rintro ⟨k, hk⟩
    rw [← parse_eq_ok_iff.1 hk]
    exact k.check_text
  · exact fun h => ⟨⟨_, h⟩, parse_eq_ok_iff.2 rfl⟩

theorem isName_text (k : LockName) : IsName k.text := check_eq_ok_iff.1 k.check_text

theorem chars_text (k : LockName) : k.text.toList.all isNameChar = true :=
  (grouped_iff_tidy.1 k.isName_text.2.2).chars

/-- A name is read as itself. -/
theorem parse_text (k : LockName) : parse k.text = .ok k :=
  parse_eq_ok_iff.2 (lowercase_of_isNameChar k.chars_text).symm

theorem grouped_backingName (k : LockName) : Grouped k.backingName.toList := by
  have hstem : IsGroup "azlk".toList := by
    unfold IsGroup IsGroupChar
    simp
  have hjoin : k.backingName.toList = "azlk".toList ++ '-' :: k.text.toList := by
    rw [backingName, String.toList_append]
    rfl
  rw [hjoin]
  exact .join hstem k.isName_text.2.2

theorem length_backingName_le (k : LockName) : k.backingName.length ≤ 63 := by
  have hbytes : ∀ cs : List Char, cs.length ≤ String.utf8Len cs := by
    intro cs
    induction cs with
    | nil => exact Nat.le_refl 0
    | cons c cs ih => exact Nat.add_le_add ih c.utf8Size_pos
  have htext := (hbytes k.text.toList).trans (String.utf8Len_toList k.text ▸ k.isName_text.2.1)
  rw [backingName, String.length_append, show objectStem.length = 5 by decide]
  rw [String.length_toList] at htext
  omega

theorem eq_of_text {k k' : LockName} (h : k.text = k'.text) : k = k' := by
  obtain ⟨text, _⟩ := k
  obtain ⟨text', _⟩ := k'
  cases h
  rfl

/-- Names with the same object are the same. -/
theorem backing_inj {k k' : LockName} (h : k.backing = k'.backing) : k = k' := by
  have hname : objectStem ++ k.text = objectStem ++ k'.text := congrArg ObjectPath.name h
  exact eq_of_text ((String.append_right_inj _).1 hname)

/-- The texts that are read as names are those whose lowercase form is in the grammar; the others
are told of the first rule that the form breaks.  A name is read as itself, and the name of its
object is in the grammar too and belongs to no other name. -/
theorem grammar (s : String) :
    ((∃ k, parse s = .ok k) ↔ IsName (Text.lowercase s)) ∧
    (∀ k, parse s = .ok k → k.text = Text.lowercase s ∧ parse k.text = .ok k ∧
      Grouped k.backingName.toList ∧ k.backingName.length ≤ 63 ∧
      ∀ s' k', parse s' = .ok k' →
        (k.backing = k'.backing ↔ Text.lowercase s = Text.lowercase s')) ∧
    (∀ e, parse s = .error e ↔ IsFirst NameFailure.rank (Breaks (Text.lowercase s)) e) ∧
    (verify s = .ok () ↔ IsName (Text.lowercase s)) ∧
    ∀ e, verify s = .error e ↔ parse s = .error e := by
  refine ⟨exists_parse_iff, fun k hk => ?_, fun e => parse_eq_error_iff.trans check_eq_error_iff,
    check_eq_ok_iff, fun e => parse_eq_error_iff.symm⟩
  have htext := parse_eq_ok_iff.1 hk
  refine ⟨htext, k.parse_text, k.grouped_backingName, k.length_backingName_le, fun s' k' hk' => ?_⟩
  rw [← htext, ← parse_eq_ok_iff.1 hk']
  exact ⟨fun h => congrArg text (backing_inj h), fun h => congrArg LockName.backing (eq_of_text h)⟩

/-- A name in two spellings, and what a text is told that breaks two rules. -/
theorem grammar_mixedCase :
    (∃ k k', parse "Svc-A1" = .ok k ∧ parse "SVC-a1" = .ok k' ∧ k.text = "svc-a1" ∧
      parse k.text = .ok k ∧ Grouped k.backingName.toList ∧ k.backing = k'.backing) ∧
    parse "-Svc_A" = .error (.foreignCharacter "-svc_a" '_' 4) ∧
    IsFirst NameFailure.rank (Breaks "-svc_a") (.foreignCharacter "-svc_a" '_' 4) := by
  have hk : parse "Svc-A1" = .ok ⟨"svc-a1", by decide⟩ := parse_eq_ok_iff.2 (by decide)
  have hk' : parse "SVC-a1" = .ok ⟨"svc-a1", by decide⟩ := parse_eq_ok_iff.2 (by decide)
  have he : parse "-Svc_A" = .error (.foreignCharacter "-svc_a" '_' 4) :=
    parse_eq_error_iff.2 (by decide)
  have hlower : Text.lowercase "-Svc_A" = "-svc_a" := by decide
  obtain ⟨-, hkept, -⟩ := grammar "Svc-A1"
  obtain ⟨-, -, hfirst, -⟩ := grammar "-Svc_A"
  obtain ⟨htext, hself, hgrouped, -, hsame⟩ := hkept _ hk
  refine ⟨⟨_, _, hk, hk', rfl, hself, hgrouped, (hsame _ _ hk').2 (by decide)⟩, he, ?_⟩
  exact hlower ▸ (hfirst _).1 he

end LockName

end Leasehold
