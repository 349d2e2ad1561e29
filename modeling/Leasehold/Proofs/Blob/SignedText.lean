import Mathlib.Data.List.Perm.Basic
import Leasehold.Proofs.Blob.Addressing

/-!
# The signed text tells the request

A signature is made over one text, in which the parts of a request follow one another without any
escapes.  Still no two requests share a text: every part ends at the first occurrence of a mark that
it cannot contain.

* `Signed.text_of_perm`: the order of the parameters does not matter.
* `Signed.same_of_text_eq`: from the text every part of the request can be read again.
* `Client.onWire_of_compose`: a call of a lock goes out with the parts that are signed.
-/

namespace Leasehold.Blob

/-! ### Sorted values -/

namespace Fields

/-- Names that follow each other in their order, each once. -/
def Sorted (fields : Fields) : Prop := fields.Pairwise fun a b => a.1 < b.1

variable {fields : Fields} {name value : String}

theorem perm_insert (h : name ∉ fields.map Prod.fst) :
    (insert name value fields).Perm ((name, value) :: fields) := by
  induction fields with
  | nil => exact List.Perm.refl _
  | cons field rest ih =>
    obtain ⟨hne, hrest⟩ := not_or.1 (mt List.mem_cons.2 h)
    rw [insert, if_neg (Ne.symm hne)]
    split
    · exact List.Perm.refl _
    · exact ((ih hrest).cons field).trans (List.Perm.swap _ _ _)

theorem Sorted.insert (h : Sorted fields) (hname : name ∉ fields.map Prod.fst) :
    Sorted (fields.insert name value) := by
  induction fields with
  | nil => exact List.pairwise_singleton _ _
  | cons field rest ih =>
    obtain ⟨hne, hrest⟩ := not_or.1 (mt List.mem_cons.2 hname)
    obtain ⟨hfield, hsorted⟩ := List.pairwise_cons.1 h
    rw [Fields.insert, if_neg (Ne.symm hne)]
    split
    · next hlt =>
      refine List.pairwise_cons.2 ⟨fun other hother => ?_, h⟩
      obtain rfl | hother := List.mem_cons.1 hother
      · exact hlt
      · exact String.lt_trans hlt (hfield other hother)
    · next hge =>
      have hlt : field.1 < name := by
        by_contra hle
        exact hne (String.le_antisymm (String.not_lt.1 hle) (String.not_lt.1 hge))
      refine List.pairwise_cons.2 ⟨fun other hother => ?_, ih hsorted hrest⟩
      obtain rfl | hother := List.mem_cons.1 ((perm_insert hrest).mem_iff.1 hother)
      · exact hlt
      · exact hfield other hother

/-- Values that are put behind others with other names. -/
theorem foldl_insert (pairs : List (String × String)) (hsorted : Sorted fields)
    (hnames : ((fields ++ pairs).map Prod.fst).Nodup) :
    let all := pairs.foldl (fun fields pair => fields.insert pair.1 pair.2) fields
    Sorted all ∧ all.Perm (fields ++ pairs) := by
  induction pairs generalizing fields with
  | nil => exact ⟨hsorted, by rw [List.append_nil]; rfl⟩
  | cons pair rest ih =>
    have hpair : pair.1 ∉ fields.map Prod.fst := by
      rw [List.map_append, List.map_cons] at hnames
      exact fun h => (List.nodup_append.1 hnames).2.2 _ h _ List.mem_cons_self rfl
    have hperm : (fields.insert pair.1 pair.2 ++ rest).Perm (fields ++ pair :: rest) :=
      ((perm_insert hpair).append_right rest).trans List.perm_middle.symm
    have hall := ih (hsorted.insert hpair) ((hperm.map Prod.fst).nodup_iff.2 hnames)
    exact ⟨hall.1, hall.2.trans hperm⟩

/-- Values of different names are all kept, in the order of their names. -/
theorem ofList_spec {pairs : List (String × String)} (h : (pairs.map Prod.fst).Nodup) :
    Sorted (ofList pairs) ∧ (ofList pairs).Perm pairs :=
  foldl_insert pairs List.Pairwise.nil h

/-- The order in which values are given does not matter. -/
theorem ofList_of_perm {pairs pairs' : List (String × String)} (hperm : pairs.Perm pairs')
    (h : (pairs.map Prod.fst).Nodup) : ofList pairs = ofList pairs' := by
  obtain ⟨hsorted, hpairs⟩ := ofList_spec h
  obtain ⟨hsorted', hpairs'⟩ := ofList_spec ((hperm.map Prod.fst).nodup_iff.1 h)
  refine List.Perm.eq_of_pairwise (fun a b _ _ hab hba => ?_) hsorted hsorted'
    (hpairs.trans (hperm.trans hpairs'.symm))
  exact absurd hba (String.lt_asymm hab)

end Fields

/-! ### Lines -/

/-- A text up to the first mark can be told from what follows. -/
theorem eq_of_cut {mark : Char} {a b r s : List Char} (ha : mark ∉ a) (hb : mark ∉ b)
    (h : a ++ mark :: r = b ++ mark :: s) : a = b ∧ r = s := by
  induction a generalizing b with
  | nil =>
    cases b with
    | nil => exact ⟨rfl, (List.cons.inj h).2⟩
    | cons c b => exact absurd (List.mem_cons.2 (.inl (List.cons.inj h).1)) hb
  | cons c a ih =>
    cases b with
    | nil => exact absurd (List.mem_cons.2 (.inl (List.cons.inj h).1.symm)) ha
    | cons d b =>
      obtain ⟨rfl, htail⟩ := List.cons.inj h
      obtain ⟨rfl, hrest⟩ := ih (fun hmem => ha (List.mem_cons_of_mem c hmem))
        (fun hmem => hb (List.mem_cons_of_mem c hmem)) htail
      exact ⟨rfl, hrest⟩

/-- A name and a value on a line of their own. -/
def lineText (pair : List Char × List Char) : List Char := pair.1 ++ ':' :: (pair.2 ++ ['\n'])

/-- Whether a line can be read again: the name ends at its first colon. -/
def IsLine (pair : List Char × List Char) : Prop := ':' ∉ pair.1 ∧ '\n' ∉ pair.2

/-- Lines can be told apart, and from what follows if that begins like none of them. -/
theorem lines_injective {ls ls' : List (List Char × List Char)} {r r' : List Char}
    (hls : ∀ l ∈ ls, IsLine l) (hls' : ∀ l ∈ ls', IsLine l)
    (hr : ∀ l ∈ ls', r.head? ≠ (lineText l).head?) (hr' : ∀ l ∈ ls, r'.head? ≠ (lineText l).head?)
    (h : ls.flatMap lineText ++ r = ls'.flatMap lineText ++ r') : ls = ls' ∧ r = r' := by
  have hhead (l : List Char × List Char) (t : List Char) :
      (lineText l ++ t).head? = (lineText l).head? := by
    unfold lineText
    cases l.1 <;> rfl
  induction ls generalizing ls' with
  | nil =>
    cases ls' with
    | nil => exact ⟨rfl, h⟩
    | cons l' ls' =>
      refine absurd (congrArg List.head? h) ?_
      rw [List.flatMap_cons, List.append_assoc, hhead]
      exact hr l' List.mem_cons_self
  | cons l ls ih =>
    cases ls' with
    | nil =>
      refine absurd (congrArg List.head? h).symm ?_
      rw [List.flatMap_cons, List.append_assoc, hhead]
      exact hr' l List.mem_cons_self
    | cons l' ls' =>
      have hl := hls l List.mem_cons_self
      have hl' := hls' l' List.mem_cons_self
      simp only [List.flatMap_cons, lineText, List.append_assoc, List.cons_append,
        List.nil_append] at h
      obtain ⟨hname, h⟩ := eq_of_cut hl.1 hl'.1 h
      obtain ⟨hvalue, h⟩ := eq_of_cut hl.2 hl'.2 h
      obtain ⟨rfl, hrest⟩ := ih (fun m hm => hls m (List.mem_cons_of_mem l hm))
        (fun m hm => hls' m (List.mem_cons_of_mem l' hm))
        (fun m hm => hr m (List.mem_cons_of_mem l' hm))
        (fun m hm => hr' m (List.mem_cons_of_mem l hm)) h
      exact ⟨by rw [Prod.ext hname hvalue], hrest⟩

theorem toList_foldl {α : Type} {step : String → α → String} {f : α → List Char}
    (h : ∀ text x, (step text x).toList = text.toList ++ f x) (xs : List α) (text : String) :
    (xs.foldl step text).toList = text.toList ++ xs.flatMap f := by
  induction xs generalizing text with
  | nil => rw [List.foldl_nil, List.flatMap_nil, List.append_nil]
  | cons x xs ih => rw [List.foldl_cons, ih, h, List.flatMap_cons, List.append_assoc]

/-! ### What is signed -/

/-- The parts of a request that its signature covers. -/
structure Signed where
  method : String
  condition : Option String
  headers : Fields
  account : String
  path : String
  query : List (String × String)

namespace Signed

/-- The text that is signed. -/
def text (s : Signed) : String :=
  signingText s.method s.condition s.headers (resourceText s.account s.path s.query)

/-- Headers as they are signed: white space around a value does not count. -/
def trimmedHeaders (s : Signed) : Fields := s.headers.map fun h => (h.1, Text.trimmed h.2)

/-- Whether a text can be the name of a header or a parameter. -/
def IsName (name : String) : Prop := Text.lowercase name = name ∧ ':' ∉ name.toList

/-- Whether a text stands on one line. -/
def IsOneLine (text : String) : Prop := '\n' ∉ text.toList

instance (name : String) : Decidable (IsName name) := inferInstanceAs (Decidable (_ ∧ _))

instance (text : String) : Decidable (IsOneLine text) := inferInstanceAs (Decidable (¬_))

/-- What the parts must be like for the text to tell them. -/
structure Legible (s : Signed) : Prop where
  method : IsOneLine s.method
  condition : ∀ value ∈ s.condition, IsOneLine value
  headers : ∀ h ∈ s.headers, IsName h.1 ∧ h.1 ≠ "" ∧ h.1.toList.head? ≠ some '/' ∧ IsOneLine h.2
  account : '/' ∉ s.account.toList
  path : s.path.toList.head? = some '/' ∧ IsOneLine s.path
  query : ∀ p ∈ s.query, IsName p.1 ∧ IsOneLine p.2
  distinct : (s.query.map Prod.fst).Nodup

/-- Two requests are the same up to what a signature passes over: white space around the values of
headers, the order of the parameters, and an empty condition. -/
structure Same (s s' : Signed) : Prop where
  method : s.method = s'.method
  condition : s.condition.getD "" = s'.condition.getD ""
  headers : s.trimmedHeaders = s'.trimmedHeaders
  account : s.account = s'.account
  path : s.path = s'.path
  query : s.query.Perm s'.query

/-- A name and a value as characters. -/
def chars (pair : String × String) : List Char × List Char := (pair.1.toList, pair.2.toList)

theorem chars_injective {a b : String × String} (h : chars a = chars b) : a = b :=
  Prod.ext (String.toList_inj.1 (Prod.ext_iff.1 h).1) (String.toList_inj.1 (Prod.ext_iff.1 h).2)

variable {s s' : Signed}

theorem lowercase_query (h : s.Legible) :
    (s.query.map fun pair => (Text.lowercase pair.1, pair.2)) = s.query := by
  conv_rhs => rw [← List.map_id s.query]
  exact List.map_congr_left fun pair hpair => Prod.ext (h.query pair hpair).1.1 rfl

/-- The order of the parameters does not matter. -/
theorem text_of_perm (h : s.Legible) {query : List (String × String)}
    (hperm : s.query.Perm query) : { s with query := query }.text = s.text := by
  have hlower := lowercase_query h
  have hlower' : (query.map fun pair => (Text.lowercase pair.1, pair.2)) = query := by
    conv_rhs => rw [← List.map_id query]
    exact List.map_congr_left fun pair hpair =>
      Prod.ext (h.query pair (hperm.mem_iff.2 hpair)).1.1 rfl
  unfold text resourceText
  rw [hlower, hlower', Fields.ofList_of_perm hperm h.distinct]

/-- With one more line break at its end, the resource ends in lines like those of the headers. -/
theorem resource_toList (h : s.Legible) :
    (resourceText s.account s.path s.query).toList ++ ['\n'] =
      '/' :: (s.account.toList ++ (s.path.toList ++ '\n' ::
        ((Fields.ofList s.query).map chars).flatMap lineText)) := by
  have hrotate (fields : Fields) :
      fields.flatMap (fun pair => '\n' :: (pair.1.toList ++ ':' :: pair.2.toList)) ++ ['\n'] =
        '\n' :: (fields.map chars).flatMap lineText := by
    induction fields with
    | nil => rfl
    | cons pair rest ih => simp [ih, lineText, chars]
  unfold resourceText
  rw [lowercase_query h]
  dsimp only
  rw [toList_foldl (f := fun pair => '\n' :: (pair.1.toList ++ ':' :: pair.2.toList))
    (fun text pair => by simp), List.append_assoc, hrotate]
  simp

theorem headerText_toList (h : s.Legible) :
    (headerText s.headers).toList = (s.trimmedHeaders.map chars).flatMap lineText := by
  have hpieces : s.headers.flatMap (fun header => (Text.lowercase header.1).toList ++
      ':' :: ((Text.trimmed header.2).toList ++ ['\n'])) =
        (s.trimmedHeaders.map chars).flatMap lineText := by
    rw [trimmedHeaders, List.map_map, List.flatMap_map]
    refine List.flatMap_congr fun header hheader => ?_
    rw [(h.headers header hheader).1.1]
    rfl
  rw [← hpieces, headerText, toList_foldl (f := fun header =>
    (Text.lowercase header.1).toList ++ ':' :: ((Text.trimmed header.2).toList ++ ['\n']))
    (fun text header => by simp)]
  rfl

/-- With one more line break at its end, the text is its parts with a mark behind each. -/
theorem text_toList (h : s.Legible) :
    s.text.toList ++ ['\n'] = s.method.toList ++ '\n' :: (List.replicate 8 '\n' ++
      ((s.condition.getD "").toList ++ '\n' :: ('\n' :: '\n' ::
        ((s.trimmedHeaders.map chars).flatMap lineText ++ '/' :: (s.account.toList ++
          (s.path.toList ++ '\n' ::
            ((Fields.ofList s.query).map chars).flatMap lineText)))))) := by
  rw [← headerText_toList h, ← resource_toList h]
  simp [text, signingText, List.replicate]

/-- White space is taken away only. -/
theorem mem_of_mem_stripped {p : Char → Bool} {cs : List Char} {x : Char}
    (h : x ∈ Text.stripped p cs) : x ∈ cs := by
  rw [Text.stripped, List.mem_reverse] at h
  exact List.dropWhile_subset p (List.mem_reverse.1 (List.dropWhile_subset p h))

theorem isLine_header (h : s.Legible) : ∀ l ∈ s.trimmedHeaders.map chars, IsLine l := by
  simp only [trimmedHeaders, List.map_map, List.forall_mem_map]
  intro header hheader
  obtain ⟨hname, -, -, hvalue⟩ := h.headers header hheader
  refine ⟨hname.2, fun hmem => hvalue (mem_of_mem_stripped (p := Text.isBlank) ?_)⟩
  rwa [← String.toList_ofList (l := Text.stripped Text.isBlank header.2.toList)]

/-- No line of a header begins like the resource. -/
theorem head_header (h : s.Legible) (rest : List Char) :
    ∀ l ∈ s.trimmedHeaders.map chars, ('/' :: rest).head? ≠ (lineText l).head? := by
  simp only [trimmedHeaders, List.map_map, List.forall_mem_map]
  intro header hheader hhead
  obtain ⟨-, hne, hslash, -⟩ := h.headers header hheader
  cases hname : header.1.toList with
  | nil => exact hne (String.toList_eq_nil_iff.1 hname)
  | cons c rest =>
    have hline : (lineText ((chars ∘ fun h => (h.1, Text.trimmed h.2)) header)).head? = some c := by
      simp [lineText, chars, hname]
    rw [hname] at hslash
    exact hslash (hline.symm.trans hhead.symm)

theorem isOneLine_condition (h : s.Legible) : IsOneLine (s.condition.getD "") := by
  cases hcondition : s.condition with
  | none => decide
  | some value => exact h.condition value hcondition

theorem exists_path (h : s.Legible) : ∃ rest, s.path.toList = '/' :: rest := by
  obtain ⟨rest, hrest⟩ := List.head?_eq_some_iff.1 h.path.1
  exact ⟨rest, hrest⟩

theorem isLine_parameter (h : s.Legible) :
    ∀ l ∈ (Fields.ofList s.query).map chars, IsLine l := by
  simp only [List.forall_mem_map]
  intro pair hpair
  obtain ⟨hname, hvalue⟩ := h.query pair ((Fields.ofList_spec h.distinct).2.mem_iff.1 hpair)
  exact ⟨hname.2, hvalue⟩

/-- No line of a parameter is empty. -/
theorem head_parameter {fields : Fields} :
    ∀ l ∈ fields.map chars, ([] : List Char).head? ≠ (lineText l).head? := by
  simp only [List.forall_mem_map]
  intro pair hpair
  unfold lineText
  cases (chars pair).1 <;> exact Option.some_ne_none _ ∘ Eq.symm

/-- From the text every part of the request can be read again. -/
theorem same_of_text_eq (h : s.Legible) (h' : s'.Legible) (htext : s.text = s'.text) :
    s.Same s' := by
  have hall : s.text.toList ++ ['\n'] = s'.text.toList ++ ['\n'] := by rw [htext]
  rw [text_toList h, text_toList h'] at hall
  obtain ⟨hmethod, hall⟩ := eq_of_cut h.method h'.method hall
  obtain ⟨hcondition, hall⟩ := eq_of_cut (isOneLine_condition h) (isOneLine_condition h')
    (List.append_cancel_left hall)
  obtain ⟨hheaders, hall⟩ := lines_injective (isLine_header h) (isLine_header h')
    (head_header h' _) (head_header h _) (List.cons.inj (List.cons.inj hall).2).2
  -- The account ends at the slash that the path begins with.
  obtain ⟨path, hpath⟩ := exists_path h
  obtain ⟨path', hpath'⟩ := exists_path h'
  rw [hpath, hpath'] at hall
  obtain ⟨haccount, hall⟩ := eq_of_cut h.account h'.account (List.cons.inj hall).2
  have hline : '\n' ∉ path := fun hmem => h.path.2 (by rw [hpath]; exact .tail _ hmem)
  have hline' : '\n' ∉ path' := fun hmem => h'.path.2 (by rw [hpath']; exact .tail _ hmem)
  obtain ⟨rfl, hall⟩ := eq_of_cut hline hline' hall
  have hparameters := lines_injective (isLine_parameter h) (isLine_parameter h') head_parameter
    head_parameter (by simpa using hall)
  have hquery := List.map_injective_iff.2 @chars_injective hparameters.1
  exact
    { method := String.toList_inj.1 hmethod
      condition := String.toList_inj.1 hcondition
      headers := List.map_injective_iff.2 @chars_injective hheaders
      account := String.toList_inj.1 haccount
      path := String.toList_inj.1 (hpath.trans hpath'.symm)
      query := (Fields.ofList_spec h.distinct).2.symm.trans
        (hquery ▸ (Fields.ofList_spec h'.distinct).2) }

end Signed

/-! ### What goes out -/

/-- Whether a header of a name is one of the service's own. -/
def isServiceName (name : String) : Bool := "x-ms-".toList.isPrefixOf name.toList

namespace Client

variable {c : Client} {p : Put} {r : Request} {n : LockName} {now : Nat} {m : Message} {σ : Type}

/-- The parts of a request that a client signs. -/
def signed (c : Client) (p : Put) (now : Nat) : Signed :=
  ⟨method, p.condition, c.headers p now, c.account, p.path, p.query⟩

/-- A message has the parts that are signed, and their signature.  Before the parameters that are
signed stand those of the endpoint, if it has any of its own. -/
structure OnWire (c : Client) (s : Signed) (m : Message) : Prop where
  method : m.method = s.method
  condition : m.headers.lookup "if-none-match" = s.condition
  headers : (m.headers.filter fun h => isServiceName h.1) = s.headers
  authorization : m.headers.lookup "authorization" =
    some ("SharedKey " ++ s.account ++ ":" ++ sign c.key s.text)
  target : m.target = c.endpoint.origin ++ s.path ++ (c.endpoint.addQuery s.query).queryText
  parameters : c.endpoint.query = none →
    m.target = c.endpoint.origin ++ s.path ++ parameterText s.query

theorem isServiceName_headers (c : Client) (r : Request) (now : Nat) :
    ∀ h ∈ c.headers (.ofRequest r) now, isServiceName h.1 = true := by
  obtain ⟨before, after, hsplit, hheaders⟩ := headers_ofRequest c r
  have hparticulars : ∀ h ∈ before ++ after, isServiceName h.1 = true := by
    rw [← hsplit]
    cases r <;> simp [particulars, isServiceName]
  have hdate : isServiceName "x-ms-date" = true := by decide
  have hversion : isServiceName "x-ms-version" = true := by decide
  intro h hh
  rw [hheaders] at hh
  simp only [List.append_assoc, List.cons_append, List.mem_append, List.mem_cons,
    List.not_mem_nil, or_false] at hh
  obtain hh | rfl | hh | rfl := hh
  · exact hparticulars h (List.mem_append_left _ hh)
  · exact hdate
  · exact hparticulars h (List.mem_append_right _ hh)
  · exact hversion

/-- What stands before the service's own headers is none of them. -/
theorem filter_message (c : Client) (r : Request) (now : Nat) :
    (c.message (.ofRequest r) now).headers.filter (fun h => isServiceName h.1) =
      c.headers (.ofRequest r) now := by
  have hown := List.filter_eq_self.2 (isServiceName_headers c r now)
  have hauthorization : isServiceName "authorization" = false := by decide
  have hmark : isServiceName "if-none-match" = false := by decide
  have hcondition : ((Put.ofRequest r).condition.map fun v => ("if-none-match", v)).toList.filter
      (fun h => isServiceName h.1) = [] := by
    cases (Put.ofRequest r).condition <;> simp [hmark]
  simp only [message, List.cons_append, List.filter_cons, hauthorization, Bool.false_eq_true,
    if_false, List.filter_append, hcondition, hown, List.nil_append]

theorem lookup_condition (c : Client) (r : Request) (now : Nat) :
    (c.message (.ofRequest r) now).headers.lookup "if-none-match" =
      (Put.ofRequest r).condition := by
  have hmark : isServiceName "if-none-match" = false := by decide
  have hnone : (c.headers (.ofRequest r) now).lookup "if-none-match" = none := by
    rw [List.lookup_eq_none_iff]
    intro h hh
    have hservice := isServiceName_headers c r now h hh
    rw [bne_iff_ne]
    intro hname
    rw [← hname, hmark] at hservice
    exact Bool.false_ne_true hservice
  rw [message, List.cons_append, List.lookup_cons]
  cases (Put.ofRequest r).condition with
  | none => exact hnone
  | some value => rfl

/-- A call of a lock goes out with the parts that are signed. -/
theorem onWire_of_compose (hfor : r.IsFor n) {endpoint : String}
    (hendpoint : Url.parse endpoint = .ok c.endpoint)
    (hm : c.compose (.ofRequest r) now = .ok m) : c.OnWire (c.signed (.ofRequest r) now) m := by
  rw [compose_eq] at hm
  split at hm
  · next hsendable =>
    cases hm
    simp only [Bool.and_eq_true] at hsendable
    have hhost := Url.host_of_parse hendpoint (List.contains_iff_mem.1 hsendable.1.1.1)
    have htarget := target_eq (c := c) hfor hhost
    exact
      { method := rfl
        condition := lookup_condition c r now
        headers := filter_message c r now
        authorization := rfl
        target := htarget
        parameters := fun hquery => htarget.trans (by rw [queryText_ofRequest r hquery]; rfl) }
  · cases hm

/-- Only what a client composes is sent. -/
theorem compose_of_mem_sendUpTo {service : Service σ} {start : σ} {b : Backoff} {more : Nat}
    (h : m ∈ (c.sendUpTo service p more b start).sent) : ∃ now, c.compose p now = .ok m := by
  fun_induction sendUpTo c service p more b start with
  | case1 => cases h
  | case2 _ _ _ m' hcompose | case3 _ _ m' hcompose | case4 _ _ m' hcompose
  | case6 _ _ m' hcompose =>
    obtain rfl := List.mem_singleton.1 h
    exact ⟨_, hcompose⟩
  | case5 _ _ m' hcompose _ _ _ _ _ _ _ _ _ ih =>
    obtain rfl | h := List.mem_cons.1 h
    · exact ⟨_, hcompose⟩
    · exact ih h

theorem compose_of_mem_call {service : Service σ} {start : σ}
    (h : m ∈ (c.call service r start).sent) : ∃ now, c.compose (.ofRequest r) now = .ok m := by
  have hsent : (c.call service r start).sent = (c.send service (.ofRequest r) start).sent := by
    unfold call
    dsimp only
    split
    · split <;> rfl
    · rfl
  rw [hsent] at h
  exact compose_of_mem_sendUpTo h

/-- The signed text and the request determine each other: the order of the parameters does not show
in the text, all else can be read again from it; and a call of a lock goes out, every time it is
sent, with just the parts that are signed, behind the endpoint's own query if it has one. -/
theorem signed_text_tells_request :
    (∀ s : Signed, s.Legible → ∀ query, s.query.Perm query →
      { s with query := query }.text = s.text) ∧
    (∀ s s' : Signed, s.Legible → s'.Legible → s.text = s'.text → s.Same s') ∧
    ∀ (σ : Type) (c : Client) (service : Service σ) (start : σ) (endpoint : String) (n : LockName)
      (r : Request), Url.parse endpoint = .ok c.endpoint → r.IsFor n →
      ∀ m ∈ (c.call service r start).sent, ∃ now, c.OnWire (c.signed (.ofRequest r) now) m := by
  refine ⟨fun s h query => s.text_of_perm h, fun s s' h h' => s.same_of_text_eq h h', ?_⟩
  intro σ c service start endpoint n r hendpoint hfor m hm
  obtain ⟨now, hcompose⟩ := compose_of_mem_call hm
  exact ⟨now, onWire_of_compose hfor hendpoint hcompose⟩

/-- A client of a service on this machine. -/
def ofLoopback (query : Option String) : Client where
  endpoint := ⟨"http", "", "", some (.ipv6 [0, 0, 0, 0, 0, 0, 0, 1]), some 10000, "/", query, none⟩
  account := "acct"
  key := [1, 2, 3]
  settings := .standard

/-- The two spellings of a renewal share a text, and the creation of an object goes out as it is
signed. -/
theorem signed_text_tells_request_loopback :
    let s : Signed := ⟨"PUT", none, [("x-ms-lease-action", "renew"), ("x-ms-version", " 1")],
      "acct", "/azlockcontainer/azlk-svc-a", [("timeout", "30"), ("comp", "lease")]⟩
    let s' : Signed := ⟨"PUT", some "", [("x-ms-lease-action", "renew "), ("x-ms-version", "1")],
      "acct", "/azlockcontainer/azlk-svc-a", [("comp", "lease"), ("timeout", "30")]⟩
    let c := ofLoopback none
    let create := Request.createObject ⟨"azlockcontainer", "azlk-svc-a"⟩
    let messages := (c.call Script.service create ⟨[], .answered 201 none, [], 0⟩).sent
    { s with query := s'.query }.text = s.text ∧ s.Same s' ∧ messages.length = 1 ∧
      ∀ m ∈ messages, ∃ now, c.OnWire (c.signed (.ofRequest create) now) m := by
  intro s s' c create messages
  have hs : s.Legible :=
    { method := by decide
      condition := by rintro _ ⟨⟩
      headers := by decide +kernel
      account := by decide
      path := by decide
      query := by decide +kernel
      distinct := by decide }
  have hs' : s'.Legible :=
    { method := by decide
      condition := by
        rintro _ ⟨⟩
        decide
      headers := by decide +kernel
      account := by decide
      path := by decide
      query := by decide +kernel
      distinct := by decide }
  have hname : LockName.check "svc-a" = .ok () := by decide +kernel
  have hparse : Url.parse "http://[::1]:10000" = .ok c.endpoint := by decide +kernel
  have hone : messages.length = 1 := by
    let start : Script := ⟨[], .answered 201 none, [], 0⟩
    have hcompose : c.compose (.ofRequest create) (Script.service.clock start) =
        .ok (c.message (.ofRequest create) 0) := compose_of_canSend (by decide +kernel)
    change (c.sendUpTo Script.service (.ofRequest create) 2 (c.delays .zero) start).sent.length = 1
    rw [sendUpTo, hcompose]
    rfl
  exact ⟨signed_text_tells_request.1 s hs s'.query (by decide),
    signed_text_tells_request.2.1 s s' hs hs' (by decide +kernel), hone,
    signed_text_tells_request.2.2 Script c Script.service _ "http://[::1]:10000" ⟨"svc-a", hname⟩
      create hparse rfl⟩

/-- The endpoint's own query goes out without being signed. -/
theorem endpoint_query_not_signed :
    let c := ofLoopback (some "sv=2020")
    let p := Put.ofRequest (.createContainer sharedContainer)
    Url.parse "http://[::1]:10000?sv=2020" = .ok c.endpoint ∧
      c.compose p 0 = .ok (c.message p 0) ∧
      (c.message p 0).target = "http://[::1]:10000/azlockcontainer?sv=2020&restype=container" ∧
      (c.message p 0).target ≠ c.endpoint.origin ++ (c.signed p 0).path ++
        parameterText (c.signed p 0).query := by
  refine ⟨by decide +kernel, compose_of_canSend (by decide +kernel), by decide +kernel,
    by decide +kernel⟩

end Client

end Leasehold.Blob
