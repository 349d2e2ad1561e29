import Leasehold.Proofs.Blob.Composing
import Leasehold.Proofs.Name.Grammar

/-!
# Where the calls of a lock go

Nothing in the path and in the parameters of a lock's calls has to be encoded: both stand in the
address of a request as they were given.

* `Url.host_of_parse`: an address that requests can be sent to has a host.
* `Url.withPath_pathText`: a path of plain segments stays as it is.
* `Client.target_eq`: where a call of a lock goes, for every endpoint.
-/

namespace Leasehold

namespace Url

/-! ### Hosts -/

/-- What stands before the path of a URL with a host; the user is not sent. -/
def origin (u : Url) : String := u.scheme ++ ":" ++ ("//" ++ "" ++ u.hostText)

theorem location_of_host {u : Url} (h : u.host.isSome = true) :
    u.location = u.origin ++ u.path ++ u.queryText := by
  obtain ⟨host, hhost⟩ := Option.isSome_iff_exists.1 h
  unfold location authority
  rw [hhost]
  rfl

theorem host_of_withAuthority {scheme : String} {cs : List Char} {more : Bool} {u : Url}
    (h : withAuthority? scheme cs more = .ok u) : u.host.isSome = true := by
  simp only [withAuthority?, bind, Except.bind, pure, Except.pure] at h
  repeat' split at h
  all_goals cases h
  all_goals rfl

theorem host_of_withFile {cs : List Char} {u : Url} (h : withFile? cs = .ok u) :
    u.host.isSome = true := by
  simp only [withFile?, bind, Except.bind, pure, Except.pure] at h
  repeat' split at h
  all_goals cases h
  all_goals rfl

/-- Only addresses of a scheme without rules of its own can be without a host. -/
theorem host_of_withScheme {scheme : String} {cs : List Char} {more : Bool} {u : Url}
    (h : withScheme? scheme cs more = .ok u) :
    u.host.isSome = true ∨ isSpecial u.scheme = false := by
  unfold withScheme? at h
  split at h
  · exact .inl (host_of_withFile h)
  · split at h
    · exact .inl (host_of_withAuthority h)
    · next hspecial =>
      split at h
      · exact .inl (host_of_withAuthority h)
      all_goals
        cases h
        exact .inr (Bool.eq_false_iff.2 hspecial)

theorem host_of_parse {s : String} {u : Url} (h : parse s = .ok u)
    (hscheme : u.scheme ∈ Blob.Client.schemes) : u.host.isSome = true := by
  have hspecial : isSpecial u.scheme = true := by
    have hall : ∀ scheme ∈ Blob.Client.schemes, isSpecial scheme = true := by decide
    exact hall u.scheme hscheme
  unfold parse at h
  split at h
  · cases h
  · simp only [bind, Except.bind, pure, Except.pure] at h
    split at h
    · cases h
    · next found =>
      cases h
      have := host_of_withScheme found
      simp_all

/-! ### Queries -/

/-- Parameters change nothing but the query. -/
theorem addQuery_eq (u : Url) (pairs : List (String × String)) :
    u.addQuery pairs = { u with query := (u.addQuery pairs).query } := by
  cases pairs <;> rfl

theorem addQuery_withPath (u : Url) (path : String) (pairs : List (String × String)) :
    addQuery { u with path := path } pairs = { u.addQuery pairs with path := path } := by
  cases pairs <;> rfl

/-! ### Paths -/

/-- Whether a segment has only characters that names can have. -/
def Segment.IsPlain (s : Segment) : Prop := s.all isNameChar = true

instance (s : Segment) : Decidable s.IsPlain := inferInstanceAs (Decidable (_ = _))

/-- What a character of a name is not. -/
theorem isNameChar_excludes {c : Char} (h : isNameChar c = true) :
    EncodeSet.path c = false ∧ isPassedOver c = false ∧ (∀ special, isSlash special c = false) ∧
      c ≠ '.' ∧ c ≠ '%' :=
  forall_isNameChar (P := fun c => EncodeSet.path c = false ∧ isPassedOver c = false ∧
    (∀ special, isSlash special c = false) ∧ c ≠ '.' ∧ c ≠ '%') (by decide) h

variable {s : Segment} {segs : List Segment}

theorem Segment.IsPlain.ne_cons (h : s.IsPlain) {c : Char} (hc : isNameChar c = false)
    (rest : List Char) : s ≠ c :: rest := by
  rintro rfl
  rw [IsPlain, List.all_cons, hc] at h
  exact Bool.false_ne_true h

theorem Segment.dotted_of_isPlain (h : s.IsPlain) : s.dotted = s := by
  fun_induction Segment.dotted s with
  | case1 rest ih => exact absurd rfl (h.ne_cons (by decide) _)
  | case2 rest ih => exact absurd rfl (h.ne_cons (by decide) _)
  | case3 c rest _ _ ih =>
    rw [IsPlain, List.all_cons, Bool.and_eq_true] at h
    rw [ih h.2]
  | case4 => rfl

/-- A plain segment is followed like any name. -/
theorem Segment.isPlain_moves (h : s.IsPlain) : s.isParent = false ∧ s.isSame = false := by
  have hdot : isNameChar '.' = false := by decide
  unfold isParent isSame
  rw [dotted_of_isPlain h]
  exact ⟨beq_eq_false_iff_ne.2 (h.ne_cons hdot _), beq_eq_false_iff_ne.2 (h.ne_cons hdot _)⟩

theorem percentEncode_of_isPlain (h : s.IsPlain) : percentEncode EncodeSet.path s = s :=
  percentEncode_eq_self fun c hc =>
    have hname := List.all_eq_true.1 h c hc
    ⟨ascii_of_isNameChar hname, (isNameChar_excludes hname).1⟩

theorem followFrom_of_isPlain (h : ∀ s ∈ segs, Segment.IsPlain s) (past : List Segment) :
    followFrom past segs = past.reverse ++ segs := by
  fun_induction followFrom past segs with
  | case1 past => rw [List.append_nil]
  | case2 past last hparent => simp [(Segment.isPlain_moves (h last (by simp))).1] at hparent
  | case3 past last _ hsame => simp [(Segment.isPlain_moves (h last (by simp))).2] at hsame
  | case4 past last => rfl
  | case5 past s rest _ hparent => simp [(Segment.isPlain_moves (h s (by simp))).1] at hparent
  | case6 past s rest _ _ hsame => simp [(Segment.isPlain_moves (h s (by simp))).2] at hsame
  | case7 past s rest _ _ _ ih =>
    rw [ih fun t ht => h t (List.mem_cons_of_mem s ht), List.reverse_cons, List.append_assoc]
    rfl

theorem parts_of_isPlain (special : Bool) (h : s.IsPlain) :
    Text.parts (isSlash special) s = [s] := by
  unfold Segment.IsPlain at h
  induction s with
  | nil => rfl
  | cons c rest ih =>
    rw [List.all_cons, Bool.and_eq_true] at h
    rw [Text.parts, (isNameChar_excludes h.1).2.2.1 special, ih h.2]
    rfl

theorem parts_append_slash (special : Bool) (h : s.IsPlain) (cs : List Char) :
    Text.parts (isSlash special) (s ++ '/' :: cs) = s :: Text.parts (isSlash special) cs := by
  unfold Segment.IsPlain at h
  induction s with
  | nil => rfl
  | cons c rest ih =>
    rw [List.all_cons, Bool.and_eq_true] at h
    rw [List.cons_append, Text.parts, (isNameChar_excludes h.1).2.2.1 special, ih h.2]
    rfl

/-- The segments of a path are found again in its text. -/
theorem parts_pathText (special : Bool) (h : ∀ t ∈ s :: segs, Segment.IsPlain t) :
    Text.parts (isSlash special) (s ++ pathText segs) = s :: segs := by
  induction segs generalizing s with
  | nil =>
    have hs := parts_of_isPlain special (h s (by simp))
    rw [pathText, List.flatMap_nil, List.append_nil, hs]
  | cons t rest ih =>
    have htail : pathText (t :: rest) = '/' :: (t ++ pathText rest) := rfl
    rw [htail, parts_append_slash special (h s (by simp)), ih fun u hu => h u (by simp_all)]

theorem pathOf_pathText (special : Bool) (h : ∀ t ∈ s :: segs, Segment.IsPlain t) :
    pathOf special (pathText (s :: segs)) = pathText (s :: segs) := by
  have hencode : (s :: segs).map (percentEncode EncodeSet.path) = s :: segs := by
    conv_rhs => rw [← List.map_id (s :: segs)]
    exact List.map_congr_left fun t ht => percentEncode_of_isPlain (h t ht)
  have hbehind : segments special (pathText (s :: segs)) = s :: segs := by
    change followFrom [] ((Text.parts (isSlash special) (s ++ pathText segs)).map
      (percentEncode EncodeSet.path)) = s :: segs
    rw [parts_pathText special h, hencode, followFrom_of_isPlain h]
    rfl
  rw [pathOf, hbehind]

theorem filter_pathText (h : ∀ t ∈ segs, Segment.IsPlain t) :
    (pathText segs).filter (!isPassedOver ·) = pathText segs := by
  rw [List.filter_eq_self]
  intro c hc
  obtain ⟨t, ht, hct⟩ := List.mem_flatMap.1 hc
  obtain rfl | hct := List.mem_cons.1 hct
  · rfl
  · rw [(isNameChar_excludes (List.all_eq_true.1 (h t ht) c hct)).2.1]
    rfl

/-- A path of plain segments stays as it is. -/
theorem withPath_pathText {u : Url} (hhost : u.host.isSome = true)
    (h : ∀ t ∈ s :: segs, Segment.IsPlain t) :
    u.withPath (String.ofList (pathText (s :: segs))) =
      { u with path := String.ofList (pathText (s :: segs)) } := by
  have hrigid : u.isRigid = false := by
    rw [isRigid, Option.isNone_eq_false_iff.2 hhost]
    rfl
  unfold withPath
  rw [String.toList_ofList, filter_pathText h, hrigid]
  dsimp only
  rw [if_neg Bool.false_ne_true, pathOf_pathText _ h]

end Url

namespace LockName

theorem isPlain_text (n : LockName) : Url.Segment.IsPlain n.text.toList := n.chars_text

theorem isPlain_backingName (n : LockName) : Url.Segment.IsPlain n.backingName.toList := by
  have hstem : objectStem.toList.all isNameChar = true := by decide
  rw [Url.Segment.IsPlain, backingName, String.toList_append, List.all_append, hstem,
    n.isPlain_text]
  rfl

end LockName

namespace Request

/-- Whether a call is one of those that the lock of a name makes. -/
def IsFor (n : LockName) : Request → Prop
  | createContainer container => container = sharedContainer
  | createObject o | acquire o _ _ | renew o _ | release o _ => o = n.backing

end Request

namespace Blob

/-- Parameters as they stand at the end of an address when nothing is encoded. -/
def parameterText : List (String × String) → String
  | [] => ""
  | pairs => "?" ++ "&".intercalate (pairs.map fun p => p.1 ++ "=" ++ p.2)

namespace Client

variable {c : Client} {n : LockName} {r : Request}

theorem path_ofRequest (h : r.IsFor n) :
    ∃ s segs, (∀ t ∈ s :: segs, Url.Segment.IsPlain t) ∧
      (Put.ofRequest r).path = String.ofList (Url.pathText (s :: segs)) := by
  have hcontainer : Url.Segment.IsPlain sharedContainer.toList := by decide
  have hobject : ("/" ++ n.backing.container ++ "/" ++ n.backing.name) =
      String.ofList (Url.pathText [sharedContainer.toList, n.backingName.toList]) := by
    apply String.ext
    simp [Url.pathText, LockName.backing]
  cases r with
  | createContainer container =>
    cases h
    exact ⟨sharedContainer.toList, [], by simpa using hcontainer, rfl⟩
  | createObject o | acquire o _ _ | renew o _ | release o _ =>
    cases h
    exact ⟨_, _, by simpa using ⟨hcontainer, n.isPlain_backingName⟩, hobject⟩

/-- The address of a call: the path as it was given, behind it the endpoint's own query and the
call's parameters. -/
theorem target_eq (h : r.IsFor n) (hhost : c.endpoint.host.isSome = true) :
    c.target (.ofRequest r) = c.endpoint.origin ++ (Put.ofRequest r).path ++
      (c.endpoint.addQuery (Put.ofRequest r).query).queryText := by
  obtain ⟨s, segs, hplain, hpath⟩ := path_ofRequest h
  rw [target, url, hpath, Url.withPath_pathText hhost hplain, Url.addQuery_withPath,
    Url.location_of_host (by rw [Url.addQuery_eq]; exact hhost), Url.addQuery_eq]
  rfl

/-- Behind an endpoint without a query of its own, the parameters of a call stand alone. -/
theorem queryText_ofRequest (r : Request) (h : c.endpoint.query = none) :
    (c.endpoint.addQuery (Put.ofRequest r).query).queryText =
      parameterText (Put.ofRequest r).query := by
  have hpair : Url.pairText ("restype", "container") = "restype" ++ "=" ++ "container" ∧
      Url.pairText ("comp", "lease") = "comp" ++ "=" ++ "lease" := by decide
  cases r with
  | createContainer container =>
    simp only [Put.ofRequest, Url.addQuery, Url.queryText, h, List.map_cons, List.map_nil, hpair.1]
    rfl
  | createObject o =>
    simp only [Put.ofRequest, Url.addQuery, Url.queryText, h]
    rfl
  | acquire o _ _ | renew o _ | release o _ =>
    simp only [Put.ofRequest, Put.lease, Url.addQuery, Url.queryText, h, List.map_cons,
      List.map_nil, hpair.2]
    rfl

end Client

end Blob

end Leasehold
