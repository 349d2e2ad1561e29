import Mathlib.Tactic.Common
import Leasehold.Blob.Client
import Leasehold.Proofs.Lease.Slots

/-!
# Which calls can be sent

Whether the message for a call can be made does not depend on when it is made: all that the client
itself writes into a header can stand there, and the URL of a call does not change.

* `Client.CanSend` says what has to hold of the client and the call.
* `Client.compose_of_canSend` and `Client.compose_of_not_canSend`: the message is made just then,
  and is `Client.message`.
* `Client.undated_message`: messages for one call differ in their date and their signature only.
-/

namespace Leasehold.Blob

namespace Message

/-- A message without its date and its signature. -/
def undated (m : Message) : Message :=
  { m with headers := m.headers.filter fun h => h.1 ≠ "x-ms-date" ∧ h.1 ≠ "authorization" }

end Message

namespace Client

/-! ### What the client writes itself -/

theorem isSendable_append (a b : String) :
    isSendable (a ++ b) = (isSendable a && isSendable b) := by
  unfold isSendable
  rw [String.toList_append, List.all_append]

theorem isSendable_ofList (cs : List Char) :
    isSendable (String.ofList cs) = cs.all fun c => c == '\t' || !Url.EncodeSet.control c := by
  unfold isSendable
  rw [String.toList_ofList]

/-- Decimal digits are no control characters. -/
theorem isSendable_toString (n : Nat) : isSendable (toString n) = true := by
  have h : toString n = String.ofList (Nat.toDigits 10 n) := rfl
  rw [h, isSendable_ofList, List.all_eq_true]
  intro c hc
  have hdigit := Nat.isDigit_of_mem_toDigits (by decide) (by decide) hc
  have hrange : 48 ≤ c.toNat ∧ c.toNat ≤ 57 := by
    simpa [Char.isDigit, Char.le_def, UInt32.le_iff_toNat_le] using hdigit
  have hlow : ¬c.toNat < 0x20 := by omega
  have hhigh : c.toNat ≠ 0x7F := by omega
  simp [Url.EncodeSet.control, hlow, hhigh]

theorem isSendable_padded (width n : Nat) : isSendable (Span.padded width n) = true := by
  unfold Span.padded
  dsimp only
  rw [isSendable_append, isSendable_toString, isSendable_ofList, Bool.and_true, List.all_eq_true]
  intro c hc
  rw [List.eq_of_mem_replicate hc]
  decide

/-- A name out of a table of names that can all be sent. -/
theorem isSendable_getD (names : List String) (h : names.all isSendable = true) (i : Nat) :
    isSendable (names.getD i "") = true := by
  rw [List.getD_eq_getElem?_getD]
  cases hi : names[i]? with
  | none => decide
  | some name => exact List.all_eq_true.1 h name (List.mem_of_getElem? hi)

theorem isSendable_yearText (year : Nat) : isSendable (Calendar.yearText year) = true := by
  unfold Calendar.yearText
  split
  · exact isSendable_padded 4 year
  · rw [isSendable_append, isSendable_toString]
    decide

/-- A date can be sent at every instant. -/
theorem isSendable_headerDate (now : Nat) : isSendable (Calendar.headerDate now) = true := by
  have hday := isSendable_getD Calendar.dayNames (by decide)
  have hmonth := isSendable_getD Calendar.monthNames (by decide)
  have hmarks : [", ", " ", ":", " GMT"].all isSendable = true := by decide
  simp only [List.all_cons, List.all_nil, Bool.and_eq_true] at hmarks
  simp only [Calendar.headerDate, isSendable_append, isSendable_padded, isSendable_yearText, hday,
    hmonth, hmarks, Bool.and_true]

/-- The letters of base64 are no control characters. -/
theorem control_letter (n : Nat) : Url.EncodeSet.control (Base64.letter n) = false := by
  by_cases h : n < 64
  · have hall : ∀ i : Fin 64, Url.EncodeSet.control (Base64.letter i) = false := by decide
    exact hall ⟨n, h⟩
  · have h26 : ¬n < 26 := by omega
    have h52 : ¬n < 52 := by omega
    have h62 : ¬n < 62 := by omega
    have hlast : n ≠ 62 := by omega
    simp only [Base64.letter, h26, h52, h62, hlast, if_false]
    decide

theorem control_encode (bytes : List UInt8) :
    (Base64.encode bytes).all (fun c => !Url.EncodeSet.control c) = true := by
  have hpad : Url.EncodeSet.control '=' = false := by decide
  fun_induction Base64.encode bytes <;> simp_all [control_letter]

/-- A signature can be sent, whatever is signed. -/
theorem isSendable_sign (key : List UInt8) (text : String) : isSendable (sign key text) = true := by
  unfold sign
  rw [isSendable_ofList, List.all_eq_true]
  intro c hc
  rw [List.all_eq_true.1 (control_encode _) c hc, Bool.or_true]

/-! ### The message for a call -/

/-- Whether a client can send a call: by a scheme for requests, to a host that can stand in the
address of one, by a URL that is not too long, and with nothing from the caller in a header that
cannot stand there. -/
def CanSend (c : Client) (r : Request) : Prop :=
  c.endpoint.scheme ∈ schemes ∧ c.endpoint.hasPlainHost = true ∧
    (c.url (.ofRequest r)).isShort = true ∧ isSendable c.account = true ∧
    isSendable c.settings.version = true ∧ ∀ id ∈ r.holder?, isSendable id.text = true

instance (c : Client) (r : Request) : Decidable (c.CanSend r) :=
  inferInstanceAs (Decidable (_ ∧ _ ∧ _ ∧ _ ∧ _ ∧ _))

/-- The message for a request at an instant, sendable or not. -/
def message (c : Client) (p : Put) (now : Nat) : Message :=
  ⟨method, c.target p,
    ("authorization", c.authorization p now) ::
      (p.condition.map fun v => ("if-none-match", v)).toList ++ c.headers p now,
    (c.url p).credentials?⟩

variable {c : Client} {r : Request} {now : Nat}

/-- The URL of a request differs from the endpoint in its path and its query only. -/
theorem url_eq (c : Client) (p : Put) :
    c.url p = { c.endpoint with path := (c.url p).path, query := (c.url p).query } := by
  unfold url Url.addQuery Url.withPath
  cases p.query <;> rfl

theorem hasPlainHost_url (c : Client) (p : Put) :
    (c.url p).hasPlainHost = c.endpoint.hasPlainHost := by
  rw [url_eq]
  rfl

theorem compose_eq (c : Client) (p : Put) (now : Nat) :
    c.compose p now =
      if schemes.contains c.endpoint.scheme && c.endpoint.hasPlainHost && (c.url p).isShort &&
          (c.message p now).headers.all (fun h => isSendable h.2) then
        .ok (c.message p now)
      else .error .unsendable := by
  have hscheme : (c.url p).scheme = c.endpoint.scheme := by rw [url_eq]
  rw [← hasPlainHost_url c p, ← hscheme]
  rfl

/-- The service's own headers that a call has besides the date and the version. -/
def particulars : Request → Fields
  | .createContainer _ => []
  | .createObject _ => [("x-ms-blob-type", "BlockBlob")]
  | .acquire _ id secs =>
    [("x-ms-lease-action", "acquire"), ("x-ms-lease-duration", toString secs),
      ("x-ms-proposed-lease-id", id.text)]
  | .renew _ id => [("x-ms-lease-action", "renew"), ("x-ms-lease-id", id.text)]
  | .release _ id => [("x-ms-lease-action", "release"), ("x-ms-lease-id", id.text)]

/-- The date stands somewhere between the headers of a call, and the version at their end: no header
takes another one's place. -/
theorem headers_ofRequest (c : Client) (r : Request) :
    ∃ before after, particulars r = before ++ after ∧ ∀ now,
      c.headers (.ofRequest r) now =
        before ++ ("x-ms-date", Calendar.headerDate now) :: after ++
          [("x-ms-version", c.settings.version)] := by
  -- Which of two headers comes first is a comparison of two given names.
  cases r with
  | createContainer container => exact ⟨[], [], rfl, fun now => rfl⟩
  | createObject o =>
    exact ⟨particulars (.createObject o), [], (List.append_nil _).symm, fun now => rfl⟩
  | acquire o id secs =>
    have hpairs : Fields.ofList
          [("x-ms-lease-duration", toString secs), ("x-ms-proposed-lease-id", id.text)] =
        [("x-ms-lease-duration", toString secs), ("x-ms-proposed-lease-id", id.text)] := by
      rw [Fields.ofList, List.foldl_cons, List.foldl_cons, List.foldl_nil]
      dsimp only
      rfl
    refine ⟨[], particulars (.acquire o id secs), rfl, fun now => ?_⟩
    unfold headers Put.ofRequest Put.lease
    dsimp only
    rw [hpairs]
    rfl
  | renew o id => exact ⟨[], particulars (.renew o id), rfl, fun now => rfl⟩
  | release o id => exact ⟨[], particulars (.release o id), rfl, fun now => rfl⟩

/-- Of what is particular to a call, only the instance's name comes from the caller. -/
theorem particulars_sendable (r : Request) :
    (particulars r).all (fun h => isSendable h.2) = true ↔
      ∀ id ∈ r.holder?, isSendable id.text = true := by
  have hnames : ["BlockBlob", "acquire", "renew", "release"].all isSendable = true := by decide
  simp only [List.all_cons, List.all_nil, Bool.and_eq_true, and_true] at hnames
  have hseconds (n : Nat) : isSendable n.repr = true := isSendable_toString n
  cases r <;> simp [particulars, Request.holder?, hnames, hseconds]

theorem authorization_sendable (c : Client) (p : Put) (now : Nat) :
    isSendable (c.authorization p now) = isSendable c.account := by
  have hmarks : isSendable "SharedKey " = true ∧ isSendable ":" = true := by decide
  unfold authorization
  rw [isSendable_append, isSendable_append, isSendable_append, isSendable_sign, hmarks.1, hmarks.2]
  simp

/-- The headers of a message can all be sent if those from the caller can. -/
theorem message_sendable (c : Client) (r : Request) (now : Nat) :
    (c.message (.ofRequest r) now).headers.all (fun h => isSendable h.2) = true ↔
      isSendable c.account = true ∧ isSendable c.settings.version = true ∧
        ∀ id ∈ r.holder?, isSendable id.text = true := by
  obtain ⟨before, after, hsplit, hheaders⟩ := headers_ofRequest c r
  have hcondition : ((Put.ofRequest r).condition.map fun v => ("if-none-match", v)).toList.all
      (fun h => isSendable h.2) = true := by
    have hany : isSendable "*" = true := by decide
    cases r <;> simp [Put.ofRequest, Put.lease, hany]
  have hparticulars := particulars_sendable r
  rw [hsplit, List.all_append, Bool.and_eq_true] at hparticulars
  simp only [message, hheaders, List.cons_append, List.all_cons, List.all_append, hcondition,
    List.all_nil, authorization_sendable, isSendable_headerDate, Bool.and_true, Bool.true_and,
    Bool.and_eq_true, ← hparticulars]
  tauto

theorem compose_of_canSend (h : c.CanSend r) :
    c.compose (.ofRequest r) now = .ok (c.message (.ofRequest r) now) := by
  obtain ⟨hscheme, hhost, hshort, hheaders⟩ := h
  rw [compose_eq, (message_sendable c r now).2 hheaders, List.contains_iff_mem.2 hscheme, hhost,
    hshort]
  rfl

theorem compose_of_not_canSend (h : ¬c.CanSend r) :
    c.compose (.ofRequest r) now = .error .unsendable := by
  rw [compose_eq, if_neg]
  simp only [Bool.and_eq_true]
  rintro ⟨⟨⟨hscheme, hhost⟩, hshort⟩, hheaders⟩
  exact h ⟨List.contains_iff_mem.1 hscheme, hhost, hshort, (message_sendable c r now).1 hheaders⟩

/-- When a message is made shows in its date and its signature only. -/
theorem undated_message (c : Client) (r : Request) (now now' : Nat) :
    (c.message (.ofRequest r) now).undated = (c.message (.ofRequest r) now').undated := by
  obtain ⟨before, after, -, hheaders⟩ := headers_ofRequest c r
  simp [Message.undated, message, hheaders]

end Client

end Leasehold.Blob
