import GetOffline.PythonBase64
import GetOffline.PythonStrip

set_option autoImplicit true

namespace Python

/-- `text.partition(separator)` with the separator found, and without it. -/
def partitionAt (separator : Char) : List Char → Option (List Char × List Char)
  | [] => none
  | c :: cs =>
    if c = separator then some ([], cs)
    else (partitionAt separator cs).map fun parts => (c :: parts.1, parts.2)

theorem partitionAt_append (h : separator ∉ before) (after : List Char) :
    partitionAt separator (before ++ separator :: after) = some (before, after) := by
  induction before with
  | nil => simp [partitionAt]
  | cons c before ih =>
    rw [List.mem_cons, not_or] at h
    rw [List.cons_append, partitionAt, if_neg (Ne.symm h.1), ih h.2]
    rfl

theorem partitionAt_eq_some : partitionAt separator cs = some (before, after) ↔
    cs = before ++ separator :: after ∧ separator ∉ before := by
  constructor
  · intro h
    induction cs generalizing before with
    | nil => cases h
    | cons c cs ih =>
      rw [partitionAt] at h
      split at h
      · next hc =>
        obtain ⟨rfl, rfl⟩ := Prod.mk.inj (Option.some.inj h)
        rw [hc]
        exact ⟨rfl, List.not_mem_nil⟩
      · next hc =>
        obtain ⟨⟨before', after'⟩, hparts, heq⟩ := Option.map_eq_some_iff.1 h
        obtain ⟨rfl, rfl⟩ := Prod.mk.inj heq
        obtain ⟨hcs, hnot⟩ := ih hparts
        rw [hcs]
        refine ⟨rfl, ?_⟩
        rw [List.mem_cons, not_or]
        exact ⟨Ne.symm hc, hnot⟩
  · rintro ⟨rfl, h⟩
    exact partitionAt_append h after

/-- `str.upper()` of one character, exact where the result is ASCII and one character. -/
def upperChar (c : Char) : Char :=
  if c.toNat = 0x131 then 'I' else if c.toNat = 0x17F then 'S' else c.toUpper

/-- `str.upper()`, for comparison with ASCII text. -/
def upper (s : String) : String :=
  String.ofList (s.toList.map upperChar)

end Python

namespace GetOffline
open Python

-- cli/app.py

structure Credentials where
  username : String
  password : String

def Credentials.authHeader (credentials : Credentials) : String :=
  "Basic " ++ String.ofList
    (b64encode (encode (credentials.username ++ ":" ++ credentials.password)))

-- api/auth.py

structure ApiUser where
  username : String
  isActive : Bool
deriving DecidableEq

/-- What the gate reads of a request: its header, its method, the user of its session and whether the
CSRF check finds fault with it. -/
structure ApiRequest where
  authorization : String
  method : String
  sessionUser : Option ApiUser
  csrfFailure : Bool

def safeMethods : List String :=
  ["GET", "HEAD", "OPTIONS", "TRACE"]

/-- `base64.b64decode(encoded, validate=True).decode("utf-8")`, where nothing is what is caught. -/
def decodeCredentials (encoded : List Char) : Except Error (Option String) :=
  match (b64decode encoded).bind decodeBytes with
  | .ok decoded => .ok (some decoded)
  | .error error =>
    if error = binasciiError ∨ error = .unicodeDecodeError then .ok none else .error error

/-- `_authenticate_basic`: the user that the request gets. -/
def authenticateBasic (authenticate : String → String → Option ApiUser) (header : String) :
    Except Error (Option ApiUser) := do
  if "basic ".toList.isPrefixOf (lower header).toList then
    let encoded := stripChars (header.toList.dropWhile fun c => c ≠ ' ').tail
    match ← decodeCredentials encoded with
    | none => return none
    | some decoded =>
      match partitionAt ':' decoded.toList with
      | none => return none
      | some (username, password) =>
        return (authenticate (String.ofList username) (String.ofList password)).filter ApiUser.isActive
  else return none

inductive GateAnswer
  | view (user : ApiUser)
  | unauthorized
  | csrfFailed
deriving DecidableEq

/-- The answer without Basic credentials. -/
def sessionAnswer (request : ApiRequest) : GateAnswer :=
  match request.sessionUser with
  | none => .unauthorized
  | some user =>
    if upper request.method ∉ safeMethods ∧ request.csrfFailure = true then .csrfFailed
    else .view user

/-- `api_login_required`. -/
def apiLoginRequired (authenticate : String → String → Option ApiUser) (request : ApiRequest) :
    Except Error GateAnswer := do
  match ← authenticateBasic authenticate request.authorization with
  | some user => return .view user
  | none => return sessionAnswer request

/-- `worker_api_login_required`; texts outside ASCII cannot be compared. -/
def workerApiLoginRequired (configured supplied : String) : Except Error Bool :=
  if configured = "" then .ok false
  else if (supplied ++ configured).toList.any fun c => 128 ≤ c.toNat then .error .typeError
  else .ok (supplied = configured)

/-- The header names the pair: its credentials are the text `username:password`, encoded. -/
def CarriesPair (header username password : String) : Prop :=
  ∃ scheme spaced : List Char, header.toList = scheme ++ ' ' :: spaced ∧
    scheme.map lowerChar = "basic".toList ∧
    b64decode (stripChars spaced) = .ok (encode (username ++ ":" ++ password)) ∧
    ':' ∉ username.toList

theorem lowerChar_space (h : lowerChar c = ' ') : c = ' ' := by
  rcases lowerChar_cases c with hsame | hlarge
  · rw [← hsame]
    exact h
  · rw [h] at hlarge
    exact absurd hlarge (by decide)

theorem lowered_toList (text : String) : (lower text).toList = text.toList.map lowerChar :=
  String.toList_ofList

/-- A header of the scheme is split at the space after it. -/
theorem basic_prefix_iff (header : List Char) :
    "basic ".toList.isPrefixOf (header.map lowerChar) = true ↔
      ∃ scheme spaced, header = scheme ++ ' ' :: spaced ∧ scheme.map lowerChar = "basic".toList := by
  rw [List.isPrefixOf_iff_prefix]
  constructor
  · rintro ⟨rest, hrest⟩
    obtain ⟨scheme, tail, rfl, hscheme, htail⟩ :
        ∃ scheme tail, header = scheme ++ tail ∧ scheme.map lowerChar = "basic".toList ∧
          tail.map lowerChar = ' ' :: rest := by
      exact List.map_eq_append_iff.1 (hrest.symm.trans (by rfl))
    cases tail with
    | nil => cases htail
    | cons c tail =>
      obtain ⟨hc, -⟩ := List.cons.inj htail
      rw [lowerChar_space hc]
      exact ⟨scheme, tail, rfl, hscheme⟩
  · rintro ⟨scheme, spaced, rfl, hscheme⟩
    rw [List.map_append, hscheme, List.map_cons]
    exact ⟨spaced.map lowerChar, rfl⟩

theorem dropWhile_scheme (hscheme : scheme.map lowerChar = "basic".toList) (spaced : List Char) :
    ((scheme ++ ' ' :: spaced).dropWhile fun c => c ≠ ' ').tail = spaced := by
  have hne : ∀ c ∈ scheme, c ≠ ' ' := by
    rintro c hc rfl
    have hmem : lowerChar ' ' ∈ "basic".toList := by
      rw [← hscheme]
      exact List.mem_map_of_mem hc
    exact absurd hmem (by decide)
  rw [List.dropWhile_append_of_pos fun c hc => decide_eq_true (hne c hc)]
  rfl

/-- The header has the scheme, and a character outside ASCII in its credentials. -/
def Unreadable (header : String) : Prop :=
  ∃ scheme spaced : List Char, header.toList = scheme ++ ' ' :: spaced ∧
    scheme.map lowerChar = "basic".toList ∧ ∃ c ∈ stripChars spaced, 128 ≤ c.toNat

theorem b64decode_error {encoded : List Char} (h : b64decode encoded = .error e) :
    (e = .valueError ∧ ∃ c ∈ encoded, 128 ≤ c.toNat) ∨
      (e = binasciiError ∧ ∀ c ∈ encoded, ¬128 ≤ c.toNat) := by
  unfold b64decode at h
  split at h
  · next hany =>
    obtain ⟨c, hc, hlarge⟩ := List.any_eq_true.1 hany
    exact .inl ⟨(Except.error.inj h).symm, c, hc, of_decide_eq_true hlarge⟩
  · next hany =>
    right
    have hsmall : ∀ c ∈ encoded, ¬128 ≤ c.toNat := by
      intro c hc hlarge
      exact hany (List.any_eq_true.2 ⟨c, hc, decide_eq_true hlarge⟩)
    split at h
    · exact ⟨(Except.error.inj h).symm, hsmall⟩
    · cases hrun : Base64State.start.run encoded with
      | none =>
        rw [hrun] at h
        exact ⟨(Except.error.inj h).symm, hsmall⟩
      | some bytes =>
        rw [hrun] at h
        cases h

theorem b64decode_ascii {encoded : List Char} (h : b64decode encoded = .ok bytes) :
    ∀ c ∈ encoded, ¬128 ≤ c.toNat := by
  intro c hc hlarge
  rw [b64decode, if_pos (List.any_eq_true.2 ⟨c, hc, decide_eq_true hlarge⟩)] at h
  cases h

theorem decodeBytes_error {bytes : List UInt8} (h : decodeBytes bytes = .error e) :
    e = .unicodeDecodeError := by
  unfold decodeBytes at h
  split at h
  · cases h
  · exact (Except.error.inj h).symm

/-- Credentials are a text, nothing, or a `ValueError` that is not caught. -/
theorem decodeCredentials_cases (encoded : List Char) :
    (∃ decoded, b64decode encoded = .ok (encode decoded) ∧
      decodeCredentials encoded = .ok (some decoded)) ∨
    ((∀ decoded, b64decode encoded ≠ .ok (encode decoded)) ∧ (∀ c ∈ encoded, ¬128 ≤ c.toNat) ∧
      decodeCredentials encoded = .ok none) ∨
    ((∃ c ∈ encoded, 128 ≤ c.toNat) ∧ decodeCredentials encoded = .error .valueError) := by
  unfold decodeCredentials
  cases hbytes : b64decode encoded with
  | error e =>
    rcases b64decode_error hbytes with ⟨rfl, hlarge⟩ | ⟨rfl, hsmall⟩
    · exact .inr (.inr ⟨hlarge, rfl⟩)
    · refine .inr (.inl ⟨fun decoded h => ?_, hsmall, rfl⟩)
      cases h
  | ok bytes =>
    rw [Except.bind]
    cases htext : decodeBytes bytes with
    | ok decoded =>
      left
      rw [← encode_of_decodeBytes htext]
      exact ⟨decoded, rfl, rfl⟩
    | error e =>
      obtain rfl := decodeBytes_error htext
      refine .inr (.inl ⟨fun decoded h => ?_, b64decode_ascii hbytes, rfl⟩)
      rw [Except.ok.inj h, decodeBytes_encode] at htext
      cases htext

theorem pairText_toList (username password : String) :
    (username ++ ":" ++ password).toList = username.toList ++ ':' :: password.toList := by
  rw [String.toList_append, String.toList_append, List.append_assoc]
  rfl

theorem encode_injective (h : encode a = encode b) : a = b := by
  have hdecode := decodeBytes_encode a
  rw [h, decodeBytes_encode] at hdecode
  exact (Except.ok.inj hdecode).symm

section
variable (authenticate : String → String → Option ApiUser) {header : String}

theorem authenticateBasic_split {scheme spaced : List Char}
    (hheader : header.toList = scheme ++ ' ' :: spaced)
    (hscheme : scheme.map lowerChar = "basic".toList) :
    authenticateBasic authenticate header = (do
      match ← decodeCredentials (stripChars spaced) with
      | none => return none
      | some decoded =>
        match partitionAt ':' decoded.toList with
        | none => return none
        | some (username, password) =>
          return (authenticate (String.ofList username) (String.ofList password)).filter
            ApiUser.isActive) := by
  have hprefix : "basic ".toList.isPrefixOf (lower header).toList = true := by
    rw [lowered_toList]
    exact (basic_prefix_iff _).2 ⟨scheme, spaced, hheader, hscheme⟩
  rw [authenticateBasic, if_pos hprefix, hheader, dropWhile_scheme hscheme]

/-- A pair that the header names is the one that is looked up. -/
theorem authenticateBasic_carries (h : CarriesPair header username password) :
    authenticateBasic authenticate header =
      .ok ((authenticate username password).filter ApiUser.isActive) := by
  obtain ⟨scheme, spaced, hheader, hscheme, hdecode, hcolon⟩ := h
  rw [authenticateBasic_split authenticate hheader hscheme]
  rcases decodeCredentials_cases (stripChars spaced) with ⟨decoded, hdecoded, hok⟩ | ⟨hnone, -⟩ |
    ⟨⟨c, hc, hlarge⟩, -⟩
  · rw [hdecode] at hdecoded
    obtain rfl := encode_injective (Except.ok.inj hdecoded)
    rw [hok]
    dsimp only [bind, Except.bind]
    rw [pairText_toList, partitionAt_append hcolon]
    dsimp only
    rw [String.ofList_toList, String.ofList_toList]
    rfl
  · exact absurd hdecode (hnone _)
  · exact absurd hlarge (b64decode_ascii hdecode c hc)

/-- A header that names no pair is passed over, unless it cannot be read. -/
theorem authenticateBasic_other (h : ∀ username password, ¬CarriesPair header username password) :
    (¬Unreadable header ∧ authenticateBasic authenticate header = .ok none) ∨
      (Unreadable header ∧ authenticateBasic authenticate header = .error .valueError) := by
  by_cases hprefix : "basic ".toList.isPrefixOf (lower header).toList = true
  · have hsplit := hprefix
    rw [lowered_toList, basic_prefix_iff] at hsplit
    obtain ⟨scheme, spaced, hheader, hscheme⟩ := hsplit
    rw [authenticateBasic_split authenticate hheader hscheme]
    have hreadable (hsmall : ∀ c ∈ stripChars spaced, ¬128 ≤ c.toNat) : ¬Unreadable header := by
      rintro ⟨scheme', spaced', hheader', hscheme', c, hc, hlarge⟩
      have hspaced := dropWhile_scheme hscheme' spaced'
      rw [← hheader', hheader, dropWhile_scheme hscheme] at hspaced
      rw [← hspaced] at hc
      exact hsmall c hc hlarge
    rcases decodeCredentials_cases (stripChars spaced) with ⟨decoded, hdecoded, hok⟩ |
      ⟨-, hsmall, hnone⟩ | ⟨hlarge, herror⟩
    · left
      refine ⟨hreadable (b64decode_ascii hdecoded), ?_⟩
      rw [hok]
      dsimp only [bind, Except.bind]
      cases hparts : partitionAt ':' decoded.toList with
      | none => rfl
      | some parts =>
        obtain ⟨htext, hcolon⟩ := partitionAt_eq_some.1 hparts
        refine absurd ⟨scheme, spaced, hheader, hscheme, ?_, ?_⟩
          (h (String.ofList parts.1) (String.ofList parts.2))
        · have hdecodes : String.ofList parts.1 ++ ":" ++ String.ofList parts.2 = decoded := by
            rw [← String.toList_inj, pairText_toList, String.toList_ofList, String.toList_ofList, htext]
          rw [hdecodes]
          exact hdecoded
        · rw [String.toList_ofList]
          exact hcolon
    · left
      rw [hnone]
      exact ⟨hreadable hsmall, rfl⟩
    · right
      rw [herror]
      exact ⟨⟨scheme, spaced, hheader, hscheme, hlarge⟩, rfl⟩
  · left
    rw [authenticateBasic, if_neg hprefix]
    refine ⟨?_, rfl⟩
    rintro ⟨scheme, spaced, hheader, hscheme, -⟩
    rw [lowered_toList] at hprefix
    exact hprefix ((basic_prefix_iff _).2 ⟨scheme, spaced, hheader, hscheme⟩)

end

/-- The session's user may see the view: the method is safe or the CSRF check passes. -/
def ApiRequest.SessionServes (request : ApiRequest) (user : ApiUser) : Prop :=
  request.sessionUser = some user ∧
    (upper request.method ∈ safeMethods ∨ request.csrfFailure = false)

theorem sessionAnswer_view (request : ApiRequest) (user : ApiUser) :
    sessionAnswer request = .view user ↔ request.SessionServes user := by
  unfold sessionAnswer ApiRequest.SessionServes
  cases request.sessionUser with
  | none => simp
  | some other =>
    by_cases hsafe : upper request.method ∈ safeMethods <;>
      cases hfailure : request.csrfFailure <;> simp [hsafe]

theorem carriesPair_unique (h : CarriesPair header username password)
    (h' : CarriesPair header username' password') : username = username' ∧ password = password' := by
  obtain ⟨scheme, spaced, hheader, hscheme, hdecode, hcolon⟩ := h
  obtain ⟨scheme', spaced', hheader', hscheme', hdecode', hcolon'⟩ := h'
  have hspaced := dropWhile_scheme hscheme' spaced'
  rw [← hheader', hheader, dropWhile_scheme hscheme] at hspaced
  rw [hspaced, hdecode'] at hdecode
  have htext := congrArg String.toList (encode_injective (Except.ok.inj hdecode))
  rw [pairText_toList, pairText_toList] at htext
  have hparts := partitionAt_append hcolon password.toList
  rw [← htext, partitionAt_append hcolon'] at hparts
  obtain ⟨husername, hpassword⟩ := Prod.mk.inj (Option.some.inj hparts)
  exact ⟨String.toList_inj.1 husername.symm, String.toList_inj.1 hpassword.symm⟩

theorem CarriesPair.readable (h : CarriesPair header username password) : ¬Unreadable header := by
  obtain ⟨scheme, spaced, hheader, hscheme, hdecode, -⟩ := h
  rintro ⟨scheme', spaced', hheader', hscheme', c, hc, hlarge⟩
  have hspaced := dropWhile_scheme hscheme' spaced'
  rw [← hheader', hheader, dropWhile_scheme hscheme] at hspaced
  rw [← hspaced] at hc
  exact b64decode_ascii hdecode c hc hlarge

theorem apiLoginRequired_ok {authenticate : String → String → Option ApiUser} {request : ApiRequest}
    (h : authenticateBasic authenticate request.authorization = .ok found) :
    apiLoginRequired authenticate request = .ok (found.elim (sessionAnswer request) .view) := by
  rw [apiLoginRequired, h]
  cases found <;> rfl

/-- A view is served exactly to the active user of a pair that the header names, or else to the user
of the session on the terms of CSRF. The gate raises exactly on credentials outside ASCII. -/
theorem api_gate (authenticate : String → String → Option ApiUser) (request : ApiRequest) :
    (∀ user, apiLoginRequired authenticate request = .ok (.view user) ↔
      (∃ username password, CarriesPair request.authorization username password ∧
        (authenticate username password).filter ApiUser.isActive = some user) ∨
      (¬Unreadable request.authorization ∧
        (∀ username password, CarriesPair request.authorization username password →
          (authenticate username password).filter ApiUser.isActive = none) ∧
        request.SessionServes user)) ∧
    ∀ e, apiLoginRequired authenticate request = .error e ↔
      e = .valueError ∧ Unreadable request.authorization := by
  by_cases hpair : ∃ username password, CarriesPair request.authorization username password
  · obtain ⟨username, password, hpair⟩ := hpair
    have hgate := apiLoginRequired_ok (authenticateBasic_carries authenticate hpair)
    have honly (other : Option ApiUser) : (∃ username password,
        CarriesPair request.authorization username password ∧
        (authenticate username password).filter ApiUser.isActive = other) ↔
        (authenticate username password).filter ApiUser.isActive = other := by
      constructor
      · rintro ⟨username', password', hpair', hother⟩
        obtain ⟨rfl, rfl⟩ := carriesPair_unique hpair hpair'
        exact hother
      · exact fun hother => ⟨username, password, hpair, hother⟩
    have hall : (∀ username password, CarriesPair request.authorization username password →
        (authenticate username password).filter ApiUser.isActive = none) ↔
        (authenticate username password).filter ApiUser.isActive = none := by
      constructor
      · exact fun h => h username password hpair
      · intro hnone username' password' hpair'
        obtain ⟨rfl, rfl⟩ := carriesPair_unique hpair hpair'
        exact hnone
    rw [hgate]
    constructor
    · intro user
      rw [honly, hall]
      cases (authenticate username password).filter ApiUser.isActive with
      | none => simp [sessionAnswer_view, hpair.readable]
      | some other => simp
    · intro e
      simp [hpair.readable]
  · have hnot : ∀ username password, ¬CarriesPair request.authorization username password :=
      fun username password h => hpair ⟨username, password, h⟩
    rcases authenticateBasic_other authenticate hnot with ⟨hreadable, hbasic⟩ | ⟨hunreadable, hbasic⟩
    · rw [apiLoginRequired_ok hbasic]
      constructor
      · intro user
        simp [sessionAnswer_view, hreadable, hnot]
      · intro e
        simp [hreadable]
    · rw [apiLoginRequired, hbasic]
      constructor
      · intro user
        simp [hunreadable, hnot, bind, Except.bind]
      · intro e
        simp [hunreadable, bind, Except.bind, eq_comm]

/-- The header names the pair that its text is divided into at the first colon. -/
theorem carriesPair_authHeader (credentials : Credentials) (hcolon : ':' ∉ username.toList)
    (htext : username ++ ":" ++ password = credentials.username ++ ":" ++ credentials.password) :
    CarriesPair credentials.authHeader username password := by
  have hheader (text : List Char) :
      ("Basic " ++ String.ofList text).toList = "Basic".toList ++ ' ' :: text := by
    rw [String.toList_append, String.toList_ofList (l := text)]
    rfl
  have htrimmed (bytes : List UInt8) : Trimmed (b64encode bytes) := by
    have hspace {c : Char} (hc : c ∈ b64encode bytes) : isSpace c = false :=
      isSpace_printable (printable_b64encode bytes c hc).1 (printable_b64encode bytes c hc).2
    exact ⟨fun c hc => hspace (List.mem_of_head? hc), fun c hc => hspace (List.mem_of_getLast? hc)⟩
  refine ⟨"Basic".toList, _, hheader _, by decide, ?_, hcolon⟩
  rw [stripChars_of_trimmed (htrimmed _), b64decode_b64encode, htext]

/-- What the console sends is read back as it was, exactly when no colon is in the name. -/
theorem console_credentials (credentials : Credentials) :
    (∀ (authenticate : String → String → Option ApiUser) (request : ApiRequest),
      request.authorization = credentials.authHeader →
      apiLoginRequired authenticate request = .ok
        (((authenticate credentials.username credentials.password).filter ApiUser.isActive).elim
          (sessionAnswer request) .view)) ↔ ':' ∉ credentials.username.toList := by
  constructor
  · intro h hcolon
    obtain ⟨before, after, hname, hbefore⟩ := List.eq_append_cons_of_mem hcolon
    let user : ApiUser := ⟨credentials.username, true⟩
    let authenticate (username password : String) : Option ApiUser :=
      if username = credentials.username ∧ password = credentials.password then some user else none
    let request : ApiRequest := ⟨credentials.authHeader, "POST", none, true⟩
    have hclient := h authenticate request rfl
    have hcarries : CarriesPair credentials.authHeader (String.ofList before)
        (String.ofList (after ++ ':' :: credentials.password.toList)) := by
      apply carriesPair_authHeader credentials
      · rw [String.toList_ofList]
        exact hbefore
      · rw [← String.toList_inj, pairText_toList, pairText_toList, hname, String.toList_ofList,
          String.toList_ofList, List.append_assoc, List.cons_append]
    have hserver : apiLoginRequired authenticate request = .ok _ :=
      apiLoginRequired_ok (authenticateBasic_carries authenticate hcarries)
    have hother : String.ofList before ≠ credentials.username := by
      intro heq
      rw [← heq, String.toList_ofList] at hcolon
      exact hbefore hcolon
    rw [hserver] at hclient
    simp only [authenticate, hother, user, request, sessionAnswer, false_and, and_self, if_false,
      if_true, Except.ok.injEq] at hclient
    cases hclient
  · intro hcolon authenticate request hrequest
    apply apiLoginRequired_ok
    rw [hrequest]
    exact authenticateBasic_carries authenticate (carriesPair_authHeader credentials hcolon rfl)

/-- No worker request is served while no token is configured, or with another one. -/
theorem workerApiLoginRequired_iff (configured supplied : String) :
    workerApiLoginRequired configured supplied = .ok true ↔
      configured ≠ "" ∧ supplied = configured ∧ ∀ c ∈ configured.toList, c.toNat < 128 := by
  unfold workerApiLoginRequired
  by_cases hempty : configured = ""
  · simp [hempty]
  · rw [if_neg hempty]
    cases hany : (supplied ++ configured).toList.any fun c => 128 ≤ c.toNat with
    | true =>
      simp only [if_true, reduceCtorEq, false_iff]
      rintro ⟨-, rfl, hascii⟩
      rw [String.toList_append, List.any_append, Bool.or_self] at hany
      obtain ⟨c, hc, hlarge⟩ := List.any_eq_true.1 hany
      exact absurd (of_decide_eq_true hlarge) (Nat.not_le_of_lt (hascii c hc))
    | false =>
      rw [String.toList_append, List.any_append, Bool.or_eq_false_iff] at hany
      have hascii : ∀ c ∈ configured.toList, c.toNat < 128 := by
        intro c hc
        exact Nat.lt_of_not_le fun hlarge => List.any_eq_false.1 hany.2 c hc (decide_eq_true hlarge)
      simp only [Bool.false_eq_true, if_false, Except.ok.injEq, decide_eq_true_eq]
      exact ⟨fun h => ⟨hempty, h, hascii⟩, fun h => h.2.1⟩

end GetOffline
