import Gatehouse.Proofs.Recollection
/-!
# What the user is told

The messages of an attempt gather on its way, and the failure is made apart from them. Main statement: whatever the
collaborators reply, the messages are those that the failure has by its kind, and of an authenticator's answer the user
is told no more than what the failure carries.
-/

namespace Gatehouse

/-! ## Messages by the kind of failure -/

/-- A message about a text. -/
def UserMessage.about (m : LoginMessage) (variableName text : String) : UserMessage where
  message := m
  bindings := .ofList [(variableName, text)]

/-- What the user is told about a failure. -/
def LoginFailure.messages : LoginFailure → List UserMessage
  | missingPassword => []
  | credentialsExpired none none => [{ message := .passwordExpired }]
  | credentialsExpired changeUrl userMessage =>
    (changeUrl.map (UserMessage.about .passwordExpiredWithUrl "URL")).toList ++
      (userMessage.map (UserMessage.about .passwordExpiredWithMessage "MSG")).toList
  | authenticationFailed .invalidCredentials => [{ message := .wrongUsernameOrPassword }]
  | authenticationFailed .accountLocked | authenticationFailed .accountDisabled => [{ message := .accountDisabled }]
  | authenticationFailed .accountExpired => [{ message := .accountExpired }]
  | authenticationFailed .timedOut => [{ message := .authTimedOut }]
  | principalNotFound => [{ message := .userMustExistInDirectory }]
  | authorizationDenied => [{ message := .notAuthorizedToPerformAction }]
  | _ => [{ message := .failedToAuthenticate }]

/-- Only about a missing password the user is told nothing. -/
theorem LoginFailure.messages_eq_nil_iff {f : LoginFailure} : f.messages = [] ↔ f = .missingPassword := by
  cases f with
  | credentialsExpired changeUrl userMessage => cases changeUrl <;> cases userMessage <;> simp [messages]
  | authenticationFailed reason => cases reason <;> simp [messages]
  | _ => simp [messages]

/-- What is shown of a field: nothing if it is missing or blank, and otherwise its text without the white space at
its ends. -/
structure Shown (field shown : Option String) : Prop where
  absent : shown = none ↔ ∀ text, field = some text → ∀ c ∈ text.toList, isBlank c = true
  present : ∀ t, shown = some t → ∃ text, field = some text ∧ Trimmed text.toList t.toList

theorem shown_nonBlank? (field : Option String) : Shown field (field.bind nonBlank?) := by
  cases field with
  | none => constructor <;> simp
  | some text =>
    refine ⟨by simp [nonBlank?_eq_none_iff], ?_⟩
    intro t ht
    exact ⟨text, rfl, trimmed_of_nonBlank? ht⟩

namespace Wire.AuthnResponse

theorem expiryMessages_eq (changeUrl userMessage : Option String) :
    expiryMessages changeUrl userMessage = (LoginFailure.credentialsExpired changeUrl userMessage).messages := by
  cases changeUrl <;> cases userMessage <;> rfl

/-- What the user is told about a refusal is what its failure says. -/
theorem messages_refusal (a : AuthnResponse) : a.refusal.2 = a.refusal.1.messages := by
  unfold refusal
  split
  · exact expiryMessages_eq _ _
  · next hv => cases hr : a.result <;> first | rfl | exact absurd hr hv

/-- A refusal means expired credentials only if the authenticator said so, and it shows what the answer has. -/
theorem shown_of_refusal {a : AuthnResponse} {changeUrl userMessage : Option String}
    (h : a.refusal.1 = .credentialsExpired changeUrl userMessage) :
    a.result = .credentialsExpired ∧ Shown a.changeUrl changeUrl ∧ Shown a.userMessage userMessage := by
  unfold refusal at h
  split at h
  · next hr =>
    cases h
    exact ⟨hr, shown_nonBlank? _, shown_nonBlank? _⟩
  · cases h

end Wire.AuthnResponse

namespace Login

variable {σ : Type}

/-! ## Messages on the way -/

/-- An attempt that ends has told the user what its failure says. -/
def Tells (a : Progress) : Exit → Progress → Prop
  | .failed f, b => finalMessages f b.messages = a.messages ++ f.messages
  | .fatal _, _ => True

section
variable {s : Setup} {p : LoginParameters} {profile : Profile} {a a' b : Progress} {tr : List Exchange} {x : Exit}

theorem tells_exitAt (a : Progress) (stage : LoginStage) (e : Fault) : Tells a (exitAt stage e) a := by
  unfold exitAt
  split
  · trivial
  · rfl

theorem Tells.of_eq (h : Tells a x b) (ha : a.messages = a'.messages) : Tells a' x b := by
  cases x with
  | failed f =>
    have h' : finalMessages f b.messages = a.messages ++ f.messages := h
    rw [ha] at h'
    exact h'
  | fatal e => trivial

theorem messages_naming (a : Progress) (principal : Option String) (profile : Profile) :
    (a.naming principal profile).messages = a.messages := by
  cases principal <;> rfl

theorem finalMessages_refusal (x : Wire.AuthnResponse) (messages : List UserMessage) :
    finalMessages x.refusal.1 messages = messages := by
  unfold Wire.AuthnResponse.refusal
  split <;> rfl

theorem Proves.messages_eq {evidence : Evidence} (h : Proves profile p a tr (.ok evidence) b) :
    b.messages = a.messages := by
  cases h with
  | supplied => rfl
  | proven => exact messages_naming ..

theorem Proves.tells (h : Proves profile p a tr (.error x) b) : Tells a x b := by
  cases h with
  | noName | noPassword | unsupported => rfl
  | unchosen | unasked => exact tells_exitAt ..
  | @refused _ _ _ _ x =>
    show finalMessages _ ((a.naming _ profile).messages ++ x.response.refusal.2) = _
    rw [finalMessages_refusal, messages_naming, Wire.AuthnResponse.messages_refusal]
  | recordless =>
    show (a.naming _ profile).messages ++ _ = _
    rw [messages_naming]
    rfl

theorem Finds.messages_eq {record : AuthRecord} {loginName : Option String} {principal : PrincipalRecord}
    (h : Finds profile record loginName a tr (.ok principal) b) : b.messages = a.messages := by
  cases h
  rfl

theorem Finds.tells {record : AuthRecord} {loginName : Option String}
    (h : Finds profile record loginName a tr (.error x) b) : Tells a x b := by
  cases h with
  | failed => exact tells_exitAt ..
  | unknown => rfl

theorem Permits.messages_eq {record : AuthRecord} {principal : PrincipalRecord} {row user : LocalUser}
    (h : Permits profile record principal row a tr (.ok user) b) : b.messages = a.messages := by
  cases h
  rfl

theorem Permits.tells {record : AuthRecord} {principal : PrincipalRecord} {row : LocalUser}
    (h : Permits profile record principal row a tr (.error x) b) : Tells a x b := by
  cases h with
  | failed | adminFailed => exact tells_exitAt ..
  | denied => rfl

theorem Locates.messages_eq {evidence : Evidence} {record : AuthRecord} {principal : PrincipalRecord}
    (h : Locates s p a profile evidence record principal tr b) : b.messages = a.messages := by
  cases h with
  | intro _ hv _ hf => rw [hf.messages_eq, messages_naming, hv.messages_eq]

theorem Admits.messages_eq {f : Findings} (h : Admits s p a f tr b) : b.messages = a.messages := by
  cases h with
  | intro hl _ hp => rw [hp.messages_eq, hl.messages_eq]

theorem Executes.tells (h : Executes s p a tr (.error x) b) : Tells a x b := by
  cases h with
  | noProfile => rfl
  | unproven _ hv => exact hv.tells
  | unmapped _ hv =>
    apply (tells_exitAt ..).of_eq
    rw [messages_naming, hv.messages_eq]
  | unfound _ hv _ hf =>
    apply hf.tells.of_eq
    rw [messages_naming, hv.messages_eq]
  | unsynced hl => exact (tells_exitAt ..).of_eq hl.messages_eq
  | unpermitted hl _ hp => exact hp.tells.of_eq hl.messages_eq
  | unissued ha => exact (tells_exitAt ..).of_eq ha.messages_eq

/-! ## Expired credentials -/

/-- The authenticator said that the credentials have expired, and the failure shows what else it said. -/
def SaidExpired (tr : List Exchange) (changeUrl userMessage : Option String) : Prop :=
  ∃ authenticator q response, ⟨.authenticate authenticator q, .ok response⟩ ∈ tr ∧
    response.result = .credentialsExpired ∧ Shown response.changeUrl changeUrl ∧
    Shown response.userMessage userMessage

variable {changeUrl userMessage : Option String}

theorem exitAt_ne (stage : LoginStage) (e : Fault) :
    exitAt stage e ≠ .failed (.credentialsExpired changeUrl userMessage) := by
  unfold exitAt
  split <;> exact nofun

theorem Proves.saidExpired (h : Proves profile p a tr (.error (.failed (.credentialsExpired changeUrl userMessage))) b) :
    SaidExpired tr changeUrl userMessage := by
  generalize hx : Exit.failed (.credentialsExpired changeUrl userMessage) = x at h
  cases h with
  | noName | noPassword | unsupported | recordless => cases hx
  | unchosen | unasked => exact absurd hx.symm (exitAt_ne _ _)
  | @refused _ credentials _ _ _ _ _ ha =>
    injection hx with hx
    obtain ⟨hresult, hurl, htext⟩ := Wire.AuthnResponse.shown_of_refusal hx.symm
    cases ha with
    | @answered t user response =>
      refine ⟨profile.authenticator, { user, credentials := credentials.2 }, response, ?_, hresult, hurl, htext⟩
      simp

theorem Executes.saidExpired
    (h : Executes s p a tr (.error (.failed (.credentialsExpired changeUrl userMessage))) b) :
    SaidExpired tr changeUrl userMessage := by
  generalize hx : Exit.failed (.credentialsExpired changeUrl userMessage) = x at h
  cases h with
  | noProfile => cases hx
  | unproven _ hv =>
    subst hx
    exact hv.saidExpired
  | unfound _ _ _ hf =>
    cases hf with
    | failed => exact absurd hx.symm (exitAt_ne _ _)
    | unknown => cases hx
  | unpermitted _ _ hp =>
    cases hp with
    | failed | adminFailed => exact absurd hx.symm (exitAt_ne _ _)
    | denied => cases hx
  | unmapped | unsynced | unissued => exact absurd hx.symm (exitAt_ne _ _)

end

/-! ## Refusals on the way -/

/-- No authenticator refuses in a transcript. -/
def Unrefused (tr : List Exchange) : Prop :=
  ∀ a q response, ⟨.authenticate a q, .ok response⟩ ∈ tr → response.result.isSuccess = true

/-- If an authenticator refuses in a transcript, then this is how an attempt ends. -/
def Heeds (tr : List Exchange) (x : Exit) : Prop :=
  ∀ a q response, ⟨.authenticate a q, .ok response⟩ ∈ tr → response.result.isSuccess = false →
    x = .failed response.refusal.1

section
variable {s : Setup} {p : LoginParameters} {profile : Profile} {b c : Progress} {t u : List Exchange} {x : Exit}
  {credentials : String × Secret}

theorem AsksNobody.unrefused (h : AsksNobody t) : Unrefused t := fun _ _ _ hx => absurd hx h.not_mem

theorem Unrefused.append (ht : Unrefused t) (hu : Unrefused u) : Unrefused (t ++ u) := by
  intro a q response hx
  exact (List.mem_append.1 hx).elim (ht a q response) (hu a q response)

theorem Unrefused.heeds (h : Unrefused t) : Heeds t x := by
  intro a q response hx hr
  cases hr.symm.trans (h a q response hx)

theorem Heeds.append (ht : Heeds t x) (hu : Heeds u x) : Heeds (t ++ u) x := by
  intro a q response hx
  exact (List.mem_append.1 hx).elim (ht a q response) (hu a q response)

theorem Asks.unrefused_of_error {e : Fault} (h : Asks profile credentials t (.error e)) : Unrefused t := by
  cases h with
  | unnamed hn => exact hn.asksNobody.unrefused
  | failed hn =>
    apply hn.asksNobody.unrefused.append
    intro a q response hx
    cases List.mem_singleton.1 hx

/-- Nobody but the one authenticator answers. -/
theorem Asks.eq_response {y : Authentication} (h : Asks profile credentials t (.ok y)) {a : Authenticator}
    {q : Wire.AuthnRequest} {response : Wire.AuthnResponse} (hx : ⟨.authenticate a q, .ok response⟩ ∈ t) :
    response = y.response := by
  cases h with
  | answered hn =>
    have hlast := (List.mem_append.1 hx).resolve_left hn.asksNobody.not_mem
    cases List.mem_singleton.1 hlast
    rfl

theorem Asks.unrefused {y : Authentication} (h : Asks profile credentials t (.ok y))
    (hy : y.response.result.isSuccess = true) : Unrefused t := by
  intro a q response hx
  rw [h.eq_response hx, hy]

theorem Asks.heeds {y : Authentication} (h : Asks profile credentials t (.ok y)) :
    Heeds t (.failed y.response.refusal.1) := by
  intro a q response hx _
  rw [h.eq_response hx]

theorem Proves.unrefused {evidence : Evidence} (h : Proves profile p b t (.ok evidence) c) : Unrefused t := by
  cases h with
  | supplied => exact AsksNobody.unrefused (lacks_nil _)
  | proven _ hc ha hy => exact hc.asksNobody.unrefused.append (ha.unrefused hy)

theorem Proves.heeds (h : Proves profile p b t (.error x) c) : Heeds t x := by
  cases h with
  | noName | noPassword | unsupported => exact (AsksNobody.unrefused (lacks_nil _)).heeds
  | unchosen _ hc => exact hc.asksNobody.unrefused.heeds
  | unasked _ hc ha => exact (hc.asksNobody.unrefused.append ha.unrefused_of_error).heeds
  | refused _ hc ha =>
    exact hc.asksNobody.unrefused.heeds.append (ha.heeds.append (settled_refusalEntry _).asksNobody.unrefused.heeds)
  | recordless _ hc ha hy => exact (hc.asksNobody.unrefused.append (ha.unrefused hy)).heeds

theorem Locates.unrefused {evidence : Evidence} {record : AuthRecord} {principal : PrincipalRecord}
    (h : Locates s p b profile evidence record principal t c) : Unrefused t := by
  cases h with
  | intro _ hv hm hf => exact hv.unrefused.append (hm.settled.append hf.settled).asksNobody.unrefused

theorem Admits.unrefused {f : Findings} (h : Admits s p b f t c) : Unrefused t := by
  cases h with
  | intro hl hs hp => exact hl.unrefused.append (hs.settled.append hp.settled).asksNobody.unrefused

theorem Executes.unrefused {v : String × LocalUser} (h : Executes s p b t (.ok v) c) : Unrefused t := by
  cases h with
  | granted ha hi => exact ha.unrefused.append (hi.settled.cons rfl).asksNobody.unrefused

theorem Executes.heeds (h : Executes s p b t (.error x) c) : Heeds t x := by
  cases h with
  | noProfile => exact (AsksNobody.unrefused (lacks_nil _)).heeds
  | unproven _ hv => exact hv.heeds
  | unmapped _ hv hm => exact (hv.unrefused.append hm.settled.asksNobody.unrefused).heeds
  | unfound _ hv hm hf => exact (hv.unrefused.append (hm.settled.append hf.settled).asksNobody.unrefused).heeds
  | unsynced hl hs => exact (hl.unrefused.append hs.settled.asksNobody.unrefused).heeds
  | unpermitted hl hs hp => exact (hl.unrefused.append (hs.settled.append hp.settled).asksNobody.unrefused).heeds
  | unissued ha hi => exact (ha.unrefused.append (hi.settled.cons rfl).asksNobody.unrefused).heeds

end

/-! ## The whole attempt -/

/-- The verdicts that have no message of their own. -/
def Unexplained (v : Wire.Verdict) : Prop := v = .generalError ∨ v = .remoteUnavailable ∨ ∃ code, v = .unknown code

theorem isSuccess_of_unexplained {v : Wire.Verdict} (h : Unexplained v) : v.isSuccess = false := by
  rcases h with rfl | rfl | ⟨code, rfl⟩ <;> rfl

theorem messages_of_unexplained {response : Wire.AuthnResponse} (h : Unexplained response.result) :
    response.refusal.1.messages = [{ message := .failedToAuthenticate }] := by
  unfold Wire.AuthnResponse.refusal
  rcases h with h | h | ⟨code, h⟩ <;> rw [h] <;> rfl

/-- What an attempt that answers tells the user. -/
structure TellsUser (tr : List Exchange) (v : LoginResult) : Prop where
  granted : v.succeeded = true → v.failure = none ∧ v.messages = []
  refused : v.succeeded = false → ∃ f, v.failure = some f
  /-- The messages are those of the failure, and there are none only where a password is missing. -/
  told : ∀ f, v.failure = some f → v.messages = f.messages ∧ (v.messages = [] ↔ f = .missingPassword)
  expired : ∀ changeUrl userMessage, v.failure = some (.credentialsExpired changeUrl userMessage) →
    SaidExpired tr changeUrl userMessage
  /-- Of a verdict without a message of its own, the user is told only that the authentication failed. -/
  unexplained : ∀ authenticator q response, ⟨.authenticate authenticator q, .ok response⟩ ∈ tr →
    Unexplained response.result → v.messages = [{ message := .failedToAuthenticate }]

theorem Course.tellsUser {s : Setup} {p : LoginParameters} {tr : List Exchange} {v : LoginResult}
    (h : Course s p tr (.ok v)) : TellsUser tr v := by
  cases h with
  | @granted t u _ _ b he hb =>
    refine ⟨fun _ => ⟨rfl, rfl⟩, nofun, nofun, nofun, ?_⟩
    have hbooks : AsksNobody (⟨.audit b.displayName .login, ()⟩ :: u) := (hb.settled.cons rfl).asksNobody
    intro authenticator q response hx hr
    have hsuccess := he.unrefused.append hbooks.unrefused authenticator q response hx
    cases (isSuccess_of_unexplained hr).symm.trans hsuccess
  | @refused t f b he =>
    have htold : finalMessages f b.messages = f.messages := he.tells
    constructor
    case granted => exact nofun
    case refused => exact fun _ => ⟨f, rfl⟩
    case told =>
      intro f' hf
      cases hf
      have hmessages : (LoginResult.refused f (finalMessages f b.messages)).messages = f.messages := htold
      rw [hmessages]
      exact ⟨rfl, LoginFailure.messages_eq_nil_iff⟩
    case expired =>
      intro changeUrl userMessage hf
      cases hf
      obtain ⟨authenticator, q, response, hx, hs⟩ := he.saidExpired
      exact ⟨authenticator, q, response, List.mem_append_left _ hx, hs⟩
    case unexplained =>
      intro authenticator q response hx hr
      have hx : ⟨.authenticate authenticator q, .ok response⟩ ∈ t :=
        (List.mem_append.1 hx).resolve_right fun hlast => nomatch List.mem_singleton.1 hlast
      cases he.heeds authenticator q response hx (isSuccess_of_unexplained hr)
      exact htold.trans (messages_of_unexplained hr)

/-- Whatever the collaborators reply, an attempt that answers tells the user what its failure says, and nothing if it
succeeded. -/
theorem login_tells_user (h : Dialogue.Handler σ) (s : Setup) (p : LoginParameters) (st : σ) {v : LoginResult}
    (hv : ((login s p).run h st).1 = .ok v) : TellsUser ((login s p).transcript h st) v := by
  have hy : Course s p _ _ := course_of_yields (Dialogue.yields_transcript h (login s p) st)
  rw [hv] at hy
  exact hy.tellsUser

/-! An example: a remote party says that a password has expired, and where to change it. -/

/-- The answer of the remote party. -/
def passwordExpired : Wire.AuthnResponse := { result := .credentialsExpired, changeUrl := some " pw.example " }

/-- The user is told where to change the password, without the white space around it. -/
theorem login_tells_user_expired :
    let h := Services.reply fun _ _ => pure (.ok passwordExpired.toMap)
    let p := LoginParameters.ofCredentials "main" "bob" ⟨"bob-secret"⟩
    let st : Services Unit := { clock := fun _ => ⟨0, 0⟩, outside := () }
    let messages := [UserMessage.about .passwordExpiredWithUrl "URL" "pw.example"]
    let v := LoginResult.refused (.credentialsExpired (some "pw.example") none) messages
    ((login ldapSetup p).run h st).1 = .ok v ∧ TellsUser ((login ldapSetup p).transcript h st) v := by
  intro h p st messages v
  have hv : ((login ldapSetup p).run h st).1 = .ok v := rfl
  exact ⟨hv, login_tells_user h ldapSetup p st hv⟩

end Login

end Gatehouse
