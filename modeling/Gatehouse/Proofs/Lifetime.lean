import Gatehouse.Proofs.StoreAccess
/-!
# How long a session lives

The session of a successful attempt expires when the time has come that the settings allow, counted from the time
at which the attempt issued it, or when the validity has ended that the authenticator vouches for; nothing else
sets it a limit. This stays so through whatever is done to the store, as long as nobody sets the session another
limit, removes it or evicts it: other edits, passes that keep it, and other logins do not touch its limit.
-/

namespace Gatehouse

/-- When a session expires that was issued at a time, with so many minutes allowed and a record that may vouch
for an end of its own. -/
structure Expires (minutes : Nat) (issued : Instant) (record : AuthRecord) (x : Session) : Prop where
  expired : ∀ t, x.isExpired t = true ↔
    (0 < minutes ∧ (⟨issued.seconds + 60 * minutes, issued.nanos⟩ : Instant) ≤ t) ∨
      ∃ limit, record.VouchesUntil limit ∧ limit ≤ t
  unlimited : x.hardLimit = none ↔ minutes = 0 ∧ ∀ limit, ¬ record.VouchesUntil limit

/-- A session under the limit that is set when it is issued expires when it should. -/
theorem expires_of_hardLimit {minutes : Nat} {issued : Instant} {record : AuthRecord} {x : Session}
    (hn : issued.isLeap = false) (hx : x.hardLimit = Session.hardLimitFrom issued minutes record) :
    Expires minutes issued record x := by
  constructor
  · intro t
    rw [Session.isExpired_iff, hx, Session.hardLimitFrom, Session.earlierLimit_le_iff]
    simp only [Session.configuredLimit_eq_some_iff, Session.vouchedLimit_eq_some_iff,
      Instant.addMinutes_of_not_isLeap hn]
    constructor
    · rintro (⟨limit, ⟨hm, rfl⟩, hle⟩ | hv)
      · exact .inl ⟨hm, hle⟩
      · exact .inr hv
    · rintro (⟨hm, hle⟩ | hv)
      · exact .inl ⟨_, ⟨hm, rfl⟩, hle⟩
      · exact .inr hv
  · rw [hx, Session.hardLimitFrom, Session.earlierLimit_eq_none_iff]
    have hminutes : Session.configuredLimit issued minutes = none ↔ minutes = 0 := by
      simp [Session.configuredLimit]
    have hvouched : Session.vouchedLimit record = none ↔ ∀ limit, ¬ record.VouchesUntil limit := by
      simp only [Option.eq_none_iff_forall_ne_some, ne_eq, Session.vouchedLimit_eq_some_iff]
    rw [hminutes, hvouched]

/-! ## What may be done to the store -/

/-- An operation sets the session of a token no limit, does not remove it, and does not evict it. -/
def SessionStore.Op.LeavesLimit (token : String) (store : SessionStore) : SessionStore.Op → Prop
  | .write t (.hardLimit _) => t ≠ token
  | .remove t => t ≠ token
  | .evict now soft => ∀ e ∈ store.sessions.entries, e.1 = token → keeps now soft e.2 = true
  | _ => True

theorem Session.hardLimit_edit {x : Session} {now : Instant} {e : Edit} (he : ∀ limit, e ≠ .hardLimit limit) :
    (x.edit now e).hardLimit = x.hardLimit := by
  cases e with
  | hardLimit limit => exact absurd rfl (he limit)
  | _ => rfl

/-- A store holds a session under a token, with a limit. -/
def SessionStore.Holds (store : SessionStore) (token : String) (limit : Option Instant) : Prop :=
  ∃ x, store.find? token = some x ∧ x.hardLimit = limit

/-- A write that sets no limit leaves every session's limit as it is. -/
theorem SessionStore.Holds.write {store : SessionStore} {token t : String} {limit : Option Instant}
    (h : store.Holds token limit) (now : Instant) {e : Session.Edit}
    (he : t = token → ∀ limit, e ≠ .hardLimit limit) : (store.write now t e).Holds token limit := by
  obtain ⟨x, hx, hl⟩ := h
  -- Only a write under the token itself reaches the session, which is there, so no new one is opened.
  by_cases ht : t = token
  · refine ⟨x.edit now e, ?_, (Session.hardLimit_edit (he ht)).trans hl⟩
    subst ht
    have hget : (store.find? t).getD (.new now) = x := by rw [hx, Option.getD_some]
    exact (Table.find?_insert_self ..).trans (by rw [hget])
  · exact ⟨x, (Table.find?_insert_of_ne _ _ ht).trans hx, hl⟩

/-- An operation that leaves the limit of a session alone keeps the session. -/
theorem SessionStore.Holds.perform {store : SessionStore} {token : String} {limit : Option Instant}
    (h : store.Holds token limit) (now : Instant) {op : SessionStore.Op} (ho : op.LeavesLimit token store) :
    (store.perform now op).2.Holds token limit := by
  cases op with
  | write t e =>
    refine h.write now fun ht l hl => ?_
    subst hl
    exact ho ht
  | remove t =>
    obtain ⟨x, hx, hl⟩ := h
    exact ⟨x, (Table.find?_erase _ t token).trans ((if_neg ho).trans hx), hl⟩
  | evict time soft =>
    obtain ⟨x, hx, hl⟩ := h
    exact ⟨x, (Table.find?_filter_of_forall ho).trans hx, hl⟩
  | _ => exact h

namespace Login

variable {σ : Type}

/-- What can come after a session was issued: operations of the store that leave its limit alone, and other
attempts, by whatever setup, which draw other tokens. -/
inductive Onward (h : Dialogue.Handler σ) (store : σ → SessionStore) (token : String) (issued : σ) : σ → Prop
  | refl : Onward h store token issued issued
  | operation {st st'} (ho : Onward h store token issued st) (now : Instant) (op : SessionStore.Op)
      (hop : op.LeavesLimit token (store st)) (hs : store st' = ((store st).perform now op).2) :
      Onward h store token issued st'
  | attempt {st} (ho : Onward h store token issued st) (s : Setup) (p : LoginParameters)
      (ht : ⟨.newToken, .ok token⟩ ∉ (login s p).transcript h st) :
      Onward h store token issued ((login s p).run h st).2

section
variable {h : Dialogue.Handler σ} {store : σ → SessionStore} (hk : KeepsStore h store) {token : String}
include hk

theorem find?_login {s : Setup} {p : LoginParameters} {st : σ}
    (ht : ⟨.newToken, .ok token⟩ ∉ (login s p).transcript h st) :
    (store ((login s p).run h st).2).find? token = (store st).find? token := by
  have hy : Course s p _ _ := course_of_yields (Dialogue.yields_transcript h (login s p) st)
  exact find?_of_conducts hk (Dialogue.conducts_transcript h (login s p) st) fun _ => hy.sparesSession ht

theorem Onward.holds {limit : Option Instant} {issued st : σ} (ho : Onward h store token issued st)
    (hi : (store issued).Holds token limit) : (store st).Holds token limit := by
  induction ho with
  | refl => exact hi
  | operation _ now op hop hs ih =>
    rw [hs]
    exact ih.perform now hop
  | attempt _ s p ht ih =>
    unfold SessionStore.Holds
    rw [find?_login hk ht]
    exact ih

/-- The session of a successful attempt expires when the settings or the authenticator's record say, counted from
the time that was read when the token had been drawn, whatever comes after that leaves its limit alone. -/
theorem login_expires (s : Setup) (p : LoginParameters) (st : σ) {v : LoginResult}
    (hv : ((login s p).run h st).1 = .ok v) (hs : v.succeeded = true) :
    ∃ (f : Findings) (token : String) (now : Instant) (t u : List Exchange),
      Consulted s p ((login s p).transcript h st) f ∧ v.sessionId = some token ∧
      (login s p).transcript h st = t ++ ⟨.newToken, .ok token⟩ :: ⟨.now, now⟩ :: u ∧
      (now.isLeap = false → ∀ st', Onward h store token ((login s p).run h st).2 st' →
        ∃ x, (store st').find? token = some x ∧ Expires s.session.hardLimitMinutes now f.record x) := by
  have hy : Course s p _ _ := course_of_yields (Dialogue.yields_transcript h (login s p) st)
  have hd := Dialogue.conducts_transcript h (login s p) st
  rw [hv] at hy
  obtain ⟨f, b, token, now, t, u, x, y, ha, htoken, -, htr, hfill, hy'⟩ := hy.filled hk hd hs
  refine ⟨f, token, now, t ++ [⟨.report f.report, ()⟩], u, ha.consulted.mono ?_, htoken, ?_, ?_⟩
  · intro z hz
    rw [htr]
    exact List.mem_append_left _ hz
  · rw [htr, List.append_assoc]
    rfl
  · intro hleap st' ho
    -- The session under the token may become another one, but its limit stays the one that it was filled with.
    obtain ⟨z, hz, hl⟩ := ho.holds hk ⟨y, hy', rfl⟩
    exact ⟨z, hz, expires_of_hardLimit hleap (hl.trans hfill.hardLimit)⟩

end

def Exchange.time? : Exchange → Option Instant
  | ⟨.now, t⟩ => some t
  | _ => none

/-- Without a limit in the settings, the session of somebody with a record that ends lives until then, also after
it was used. -/
theorem login_expires_vouched :
    let d : Directory := {
      name := "staff", authnName := "staff-authn", authzName := "staff-authz"
      users := .ofList [("ada", { name := "ada", passwordHash := "" })] }
    let s : Setup := {
      profiles := ⟨.ofList [("main", { name := "main", authenticator := .directory d, authorizer := .directory d })]⟩
      session := { hardLimitMinutes := 0 } }
    let record : AuthRecord := ⟨.ofList [
      (AuthRecord.principalKey, .text "ada"), (AuthRecord.validToKey, .text "20300101000000Z")]⟩
    let p := LoginParameters.ofAuthRecord "main" record .negotiation
    let st : Services Unit := {
      permissions := { allowEveryone := true }, clock := fun _ => ⟨1700000000, 0⟩
      tokens := fun _ => .ok "new", outside := () }
    let h := Services.reply fun _ _ => pure (.ok ∅)
    ∃ f now x, Consulted s p ((login s p).transcript h st) f ∧
      (((login s p).run h st).2.sessions.perform ⟨1700000060, 0⟩ (.write "new" .seen)).2.find? "new" = some x ∧
      Expires 0 now f.record x := by
  intro d s record p st h
  have hopened : opened? ((login s p).run h st).1 = some "new" := by decide +kernel
  have hclock : ∀ t ∈ ((login s p).transcript h st).filterMap Exchange.time?, t.isLeap = false := by decide +kernel
  obtain ⟨v, hv, hs, htoken⟩ := opened?_eq_some.1 hopened
  obtain ⟨f, token, now, t, u, hf, htoken', htr, hlives⟩ := login_expires (h := h) (keepsStore_reply _) s p st hv hs
  cases htoken.symm.trans htoken'
  have hnow : now.isLeap = false := by
    refine hclock now (List.mem_filterMap.2 ⟨⟨.now, now⟩, ?_, rfl⟩)
    rw [htr]
    simp
  obtain ⟨x, hx, he⟩ := hlives hnow { ((login s p).run h st).2 with
    sessions := (((login s p).run h st).2.sessions.perform ⟨1700000060, 0⟩ (.write "new" .seen)).2 }
    (.operation .refl ⟨1700000060, 0⟩ (.write "new" .seen) trivial rfl)
  exact ⟨f, now, x, hf, hx, he⟩

end Login

end Gatehouse
