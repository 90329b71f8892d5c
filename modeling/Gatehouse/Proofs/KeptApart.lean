import Gatehouse.Proofs.Concourse
import Gatehouse.Proofs.DirectoryRows
import Gatehouse.Proofs.Likeness
import Gatehouse.Proofs.StoreAccess
/-!
# Logins that take turns are kept apart

Any number of attempts share one session store and one user directory, and take turns request by request. An
attempt that succeeds has its session to itself, whatever the others do in between, and all attempts that
come to one principal come to one user, with one row in the directory.
-/

namespace Gatehouse.Login

variable {ι α σ : Type}

/-! ## Tokens -/

/-- The token that was drawn. -/
def Exchange.drawn? : Exchange → Option String
  | ⟨.newToken, .ok token⟩ => some token
  | _ => none

/-- The tokens that were drawn. -/
def drawn (tr : List Exchange) : List String := tr.filterMap Exchange.drawn?

theorem drawn?_eq_some {x : Exchange} {token : String} : x.drawn? = some token ↔ x = ⟨.newToken, .ok token⟩ := by
  constructor
  · intro h
    unfold Exchange.drawn? at h
    split at h
    · cases h
      rfl
    · cases h
  · rintro rfl
    rfl

theorem mem_drawn {tr : List Exchange} {token : String} : token ∈ drawn tr ↔ ⟨.newToken, .ok token⟩ ∈ tr := by
  simp only [drawn, List.mem_filterMap, drawn?_eq_some, exists_eq_right]

/-- Where no token is drawn twice, a token has one drawer. -/
theorem eq_of_drawn {trace : List (ι × Exchange)} (hn : (drawn (trace.map Prod.snd)).Nodup) {i j : ι}
    {token : String} (hi : (i, ⟨.newToken, .ok token⟩) ∈ trace) (hj : (j, ⟨.newToken, .ok token⟩) ∈ trace) :
    i = j := by
  induction trace with
  | nil => cases hi
  | cons e trace ih =>
    have hTail : (drawn (trace.map Prod.snd)).Nodup := by
      apply List.Nodup.sublist _ hn
      exact (List.sublist_cons_self _ _).filterMap _
    -- A token that is drawn first is not drawn again.
    have hOnce : ∀ k, e = (k, ⟨.newToken, .ok token⟩) → ∀ l, (l, ⟨.newToken, .ok token⟩) ∉ trace := by
      rintro k rfl l hl
      have hMem : token ∈ drawn (trace.map Prod.snd) := mem_drawn.2 (List.mem_map_of_mem hl)
      exact (List.nodup_cons.1 hn).1 hMem
    cases List.mem_cons.1 hi with
    | inl hi =>
      cases List.mem_cons.1 hj with
      | inl hj =>
        rw [← hi] at hj
        exact (congrArg Prod.fst hj).symm
      | inr hj => exact absurd hj (hOnce i hi.symm j)
    | inr hi =>
      cases List.mem_cons.1 hj with
      | inl hj => exact absurd hi (hOnce j hj.symm i)
      | inr hj => exact ih hTail hi hj

/-! ## What an attempt under way does to sessions -/

/-- A dialogue may end without having drawn a certain token. -/
theorem exists_yields_without (x : Dialogue α) (token : String) :
    ∃ tr a, x.Yields tr a ∧ ⟨.newToken, .ok token⟩ ∉ tr := by
  induction x with
  | done a => exact ⟨[], a, .done a, List.not_mem_nil⟩
  | ask r next ih =>
    have hReply : ∃ v : r.Reply, (⟨.newToken, .ok token⟩ : Exchange) ≠ ⟨r, v⟩ := by
      by_cases hr : r = .newToken
      · subst hr
        refine ⟨(.error default : Except Fault String), ?_⟩
        intro heq
        cases heq
      · obtain ⟨v⟩ := Dialogue.nonempty_reply r
        refine ⟨v, ?_⟩
        intro heq
        exact hr (congrArg Exchange.request heq).symm
    obtain ⟨v, hv⟩ := hReply
    obtain ⟨tr, a, hy, ht⟩ := ih v
    refine ⟨_, a, .ask v hy, ?_⟩
    simp only [List.mem_cons, not_or]
    exact ⟨hv, ht⟩

/-- Up to where it has come, an attempt leaves the sessions of all tokens alone that it did not draw. -/
theorem sparesSession_of_after {s : Setup} {p : LoginParameters} {tr : List Exchange}
    {y : Dialogue (Except Fault LoginResult)} (h : (login s p).After tr y) {token : String}
    (ht : ⟨.newToken, .ok token⟩ ∉ tr) {x : Exchange} (hx : x ∈ tr) : x.request.sparesSession token = true := by
  obtain ⟨u, a, hy, hu⟩ := exists_yields_without y token
  have hc : Course s p (tr ++ u) a := course_of_yields (h.yields hy)
  apply hc.sparesSession
  · simp only [List.mem_append, not_or]
    exact ⟨ht, hu⟩
  · exact List.mem_append_left u hx

/-- The exchanges that bear on the session of a token. -/
def touching (token : String) (tr : List Exchange) : List Exchange :=
  tr.filter fun x => !x.request.sparesSession token

theorem touching_append (token : String) (t u : List Exchange) :
    touching token (t ++ u) = touching token t ++ touching token u := List.filter_append ..

theorem touching_eq_nil {token : String} {tr : List Exchange}
    (h : ∀ x ∈ tr, x.request.sparesSession token = true) : touching token tr = [] := by
  apply List.filter_eq_nil_iff.2
  intro x hx
  simp [h x hx]

theorem Writes.touching_eq {token : String} {es : List Session.Edit} {tr : List Exchange} {r : Except Fault Unit}
    (h : Writes token es tr r) : touching token tr = tr := by
  apply List.filter_eq_self.2
  intro x hx
  induction h with
  | done => cases hx
  | failed =>
    rw [List.mem_singleton.1 hx]
    simp [Request.sparesSession]
  | wrote _ ih =>
    cases List.mem_cons.1 hx with
    | inl hx =>
      rw [hx]
      simp [Request.sparesSession]
    | inr hx => exact ih hx

section
variable {h : Dialogue.Handler σ} {store : σ → SessionStore} (hk : KeepsStore h store) {st st' : σ}
  {tr : List Exchange} {token : String}
include hk

/-- Writes under a token that come among requests which leave its session alone edit that session, and open it
if there is none. -/
theorem edited_among {es : List Session.Edit} (hw : Writes token es (touching token tr) (.ok ()))
    (hc : Dialogue.Conducts h st tr st') :
    es = [] ∧ (store st').find? token = (store st).find? token ∨
      ∃ now y, Edited es (((store st).find? token).getD (.new now)) y ∧ (store st').find? token = some y := by
  induction hc generalizing es with
  | nil st =>
    cases hw
    exact .inl ⟨rfl, rfl⟩
  | @cons st st' tr r _ ih =>
    by_cases hr : r.sparesSession token = true
    · have hSame : touching token (⟨r, (h r st).1⟩ :: tr) = touching token tr := by
        simp [touching, hr]
      rw [hSame] at hw
      rw [← find?_of_sparesSession hk hr st]
      exact ih hw
    · have hFirst : touching token (⟨r, (h r st).1⟩ :: tr) = ⟨r, (h r st).1⟩ :: touching token tr := by
        simp [touching, hr]
      rw [hFirst] at hw
      generalize hreply : (h r st).1 = reply at hw
      generalize touching token tr = later at hw ih
      cases hw with
      | @wrote e es _ _ hw =>
        obtain ⟨-, now, hs⟩ | ⟨⟨f, hf⟩, -⟩ := write_cases hk hreply.symm
        · have hNow : (store (h (.sessions (.write token e)) st).2).find? token
              = some ((((store st).find? token).getD (.new now)).edit now e) := by
            rw [hs]
            exact Table.find?_insert_self ..
          right
          obtain ⟨rfl, hEnd⟩ | ⟨later, y, hy, hEnd⟩ := ih hw
          · exact ⟨now, _, .cons now (.nil _), hEnd.trans hNow⟩
          · rw [hNow] at hy
            exact ⟨now, y, .cons now hy, hEnd⟩
        · cases hf

end

/-! ## What an attempt that succeeded did -/

section
variable {s : Setup} {p : LoginParameters} {tr : List Exchange} {v : LoginResult}

/-- An attempt that succeeded found something out, drew a token, read the time, and wrote the one under the
other. -/
structure Granted (s : Setup) (p : LoginParameters) (tr : List Exchange) (v : LoginResult) (f : Findings)
    (token : String) (now : Instant) : Prop where
  consulted : Consulted s p tr f
  sessionId : v.sessionId = some token
  user : v.user = some f.user
  /-- The user was saved as the one that the authorizer's principal describes. -/
  saved : ∃ id u, LocalUser.ofPrincipal id f.profile.authorizer.name f.principal = .ok u ∧
    ⟨.saveUser u, .ok f.row⟩ ∈ tr
  administers : f.user = { f.row with admin := f.user.admin }
  drew : ∃ t u, tr = t ++ ⟨.newToken, .ok token⟩ :: ⟨.now, now⟩ :: u
  wrote : Writes token ((f.grant p).edits s.session now) (touching token tr) (.ok ())

theorem Syncs.exists_saved {profile : Profile} {principal : PrincipalRecord} {row : LocalUser}
    (h : Syncs profile principal tr (.ok row)) :
    ∃ id u, LocalUser.ofPrincipal id profile.authorizer.name principal = .ok u ∧ ⟨.saveUser u, .ok row⟩ ∈ tr := by
  cases h with
  | saved hu => exact ⟨_, _, hu, by simp⟩

theorem Course.exists_granted (h : Course s p tr (.ok v)) (hv : v.succeeded = true) :
    ∃ f token now, Granted s p tr v f token now := by
  cases h with
  | refused => cases hv
  | @granted _ u token _ b he hb =>
    cases he with
    | @granted f t _ _ _ ha hi =>
      cases hi with
      | @issued _ now w hw =>
        have hAdmits : touching token t = [] :=
          touching_eq_nil fun x hx => sparesSession_of_sparesStore (ha.sparesStore hx)
        have hBooks : touching token u = [] :=
          touching_eq_nil fun x hx => sparesSession_of_sparesStore (sparesStore_of_isBookkeeping (hb.isBookkeeping hx))
        have hIn : ∀ x ∈ t, x ∈ t ++ (⟨.report f.report, ()⟩ :: ⟨.newToken, .ok token⟩ :: ⟨.now, now⟩ :: w)
            ++ (⟨.audit b.displayName .login, ()⟩ :: u) := by
          intro x hx
          simp [hx]
        refine ⟨f, token, now, ha.consulted.mono hIn, rfl, rfl, ?_, ?_, ?_, ?_⟩
        · cases ha with
          | intro hl hs hp =>
            obtain ⟨id, u, hu, hx⟩ := hs.exists_saved
            exact ⟨id, u, hu, hIn _ (by simp [hx])⟩
        · obtain ⟨admin, -, hu⟩ := ha.consulted.administers
          rw [hu]
        · refine ⟨t ++ [⟨.report f.report, ()⟩], w ++ (⟨.audit b.displayName .login, ()⟩ :: u), ?_⟩
          simp
        · have hWhole : touching token (t ++ (⟨.report f.report, ()⟩ :: ⟨.newToken, .ok token⟩ :: ⟨.now, now⟩ :: w)
              ++ (⟨.audit b.displayName .login, ()⟩ :: u)) = touching token w := by
            rw [touching_append, touching_append, hAdmits]
            show [] ++ touching token w ++ touching token u = _
            rw [hBooks, List.nil_append, List.append_nil]
          rw [hWhole, hw.touching_eq]
          exact hw

end

/-! ## Users -/

/-- A handler keeps its users in a directory: a save is done or fails, and nothing else that a login asks for
changes the directory, but evaluations may be recorded at any time. -/
structure KeepsUsers (h : Dialogue.Handler σ) (users : σ → UserDirectory) : Prop where
  save : ∀ u st, ∃ cs,
    (h (.saveUser u) st).1 = .ok ((users st).save u).1 ∧
      users (h (.saveUser u) st).2 = ((users st).save u).2.recordAll cs ∨
    (∃ f, (h (.saveUser u) st).1 = .error f) ∧ users (h (.saveUser u) st).2 = (users st).recordAll cs
  spare : ∀ r st, (∀ u, r ≠ .saveUser u) → ∃ cs, users (h r st).2 = (users st).recordAll cs

section
variable {h : Dialogue.Handler σ} {users : σ → UserDirectory} (hu : KeepsUsers h users) {st st' : σ}
  {tr : List Exchange} {k : String × String} {id : ObjectId}
include hu

/-- A reply leaves the directory with at most one user saved and some evaluations recorded. -/
theorem users_reply (r : Request) (st : σ) : ∃ cs, users (h r st).2 = (users st).recordAll cs ∨
    ∃ u, users (h r st).2 = ((users st).save u).2.recordAll cs := by
  by_cases hr : ∀ u, r ≠ .saveUser u
  · obtain ⟨cs, hs⟩ := hu.spare r st hr
    exact ⟨cs, .inl hs⟩
  · simp only [ne_eq, not_forall, not_not] at hr
    obtain ⟨u, rfl⟩ := hr
    obtain ⟨cs, ⟨-, hs⟩ | ⟨-, hs⟩⟩ := hu.save u st
    · exact ⟨cs, .inr ⟨u, hs⟩⟩
    · exact ⟨cs, .inl hs⟩

theorem filed_reply (hd : (users st).Filed) (r : Request) : (users (h r st).2).Filed := by
  obtain ⟨cs, hs | ⟨u, hs⟩⟩ := users_reply hu r st
  · rw [hs]
    exact hd.recordAll cs
  · rw [hs]
    exact (hd.save u).recordAll cs

theorem assigns_reply (hd : (users st).Filed) (ha : (users st).Assigns k id) (r : Request) :
    (users (h r st).2).Assigns k id := by
  obtain ⟨cs, hs | ⟨u, hs⟩⟩ := users_reply hu r st
  · rw [hs]
    exact ha.recordAll hd cs
  · rw [hs]
    exact (ha.save u).recordAll (hd.save u) cs

theorem filed_of_conducts (hc : Dialogue.Conducts h st tr st') (hd : (users st).Filed) : (users st').Filed := by
  induction hc with
  | nil => exact hd
  | cons r _ ih => exact ih (filed_reply hu hd r)

theorem assigns_of_conducts (hc : Dialogue.Conducts h st tr st') (hd : (users st).Filed)
    (ha : (users st).Assigns k id) : (users st').Assigns k id := by
  induction hc with
  | nil => exact ha
  | cons r _ ih => exact ih (filed_reply hu hd r) (assigns_reply hu hd ha r)

/-- A user that was saved keeps the identifier that the directory replied with. -/
theorem assigns_of_saved (hc : Dialogue.Conducts h st tr st') (hd : (users st).Filed) {u row : LocalUser}
    (hx : ⟨.saveUser u, .ok row⟩ ∈ tr) : row.key = u.key ∧ (users st').Assigns u.key row.id := by
  induction hc with
  | nil => cases hx
  | @cons st st' tr r hc ih =>
    cases List.mem_cons.1 hx with
    | inr hx => exact ih (filed_reply hu hd r) hx
    | inl hx =>
      have hr : r = .saveUser u := (congrArg Exchange.request hx).symm
      subst hr
      have hReply : (h (.saveUser u) st).1 = .ok row := by
        injection hx with _ hReply
        exact hReply.symm
      obtain ⟨cs, ⟨hRow, hs⟩ | ⟨⟨f, hf⟩, -⟩⟩ := hu.save u st
      · rw [hReply] at hRow
        cases hRow
        refine ⟨UserDirectory.key_merged (users st) u, ?_⟩
        apply assigns_of_conducts hu hc (filed_reply hu hd _)
        rw [hs]
        exact (UserDirectory.assigns_save (users st) u).recordAll (hd.save u) cs
      · rw [hReply] at hf
        cases hf

end

/-! ## Taking turns -/

section
variable [DecidableEq ι] {h : Dialogue.Handler σ} {s : ι → Setup} {p : ι → LoginParameters} {st : σ}
  {c : Concourse ι (Except Fault LoginResult) σ} {i j : ι} {token : String}

/-- Attempts that took turns in an order, each with what it goes by and what was submitted to it. -/
def attempts (h : Dialogue.Handler σ) (s : ι → Setup) (p : ι → LoginParameters) (st : σ) (order : List ι) :
    Concourse ι (Except Fault LoginResult) σ :=
  Concourse.turns h { dialogues := fun i => login (s i) (p i), state := st } order

theorem reached_attempts (order : List ι) :
    Concourse.Reached h (fun i => login (s i) (p i)) st (attempts h s p st order) :=
  Concourse.reached_start.turns order

/-- Only the attempt that drew a token bears on its session. -/
theorem touching_exchanges (hc : Concourse.Reached h (fun i => login (s i) (p i)) st c)
    (hn : (drawn c.exchanges).Nodup) (hi : ⟨.newToken, .ok token⟩ ∈ c.transcript i) :
    touching token c.exchanges = touching token (c.transcript i) := by
  unfold touching Concourse.exchanges Concourse.transcript
  rw [List.filter_map, List.filter_map, List.filter_filter]
  congr 1
  apply List.filter_congr
  intro e he
  by_cases hOwn : e.1 = i
  · simp [hOwn]
  · have hOther : ⟨.newToken, .ok token⟩ ∉ c.transcript e.1 := by
      intro hj
      exact hOwn (eq_of_drawn hn (Concourse.mem_transcript.1 hj) (Concourse.mem_transcript.1 hi))
    have hSpares := sparesSession_of_after (hc.after e.1) hOther (Concourse.mem_transcript.2 he)
    simp [hSpares]

/-- A turn leaves the session of a token alone that its attempt has not drawn. -/
theorem find?_turn {store : σ → SessionStore} (hk : KeepsStore h store)
    (hc : Concourse.Reached h (fun i => login (s i) (p i)) st c)
    (hj : ⟨.newToken, .ok token⟩ ∉ (Concourse.turn h c j).transcript j) :
    (store (Concourse.turn h c j).state).find? token = (store c.state).find? token := by
  have hNext := (hc.turn j).after j
  obtain heq | ⟨r, next, -, heq⟩ := Concourse.turn_cases h c j
  · rw [heq]
  · rw [heq] at hj hNext ⊢
    apply find?_of_sparesSession hk
    apply sparesSession_of_after hNext hj (x := ⟨r, (h r c.state).1⟩)
    apply Concourse.mem_transcript.2
    simp

/-- An attempt has succeeded. -/
def Concourse.Succeeded (c : Concourse ι (Except Fault LoginResult) σ) (i : ι) (v : LoginResult) : Prop :=
  (c.dialogues i).answer? = some (.ok v) ∧ v.succeeded = true

theorem Concourse.Reached.granted (hc : Concourse.Reached h (fun i => login (s i) (p i)) st c) {v : LoginResult}
    (hi : c.Succeeded i v) : ∃ f token now, Granted (s i) (p i) (c.transcript i) v f token now := by
  have hAfter := hc.after i
  rw [Dialogue.answer?_eq_some.1 hi.1] at hAfter
  have hCourse : Course (s i) (p i) (c.transcript i) (.ok v) := course_of_yields hAfter.yields_done
  exact hCourse.exists_granted hi.2

/-- The session of an attempt that succeeded holds what this attempt found out, under the limit that counts from
the time that it read after drawing the token; the user is that of the principal which it came to. -/
structure HoldsOwn (s : Setup) (p : LoginParameters) (tr : List Exchange) (v : LoginResult) (store : SessionStore)
    (f : Findings) (token : String) (now : Instant) (x : Session) : Prop where
  consulted : Consulted s p tr f
  sessionId : v.sessionId = some token
  user : v.user = some f.user
  principal : ∃ externalId, (f.principal.id? <|> f.principal.name?) = some externalId ∧
    f.user.key = (f.profile.authorizer.name, externalId)
  drew : ∃ t u, tr = t ++ ⟨.newToken, .ok token⟩ :: ⟨.now, now⟩ :: u
  found : store.find? token = some x
  carries : Carries s.session (f.grant p) now x

/-- Attempts that took turns in an order do not mix. -/
structure KeptApart (h : Dialogue.Handler σ) (store : σ → SessionStore) (users : σ → UserDirectory)
    (s : ι → Setup) (p : ι → LoginParameters) (st : σ) (order : List ι) : Prop where
  sessions : ∀ i v, (attempts h s p st order).Succeeded i v → ∃ f token now x,
    HoldsOwn (s i) (p i) ((attempts h s p st order).transcript i) v (store (attempts h s p st order).state)
      f token now x
  /-- While others have their turns, the session of an attempt stays as it is. -/
  undisturbed : ∀ before j later, order = before ++ j :: later → ∀ i token, i ≠ j →
    ⟨.newToken, .ok token⟩ ∈ (attempts h s p st order).transcript i →
    (store (attempts h s p st (before ++ [j])).state).find? token
      = (store (attempts h s p st before).state).find? token
  /-- A session that was there before stays as it was. -/
  untouched : ∀ token, (∀ i, ⟨.newToken, .ok token⟩ ∉ (attempts h s p st order).transcript i) →
    (store (attempts h s p st order).state).find? token = (store st).find? token
  identifiers : ∀ i j v w u u', (attempts h s p st order).Succeeded i v → (attempts h s p st order).Succeeded j w →
    v.user = some u → w.user = some u' → u.key = u'.key → u.id = u'.id
  rows : ∀ i v u, (attempts h s p st order).Succeeded i v → v.user = some u → ∃ row,
    ((users (attempts h s p st order).state).rows.values.filter fun other => other.key = u.key) = [row] ∧
      row.id = u.id

theorem key_of_ofPrincipal {id : ObjectId} {authorizer : String} {r : PrincipalRecord} {u : LocalUser}
    (hu : LocalUser.ofPrincipal id authorizer r = .ok u) :
    ∃ externalId, (r.id? <|> r.name?) = some externalId ∧ u.key = (authorizer, externalId) := by
  unfold LocalUser.ofPrincipal at hu
  split at hu
  · cases hu
  · next externalId hId =>
    cases hu
    exact ⟨externalId, hId, rfl⟩

/-- The row that an attempt was replied with is that of its principal. -/
theorem Granted.row {users : σ → UserDirectory} (hu : KeepsUsers h users) {s : Setup} {p : LoginParameters}
    {tr all : List Exchange} {v : LoginResult} {f : Findings} {now : Instant} {st' : σ}
    (hg : Granted s p tr v f token now) (hd : (users st).Filed) (hc : Dialogue.Conducts h st all st')
    (hall : ∀ x ∈ tr, x ∈ all) :
    (∃ externalId, (f.principal.id? <|> f.principal.name?) = some externalId ∧
      f.user.key = (f.profile.authorizer.name, externalId)) ∧ (users st').Assigns f.user.key f.user.id := by
  obtain ⟨id, u, hOf, hx⟩ := hg.saved
  obtain ⟨externalId, hId, hKey⟩ := key_of_ofPrincipal hOf
  obtain ⟨hRow, hAssigns⟩ := assigns_of_saved hu hc hd (hall _ hx)
  have hUser : f.user.key = u.key := by
    rw [hg.administers]
    exact hRow
  have hSame : f.user.id = f.row.id := by
    rw [hg.administers]
  rw [hUser, hSame]
  exact ⟨⟨externalId, hId, hKey⟩, hAssigns⟩

section
variable {store : σ → SessionStore} {users : σ → UserDirectory} {v : LoginResult} (hu : KeepsUsers h users)
  (hc : Concourse.Reached h (fun i => login (s i) (p i)) st c) (hd : (users st).Filed)
  (hn : (drawn c.exchanges).Nodup)

include hu hc hd in
/-- The directory goes on having the identifier that a user logged in with, under the key of the user. -/
theorem Concourse.Reached.assigns {u : LocalUser} (hi : c.Succeeded i v) (hUser : v.user = some u) :
    (users c.state).Assigns u.key u.id := by
  obtain ⟨f, token, now, hg⟩ := hc.granted hi
  have hSame : u = f.user := Option.some.inj (hUser.symm.trans hg.user)
  rw [hSame]
  exact (hg.row hu hd hc.conducts fun _ hx => Concourse.mem_exchanges_of_mem_transcript hx).2

include hu hc hd hn in
/-- An attempt that succeeded has a session to itself, where its token was fresh. -/
theorem Concourse.Reached.holdsOwn (hk : KeepsStore h store)
    (hf : ∀ token ∈ drawn c.exchanges, (store st).find? token = none) (hi : c.Succeeded i v) :
    ∃ f token now x, HoldsOwn (s i) (p i) (c.transcript i) v (store c.state) f token now x := by
  obtain ⟨f, token, now, hg⟩ := hc.granted hi
  have hAll : ∀ x ∈ c.transcript i, x ∈ c.exchanges := fun _ hx => Concourse.mem_exchanges_of_mem_transcript hx
  have hToken : ⟨.newToken, .ok token⟩ ∈ c.transcript i := by
    obtain ⟨t, u, htr⟩ := hg.drew
    rw [htr]
    simp
  have hFresh := hf token (mem_drawn.2 (hAll _ hToken))
  -- All that was ever asked about the session was asked by this attempt.
  have hWrote := hg.wrote
  rw [← touching_exchanges hc hn hToken] at hWrote
  obtain ⟨hNone, -⟩ | ⟨opened, x, hEdited, hFound⟩ := edited_among hk hWrote hc.conducts
  · cases hNone
  · rw [hFresh] at hEdited
    exact ⟨f, token, now, x, hg.consulted, hg.sessionId, hg.user, (hg.row hu hd hc.conducts hAll).1, hg.drew,
      hFound, carries_of_edited hEdited⟩

end

/-- A turn leaves the session of a token alone that another attempt draws, be it before or after the turn. -/
theorem find?_attempts_concat {store : σ → SessionStore} (hk : KeepsStore h store) {before later : List ι}
    (hn : (drawn (attempts h s p st (before ++ j :: later)).exchanges).Nodup) (hij : i ≠ j)
    (hi : ⟨.newToken, .ok token⟩ ∈ (attempts h s p st (before ++ j :: later)).transcript i) :
    (store (attempts h s p st (before ++ [j])).state).find? token
      = (store (attempts h s p st before).state).find? token := by
  have hTurn : attempts h s p st (before ++ [j]) = Concourse.turn h (attempts h s p st before) j :=
    Concourse.turns_append h _ before [j]
  have hRest : attempts h s p st (before ++ j :: later)
      = Concourse.turns h (attempts h s p st (before ++ [j])) later := by
    rw [List.append_cons]
    exact Concourse.turns_append h _ (before ++ [j]) later
  have hPrefix : (attempts h s p st (before ++ [j])).trace <+: (attempts h s p st (before ++ j :: later)).trace := by
    rw [hRest]
    exact Concourse.trace_turns h _ later
  rw [hTurn] at hPrefix ⊢
  apply find?_turn hk (reached_attempts before)
  -- What the attempt whose turn it was has drawn by then, it has drawn in the end.
  intro hj
  have hLater := hPrefix.subset (Concourse.mem_transcript.1 hj)
  exact hij (eq_of_drawn hn (Concourse.mem_transcript.1 hi) hLater)

/-- Where the store keeps sessions, the directory keeps users, no token is drawn twice and none that has a
session already, attempts do not mix, in whatever order they take turns. -/
theorem attempts_kept_apart {store : σ → SessionStore} {users : σ → UserDirectory} (hk : KeepsStore h store)
    (hu : KeepsUsers h users) (s : ι → Setup) (p : ι → LoginParameters) (st : σ) (order : List ι)
    (hd : (users st).Filed) (hn : (drawn (attempts h s p st order).exchanges).Nodup)
    (hf : ∀ token ∈ drawn (attempts h s p st order).exchanges, (store st).find? token = none) :
    KeptApart h store users s p st order := by
  have hc : Concourse.Reached h _ st (attempts h s p st order) := reached_attempts order
  constructor
  · intro i v hi
    exact hc.holdsOwn hu hd hn hk hf hi
  · rintro before j later rfl i token hij hi
    exact find?_attempts_concat hk hn hij hi
  · intro token ht
    apply find?_of_conducts hk hc.conducts
    intro x hx
    obtain ⟨i, hi⟩ := Concourse.mem_exchanges.1 hx
    exact sparesSession_of_after (hc.after i) (ht i) (Concourse.mem_transcript.2 hi)
  · intro i j v w u u' hi hj hv hw hKey
    have hFirst := hc.assigns hu hd hi hv
    rw [hKey] at hFirst
    exact hFirst.unique (hc.assigns hu hd hj hw)
  · intro i v u hi hv
    exact (hc.assigns hu hd hi hv).filter_key (filed_of_conducts hu hc.conducts hd)

end

/-! ## The program itself -/

/-- The program keeps its users in its directory, whatever the remote extensions do. -/
theorem keepsUsers_reply {ρ : Type} (invoke : Remote → Record → StateM ρ (Except Fault Record)) :
    KeepsUsers (Services.reply invoke) Services.users where
  save u st := ⟨[], .inl ⟨rfl, rfl⟩⟩
  spare r st hr := by
    refine ⟨[], ?_⟩
    cases r with
    | saveUser u => exact absurd rfl (hr u)
    | authenticate a q | fetchPrincipal a q => cases a <;> rfl
    | mapUser m q | mapAuthRecord m q => cases m <;> rfl
    | submit c =>
      obtain ⟨_, h⟩ := Services.submit_eq c st
      show (Services.submit c st).2.users = _
      rw [h]
      rfl
    | _ => rfl

/-- Ada logs in twice at once, and the two attempts take turns: both succeed. -/
theorem attempts_kept_apart_twice :
    let d : Directory := {
      name := "staff", authnName := "staff-authn", authzName := "staff-authz"
      users := .ofList [("ada", { name := "ada", passwordHash := "" })] }
    let s : Setup := { profiles := ⟨.ofList [("main", {
      name := "main", authenticator := .directory d, authorizer := .directory d })]⟩ }
    let p := LoginParameters.ofAuthRecord "main" (.new "ada") .negotiation
    let st : Services Unit := {
      permissions := { allowEveryone := true }, clock := fun _ => default
      tokens := fun n => .ok (if n = 0 then "first" else "second"), outside := () }
    let h := Services.reply fun _ _ => pure (.ok ∅)
    let order := (List.replicate 24 [true, false]).flatten
    let c := attempts h (fun _ => s) (fun _ => p) st order
    ((c.dialogues true).answer?).bind opened? = some "first" ∧
      ((c.dialogues false).answer?).bind opened? = some "second" ∧
      KeptApart h Services.sessions Services.users (fun _ => s) (fun _ => p) st order := by
  intro d s p st h order c
  have hDrawn : drawn c.exchanges = ["first", "second"] := by decide +kernel
  refine ⟨by decide +kernel, by decide +kernel, ?_⟩
  apply attempts_kept_apart (keepsStore_reply _) (keepsUsers_reply _)
  · exact UserDirectory.filed_empty
  · rw [hDrawn]
    decide
  · intro token _
    rfl

end Gatehouse.Login
