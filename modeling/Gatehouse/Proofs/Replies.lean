import Gatehouse.Core
import Gatehouse.Proofs.CallOrder
/-!
# What the program replies

The collaborators that the program has itself reply by what they are, whatever happened before: a directory
by its users, a mapper by its suffix, the permissions by their tables. Main statements: every exchange of an
attempt with the program is lawful in this sense, and the permissions of a core never change.
-/

namespace Gatehouse.Login

variable {ρ : Type} {invoke : Remote → Record → StateM ρ (Except Fault Record)}

/-- An exchange that the program's own collaborators can have, under given permissions. Of the directory of
local users it is only said what a saved row keeps. -/
def Exchange.IsLawful (t : PermissionTable) : Exchange → Prop
  | ⟨.sessions _, r⟩ => ∃ a, r = .ok a
  | ⟨.authenticate (.directory d) q, r⟩ => ∃ now, r = d.authenticate now q
  | ⟨.mapUser (.suffix m) q, r⟩ => r = .ok (m.mapUser q)
  | ⟨.mapAuthRecord (.suffix m) q, r⟩ => r = .ok (m.mapAuthRecord q)
  | ⟨.fetchPrincipal (.directory d) q, r⟩ => r = .ok (d.fetchPrincipal q)
  | ⟨.saveUser u, r⟩ => ∃ users : UserDirectory, r = .ok (users.merged u)
  | ⟨.checkPermission q, r⟩ => r = .ok (t.grantsLogin q)
  | ⟨.checkAdmin u, r⟩ => r = .ok (t.isAdmin u)
  | _ => True

theorem isLawful_reply (r : Request) (st : Services ρ) :
    (⟨r, (Services.reply invoke r st).1⟩ : Exchange).IsLawful st.permissions := by
  cases r with
  | sessions op => exact ⟨_, rfl⟩
  | authenticate a q =>
    cases a with
    | directory d => exact ⟨_, rfl⟩
    | remote r => trivial
  | mapUser m q | mapAuthRecord m q => cases m <;> first | rfl | trivial
  | fetchPrincipal a q => cases a <;> first | rfl | trivial
  | saveUser u => exact ⟨st.users, rfl⟩
  | checkPermission q | checkAdmin u => rfl
  | newId | report | audit | newToken | now | submit => trivial

/-- No request changes the permissions, or what the clock shows reading by reading. -/
theorem fixed_reply (r : Request) (st : Services ρ) :
    (Services.reply invoke r st).2.permissions = st.permissions ∧ (Services.reply invoke r st).2.clock = st.clock := by
  cases r with
  | authenticate a q | fetchPrincipal a q => cases a <;> exact ⟨rfl, rfl⟩
  | mapUser m q | mapAuthRecord m q => cases m <;> exact ⟨rfl, rfl⟩
  | submit c =>
    obtain ⟨_, h⟩ := Services.submit_eq c st
    show (Services.submit c st).2.permissions = _ ∧ (Services.submit c st).2.clock = _
    rw [h]
    exact ⟨rfl, rfl⟩
  | _ => exact ⟨rfl, rfl⟩

/-- Only a request for a token draws one. -/
theorem tokens_reply {r : Request} (hr : r ≠ .newToken) (st : Services ρ) :
    (Services.reply invoke r st).2.tokens = st.tokens ∧
      (Services.reply invoke r st).2.tokensDrawn = st.tokensDrawn := by
  cases r with
  | newToken => exact absurd rfl hr
  | authenticate a q | fetchPrincipal a q => cases a <;> exact ⟨rfl, rfl⟩
  | mapUser m q | mapAuthRecord m q => cases m <;> exact ⟨rfl, rfl⟩
  | submit c =>
    obtain ⟨_, h⟩ := Services.submit_eq c st
    show (Services.submit c st).2.tokens = _ ∧ (Services.submit c st).2.tokensDrawn = _
    rw [h]
    exact ⟨rfl, rfl⟩
  | _ => exact ⟨rfl, rfl⟩

section
variable {st st' : Services ρ} {tr : List Exchange}

theorem isLawful_of_conducts (h : Dialogue.Conducts (Services.reply invoke) st tr st') {x : Exchange}
    (hx : x ∈ tr) : x.IsLawful st.permissions := by
  obtain ⟨m, hm, hr⟩ := h.mem (I := fun m => m.permissions = st.permissions)
    (fun r m hm => (fixed_reply r m).1.trans hm) rfl hx
  obtain ⟨r, reply⟩ := x
  cases (show reply = (Services.reply invoke r m).1 from hr)
  exact hm ▸ isLawful_reply r m

theorem fixed_of_conducts (h : Dialogue.Conducts (Services.reply invoke) st tr st') :
    st'.permissions = st.permissions ∧ st'.clock = st.clock := by
  induction h with
  | nil => exact ⟨rfl, rfl⟩
  | cons r _ ih =>
    obtain ⟨hp, hc⟩ := fixed_reply r _
    exact ⟨ih.1.trans hp, ih.2.trans hc⟩

theorem tokens_of_conducts (h : Dialogue.Conducts (Services.reply invoke) st tr st')
    (ht : ∀ x ∈ tr, x.request ≠ .newToken) : st'.tokens = st.tokens ∧ st'.tokensDrawn = st.tokensDrawn := by
  induction h with
  | nil => exact ⟨rfl, rfl⟩
  | cons r _ ih =>
    obtain ⟨h1, h2⟩ := tokens_reply (ht _ List.mem_cons_self) _
    obtain ⟨h3, h4⟩ := ih fun x hx => ht x (List.mem_cons_of_mem _ hx)
    exact ⟨h3.trans h1, h4.trans h2⟩

/-- The first token that is asked for is the next one of the supply. -/
theorem drawn_of_conducts {t u : List Exchange} {token : Except Fault String}
    (h : Dialogue.Conducts (Services.reply invoke) st (t ++ ⟨.newToken, token⟩ :: u) st')
    (ht : ∀ x ∈ t, x.request ≠ .newToken) : token = st.tokens st.tokensDrawn := by
  obtain ⟨m, h, hu⟩ := Dialogue.conducts_append.1 h
  obtain ⟨h1, h2⟩ := tokens_of_conducts h ht
  obtain ⟨hr, -⟩ := Dialogue.conducts_cons.1 hu
  rw [← h1, ← h2]
  exact hr

end

end Gatehouse.Login

namespace Gatehouse.Core

open Login

variable {ρ : Type}

/-- The states that the collaborators of a core can come to: from the start, with whatever clock and
supplies, by logins, by what is done with sessions and users, by what the background runner and what is
outside do. -/
inductive Reachable (invoke : Remote → Record → StateM ρ (Except Fault Record)) (c : Core) : Services ρ → Prop
  | start (clock : Nat → Instant) (outside : ρ) (ids : Nat → ObjectId) (tokens : Nat → Except Fault String) :
      Reachable invoke c { c.services clock outside with ids, tokens }
  | login {st} (h : Reachable invoke c st) (p : LoginParameters) :
      Reachable invoke c ((Login.login c.setup p).run (Services.reply invoke) st).2
  | sessions {st} (h : Reachable invoke c st) (op : SessionStore.Op) :
      Reachable invoke c (Services.performSessions op st).2
  | users {st} (h : Reachable invoke c st) (op : UserDirectory.Op) :
      Reachable invoke c (Services.performUsers op st).2
  | background {st} (h : Reachable invoke c st) :
      Reachable invoke c (Services.runBackground Services.recordAdminCheck st).2
  | work {st} (h : Reachable invoke c st) (runner : Option (Background.Runner Background.AdminCheck)) :
      Reachable invoke c { st with background := runner }
  | outside {st} (h : Reachable invoke c st) (outside : ρ) : Reachable invoke c { st with outside }

theorem permissions_forM {α : Type} {f : α → StateM (Services ρ) Unit}
    (hf : ∀ a st, (f a st).2.permissions = st.permissions) (l : List α) (st : Services ρ) :
    (l.forM f st).2.permissions = st.permissions := by
  induction l generalizing st with
  | nil => rfl
  | cons a l ih => exact (ih (f a st).2).trans (hf a st)

theorem permissions_runBackground (st : Services ρ) :
    (Services.runBackground Services.recordAdminCheck st).2.permissions = st.permissions := by
  rcases st with ⟨_, _, _, _, _, _ | runner, _⟩
  · rfl
  · refine permissions_forM ?_ _ _
    intro e st
    cases e <;> rfl

/-- The permissions are those of the settings, ever after. -/
theorem Reachable.permissions_eq {invoke : Remote → Record → StateM ρ (Except Fault Record)} {c : Core}
    {st : Services ρ} (h : Reachable invoke c st) : st.permissions = .ofSettings c.settings.permissions := by
  induction h with
  | start => rfl
  | login _ p ih => exact (fixed_of_conducts (Dialogue.conducts_transcript _ _ _)).1.trans ih
  | sessions _ op ih => exact ih
  | users _ op ih => exact ih
  | background _ ih => exact (permissions_runBackground _).trans ih
  | work _ runner ih => exact ih
  | outside _ outside ih => exact ih

end Gatehouse.Core
