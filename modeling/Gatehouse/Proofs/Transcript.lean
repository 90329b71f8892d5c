import Gatehouse.Login.Attempt
/-!
# Transcripts

A transcript of a dialogue lists what was asked and what was replied. `Yields` says which transcripts a
dialogue can have when nothing is known about the collaborators, and what it ends with; `transcript` is
the one that a handler makes of it. Main statements: the transcripts of composed dialogues, and that
what a handler makes of a dialogue is one of its transcripts.
-/

namespace Gatehouse.Login

variable {α β σ : Type}

/-- A request and its reply. -/
structure Exchange where
  request : Request
  reply : request.Reply

/-- The fault of a result. -/
def faultOf : Except Fault α → Option Fault
  | .error e => some e
  | .ok _ => none

/-- The fault that a collaborator replied with. Reports, audit entries, the clock, fresh identifiers and
the background runner do not fail. -/
def Exchange.fault? : Exchange → Option Fault
  | ⟨.sessions _, r⟩ => faultOf r
  | ⟨.authenticate .., r⟩ => faultOf r
  | ⟨.mapUser .., r⟩ => faultOf r
  | ⟨.mapAuthRecord .., r⟩ => faultOf r
  | ⟨.fetchPrincipal .., r⟩ => faultOf r
  | ⟨.saveUser _, r⟩ => faultOf r
  | ⟨.checkPermission _, r⟩ => faultOf r
  | ⟨.checkAdmin _, r⟩ => faultOf r
  | ⟨.newToken, r⟩ => faultOf r
  | _ => none

namespace Dialogue

/-- The dialogue can have a transcript, and then ends with a value. -/
inductive Yields : Dialogue α → List Exchange → α → Prop
  | done (a : α) : Yields (.done a) [] a
  | ask {r : Request} {next : r.Reply → Dialogue α} {tr : List Exchange} {a : α} (reply : r.Reply)
      (h : Yields (next reply) tr a) : Yields (.ask r next) (⟨r, reply⟩ :: tr) a

theorem yields_pure {a b : α} {tr : List Exchange} :
    (pure a : Dialogue α).Yields tr b ↔ tr = [] ∧ b = a := by
  constructor
  · intro h
    cases h
    exact ⟨rfl, rfl⟩
  · rintro ⟨rfl, rfl⟩
    exact .done _

theorem yields_request {r : Request} {tr : List Exchange} {a : r.Reply} :
    (request r).Yields tr a ↔ tr = [⟨r, a⟩] := by
  constructor
  · rintro (_ | ⟨reply, h⟩)
    cases h
    rfl
  · rintro rfl
    exact .ask a (.done a)

theorem Yields.bind {x : Dialogue α} {f : α → Dialogue β} {t u : List Exchange} {a : α} {b : β}
    (hx : x.Yields t a) (hf : (f a).Yields u b) : (x >>= f).Yields (t ++ u) b := by
  induction hx with
  | done a => exact hf
  | ask reply _ ih => exact .ask reply (ih hf)

/-- A dialogue of two parts has a transcript of the one and then one of the other. -/
theorem yields_bind {x : Dialogue α} {f : α → Dialogue β} {tr : List Exchange} {b : β} :
    (x >>= f).Yields tr b ↔ ∃ a t u, tr = t ++ u ∧ x.Yields t a ∧ (f a).Yields u b := by
  constructor
  · intro h
    induction x generalizing tr with
    | done a => exact ⟨a, [], tr, rfl, .done a, h⟩
    | ask r next ih =>
      rcases h with _ | ⟨reply, h⟩
      obtain ⟨a, t, u, rfl, hx, hf⟩ := ih reply h
      exact ⟨a, _, u, rfl, .ask reply hx, hf⟩
  · rintro ⟨a, t, u, rfl, hx, hf⟩
    exact hx.bind hf

theorem yields_map {f : α → β} {x : Dialogue α} {tr : List Exchange} {b : β} :
    (f <$> x).Yields tr b ↔ ∃ a, x.Yields tr a ∧ b = f a := by
  rw [map_eq_pure_bind, yields_bind]
  constructor
  · rintro ⟨a, t, u, rfl, hx, hu⟩
    obtain ⟨rfl, rfl⟩ := yields_pure.1 hu
    exact ⟨a, by rwa [List.append_nil], rfl⟩
  · rintro ⟨a, hx, rfl⟩
    exact ⟨a, tr, [], by simp, hx, yields_pure.2 ⟨rfl, rfl⟩⟩

/-! ## Handlers -/

/-- The transcript that a handler makes of a dialogue, from a state of its own. -/
def transcript (h : Handler σ) : Dialogue α → σ → List Exchange
  | done _, _ => []
  | ask r next, s => ⟨r, (h r s).1⟩ :: transcript h (next (h r s).1) (h r s).2

section
variable (h : Handler σ) (r : Request) (next : r.Reply → Dialogue α) (s : σ)

theorem run_ask : (ask r next).run h s = (next (h r s).1).run h (h r s).2 := rfl

theorem transcript_ask :
    (ask r next).transcript h s = ⟨r, (h r s).1⟩ :: (next (h r s).1).transcript h (h r s).2 := rfl

end

/-- A handler that is asked what a transcript says from one state on replies what it says, and ends in
another state. -/
inductive Conducts (h : Handler σ) : σ → List Exchange → σ → Prop
  | nil (s : σ) : Conducts h s [] s
  | cons {s s' : σ} {tr : List Exchange} (r : Request) (next : Conducts h (h r s).2 tr s') :
      Conducts h s (⟨r, (h r s).1⟩ :: tr) s'

/-- What a handler makes of a dialogue is one of the dialogue's transcripts. -/
theorem yields_transcript (h : Handler σ) (x : Dialogue α) (s : σ) :
    x.Yields (x.transcript h s) (x.run h s).1 := by
  induction x generalizing s with
  | done a => exact .done a
  | ask r next ih => exact .ask _ (ih (h r s).1 (h r s).2)

theorem conducts_transcript (h : Handler σ) (x : Dialogue α) (s : σ) :
    Conducts h s (x.transcript h s) (x.run h s).2 := by
  induction x generalizing s with
  | done a => exact .nil s
  | ask r next ih => exact .cons r (ih (h r s).1 (h r s).2)

theorem conducts_nil {h : Handler σ} {s s' : σ} : Conducts h s [] s' ↔ s' = s := by
  constructor
  · rintro ⟨⟩
    rfl
  · rintro rfl
    exact .nil s'

theorem conducts_cons {h : Handler σ} {s s' : σ} {x : Exchange} {tr : List Exchange} :
    Conducts h s (x :: tr) s' ↔ x.reply = (h x.request s).1 ∧ Conducts h (h x.request s).2 tr s' := by
  constructor
  · rintro (_ | ⟨r, next⟩)
    exact ⟨rfl, next⟩
  · obtain ⟨r, reply⟩ := x
    rintro ⟨hr, next⟩
    cases (show reply = (h r s).1 from hr)
    exact .cons r next

theorem conducts_append {h : Handler σ} {s s' : σ} {t u : List Exchange} :
    Conducts h s (t ++ u) s' ↔ ∃ m, Conducts h s t m ∧ Conducts h m u s' := by
  constructor
  · intro hc
    induction t generalizing s with
    | nil => exact ⟨s, .nil s, hc⟩
    | cons x t ih =>
      rcases hc with _ | ⟨r, hc⟩
      obtain ⟨m, h1, h2⟩ := ih hc
      exact ⟨m, .cons r h1, h2⟩
  · rintro ⟨m, h1, h2⟩
    induction h1 with
    | nil s => exact h2
    | cons r _ ih => exact .cons r (ih h2)

/-- Every reply in a handled transcript is the handler's, given in a state that keeps what every step
keeps. -/
theorem Conducts.mem {h : Handler σ} {I : σ → Prop} (hI : ∀ r s, I s → I (h r s).2) {s s' : σ}
    {tr : List Exchange} (hc : Conducts h s tr s') (hs : I s) {x : Exchange} (hx : x ∈ tr) :
    ∃ m, I m ∧ x.reply = (h x.request m).1 := by
  induction hc with
  | nil => cases hx
  | cons r _ ih =>
    rcases List.mem_cons.1 hx with rfl | hx
    · exact ⟨_, hs, rfl⟩
    · exact ih (hI r _ hs) hx

end Dialogue

/-! ## Talks and attempts -/

section Talk
variable {x : Talk α} {f : α → Talk β} {tr : List Exchange}

theorem talk_pure {a : α} {r : Except Fault α} :
    (pure a : Talk α).run.Yields tr r ↔ tr = [] ∧ r = .ok a := Dialogue.yields_pure

theorem talk_lift {y : Dialogue α} {r : Except Fault α} :
    (ExceptT.lift y : Talk α).run.Yields tr r ↔ ∃ a, y.Yields tr a ∧ r = .ok a := Dialogue.yields_map

/-- A talk of two parts ends with a fault of the first, or goes on with the second. -/
theorem talk_bind {r : Except Fault β} :
    (x >>= f).run.Yields tr r ↔
      (∃ e, x.run.Yields tr (.error e) ∧ r = .error e) ∨
      ∃ a t u, tr = t ++ u ∧ x.run.Yields t (.ok a) ∧ (f a).run.Yields u r := by
  rw [ExceptT.run_bind, Dialogue.yields_bind]
  constructor
  · rintro ⟨a | a, t, u, rfl, hx, hf⟩
    · obtain ⟨rfl, rfl⟩ := Dialogue.yields_pure.1 hf
      exact .inl ⟨a, by rwa [List.append_nil], rfl⟩
    · exact .inr ⟨a, t, u, rfl, hx, hf⟩
  · rintro (⟨e, hx, rfl⟩ | ⟨a, t, u, rfl, hx, hf⟩)
    · exact ⟨.error e, tr, [], by simp, hx, Dialogue.yields_pure.2 ⟨rfl, rfl⟩⟩
    · exact ⟨.ok a, t, u, rfl, hx, hf⟩

end Talk

/-- From some progress, the attempt can have a transcript, end in a way and have made progress. -/
def Goes (x : Attempt α) (a : Progress) (tr : List Exchange) (r : Except Exit α) (b : Progress) : Prop :=
  (x.run.run a).Yields tr (r, b)

section Attempt
variable {a c : Progress} {tr : List Exchange}

theorem goes_pure {v : α} {r : Except Exit α} :
    Goes (pure v) a tr r c ↔ tr = [] ∧ r = .ok v ∧ c = a := by
  simp only [Goes, ExceptT.run_pure, StateT.run_pure, Dialogue.yields_pure, Prod.mk.injEq]

/-- An attempt of two parts ends in the first, or goes on with the second. -/
theorem goes_bind {x : Attempt α} {f : α → Attempt β} {r : Except Exit β} :
    Goes (x >>= f) a tr r c ↔
      (∃ e, Goes x a tr (.error e) c ∧ r = .error e) ∨
      ∃ v b t u, tr = t ++ u ∧ Goes x a t (.ok v) b ∧ Goes (f v) b u r c := by
  unfold Goes
  rw [ExceptT.run_bind, StateT.run_bind, Dialogue.yields_bind]
  constructor
  · rintro ⟨⟨v | v, b⟩, t, u, rfl, hx, hf⟩
    · obtain ⟨rfl, h⟩ := Dialogue.yields_pure.1 hf
      cases h
      exact .inl ⟨v, by rwa [List.append_nil], rfl⟩
    · exact .inr ⟨v, b, t, u, rfl, hx, hf⟩
  · rintro (⟨e, hx, rfl⟩ | ⟨v, b, t, u, rfl, hx, hf⟩)
    · exact ⟨(.error e, c), tr, [], by simp, hx, Dialogue.yields_pure.2 ⟨rfl, rfl⟩⟩
    · exact ⟨(.ok v, b), t, u, rfl, hx, hf⟩

theorem goes_ask {q : Request} {f : q.Reply → Attempt β} {r : Except Exit β} :
    Goes (ask q >>= f) a tr r c ↔ ∃ v u, tr = ⟨q, v⟩ :: u ∧ Goes (f v) a u r c := by
  show Dialogue.Yields (.ask q fun v => ((f v).run.run a)) tr (r, c) ↔ _
  constructor
  · rintro (_ | ⟨v, h⟩)
    exact ⟨v, _, rfl, h⟩
  · rintro ⟨v, u, rfl, h⟩
    exact .ask v h

theorem goes_refuse {f : LoginFailure} {ms : List UserMessage} {r : Except Exit α} :
    Goes (refuse f ms) a tr r c ↔
      tr = [] ∧ r = .error (.failed f) ∧ c = { a with messages := a.messages ++ ms } := by
  show Dialogue.Yields (.done _) tr (r, c) ↔ _
  constructor
  · rintro ⟨⟩
    exact ⟨rfl, rfl, rfl⟩
  · rintro ⟨rfl, rfl, rfl⟩
    exact .done _

theorem goes_reaching {stage : LoginStage} {x : Talk α} {r : Except Exit α} :
    Goes (reaching stage x) a tr r c ↔
      ∃ r', x.run.Yields tr r' ∧ r = r'.mapError (exitAt stage) ∧ c = a := by
  unfold Goes reaching
  simp only [ExceptT.run_mk, StateT.run_lift, bind_pure_comp, Functor.map_map, Dialogue.yields_map, Prod.mk.injEq]

/-- A step ends the attempt if a collaborator fails, and otherwise the attempt goes on. -/
theorem goes_step {stage : LoginStage} {x : Talk α} {f : α → Attempt β} {r : Except Exit β} :
    Goes (reaching stage x >>= f) a tr r c ↔
      (∃ e, x.run.Yields tr (.error e) ∧ r = .error (exitAt stage e) ∧ c = a) ∨
      ∃ v t u, tr = t ++ u ∧ x.run.Yields t (.ok v) ∧ Goes (f v) a u r c := by
  rw [goes_bind]
  constructor
  · rintro (⟨e, hg, rfl⟩ | ⟨v, b, t, u, rfl, hg, hf⟩)
    · obtain ⟨e | v, hx, he, rfl⟩ := goes_reaching.1 hg
      · cases he
        exact .inl ⟨e, hx, rfl, rfl⟩
      · cases he
    · obtain ⟨e | v, hx, he, rfl⟩ := goes_reaching.1 hg
      · cases he
      · cases he
        exact .inr ⟨v, t, u, rfl, hx, hf⟩
  · rintro (⟨e, hx, rfl, rfl⟩ | ⟨v, t, u, rfl, hx, hf⟩)
    · exact .inl ⟨_, goes_reaching.2 ⟨_, hx, rfl, rfl⟩, rfl⟩
    · exact .inr ⟨v, a, t, u, rfl, goes_reaching.2 ⟨_, hx, rfl, rfl⟩, hf⟩

end Attempt

end Gatehouse.Login
