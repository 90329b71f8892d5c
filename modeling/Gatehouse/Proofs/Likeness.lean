import Gatehouse.Proofs.Redaction
/-!
# Dialogues that are alike

Two dialogues are alike when they ask for the same but for passwords, as long as they are replied to alike. A
handler that keeps alike states alike makes alike transcripts of them. Likeness is proved along the way a dialogue
is put together; a part that is not told any password is like itself.
-/

namespace Gatehouse.Login

variable {α β γ δ σ : Type}

namespace Dialogue

/-- Two dialogues ask alike whenever they are replied to alike, and end in a relation. -/
inductive Alike (P : α → β → Prop) : Dialogue α → Dialogue β → Prop
  | done {a : α} {b : β} (h : P a b) : Alike P (.done a) (.done b)
  | ask {r r' : Request} {next : r.Reply → Dialogue α} {next' : r'.Reply → Dialogue β} (hr : r.redacted = r'.redacted)
      (h : ∀ v v', Exchange.redacted ⟨r, v⟩ = Exchange.redacted ⟨r', v'⟩ → Alike P (next v) (next' v')) :
      Alike P (.ask r next) (.ask r' next')

theorem alike_pure {P : α → β → Prop} {a : α} {b : β} (h : P a b) : Alike P (pure a) (pure b) := .done h

theorem Alike.mono {P Q : α → β → Prop} {x : Dialogue α} {y : Dialogue β} (h : Alike P x y)
    (hPQ : ∀ a b, P a b → Q a b) : Alike Q x y := by
  induction h with
  | done h => exact .done (hPQ _ _ h)
  | ask hr _ ih => exact .ask hr ih

/-- What is put together from alike parts is alike. -/
theorem Alike.bind {P : α → β → Prop} {Q : γ → δ → Prop} {x : Dialogue α} {y : Dialogue β} {f : α → Dialogue γ}
    {g : β → Dialogue δ} (h : Alike P x y) (hf : ∀ a b, P a b → Alike Q (f a) (g b)) :
    Alike Q (x >>= f) (y >>= g) := by
  induction h with
  | done h => exact hf _ _ h
  | ask hr _ ih => exact .ask hr ih

/-- Requests that are the same but for a password are alike, and so are the replies. -/
theorem alike_request {r r' : Request} (hr : r.redacted = r'.redacted) :
    Alike (fun v v' => Exchange.redacted ⟨r, v⟩ = Exchange.redacted ⟨r', v'⟩) (request r) (request r') :=
  .ask hr fun _ _ h => .done h

/-- A request that is not replied to with a password has one reply. -/
theorem alike_discreet {r : Request} (hr : r.isDiscreet = true) : Alike Eq (request r) (request r) :=
  (alike_request rfl).mono fun _ _ h => reply_eq_of_redacted_eq hr h

/-! ## Dialogues that are not told passwords -/

theorem nonempty_reply (r : Request) : Nonempty r.Reply := by
  cases r with
  | newId => exact ⟨(default : ObjectId)⟩
  | report | audit => exact ⟨()⟩
  | now => exact ⟨(default : Instant)⟩
  | submit => exact ⟨false⟩
  | _ => exact ⟨Except.error default⟩

theorem exists_yields (x : Dialogue α) : ∃ tr a, x.Yields tr a := by
  induction x with
  | done a => exact ⟨[], a, .done a⟩
  | ask r next ih =>
    obtain ⟨v⟩ := nonempty_reply r
    obtain ⟨tr, a, h⟩ := ih v
    exact ⟨_, a, .ask v h⟩

/-- A dialogue that is never told a password is like itself, and ends the same. -/
theorem alike_of_yields {x : Dialogue α} (h : ∀ tr a, x.Yields tr a → ∀ e ∈ tr, e.request.isDiscreet = true) :
    Alike Eq x x := by
  induction x with
  | done a => exact .done rfl
  | ask r next ih =>
    have hr : r.isDiscreet = true := by
      obtain ⟨v⟩ := nonempty_reply r
      obtain ⟨tr, a, hy⟩ := exists_yields (next v)
      exact h _ a (.ask v hy) ⟨r, v⟩ List.mem_cons_self
    refine .ask rfl fun v v' hv => ?_
    cases reply_eq_of_redacted_eq hr hv
    exact ih v fun tr a hy e he => h _ a (.ask v hy) e (List.mem_cons_of_mem _ he)

end Dialogue

/-! ## Talks and attempts -/

/-- Two results are the same fault, or values in a relation. -/
inductive Outcomes {ε : Type} (P : α → β → Prop) : Except ε α → Except ε β → Prop
  | ok {a : α} {b : β} (h : P a b) : Outcomes P (.ok a) (.ok b)
  | error (e : ε) : Outcomes P (.error e) (.error e)

theorem outcomes_of_eq {ε : Type} {r r' : Except ε α} (h : r = r') : Outcomes Eq r r' := by
  subst h
  cases r with
  | ok a => exact .ok rfl
  | error e => exact .error e

theorem eq_of_outcomes {ε : Type} {r r' : Except ε α} (h : Outcomes Eq r r') : r = r' := by
  cases h with
  | ok h => rw [h]
  | error => rfl

/-- Talks that are alike, and succeed with values in a relation. -/
def TalksAlike (P : α → β → Prop) (x : Talk α) (y : Talk β) : Prop := Dialogue.Alike (Outcomes P) x.run y.run

/-- Attempts that are alike from the same progress on, make the same progress, and succeed with values in a
relation. -/
def AttemptsAlike (P : α → β → Prop) (x : Attempt α) (y : Attempt β) : Prop :=
  ∀ a, Dialogue.Alike (fun r r' => Outcomes P r.1 r'.1 ∧ r.2 = r'.2) (x.run.run a) (y.run.run a)

section
variable {P : α → β → Prop} {Q : γ → δ → Prop}

theorem talksAlike_pure {a : α} {b : β} (h : P a b) : TalksAlike P (pure a) (pure b) := .done (.ok h)

theorem TalksAlike.bind {x : Talk α} {y : Talk β} {f : α → Talk γ} {g : β → Talk δ} (h : TalksAlike P x y)
    (hf : ∀ a b, P a b → TalksAlike Q (f a) (g b)) : TalksAlike Q (x >>= f) (y >>= g) := by
  refine Dialogue.Alike.bind h fun r r' hr => ?_
  cases hr with
  | ok h => exact hf _ _ h
  | error e => exact .done (.error e)

theorem talksAlike_lift {x : Dialogue α} {y : Dialogue β} (h : x.Alike P y) :
    TalksAlike P (ExceptT.lift x) (ExceptT.lift y) := by
  refine Dialogue.Alike.bind h fun a b hab => ?_
  exact .done (.ok hab)

theorem talksAlike_of_alike {x : Talk α} {y : Talk α} (h : x.run.Alike Eq y.run) : TalksAlike Eq x y :=
  h.mono fun _ _ => outcomes_of_eq

theorem attemptsAlike_pure {a : α} {b : β} (h : P a b) : AttemptsAlike P (pure a) (pure b) := fun _ =>
  .done ⟨.ok h, rfl⟩

theorem AttemptsAlike.bind {x : Attempt α} {y : Attempt β} {f : α → Attempt γ} {g : β → Attempt δ}
    (h : AttemptsAlike P x y) (hf : ∀ a b, P a b → AttemptsAlike Q (f a) (g b)) :
    AttemptsAlike Q (x >>= f) (y >>= g) := by
  intro a
  refine Dialogue.Alike.bind (h a) ?_
  rintro ⟨r, b⟩ ⟨r', b'⟩ ⟨hr, rfl⟩
  cases hr with
  | ok h => exact hf _ _ h b
  | error e => exact .done ⟨.error e, rfl⟩

theorem attemptsAlike_reaching (stage : LoginStage) {x : Talk α} {y : Talk β} (h : TalksAlike P x y) :
    AttemptsAlike P (reaching stage x) (reaching stage y) := by
  intro a
  have hmap : Dialogue.Alike (Outcomes P) (do pure ((← x.run).mapError (exitAt stage)) : Dialogue (Except Exit α))
      (do pure ((← y.run).mapError (exitAt stage))) := by
    refine Dialogue.Alike.bind h fun r r' hr => ?_
    cases hr with
    | ok h => exact .done (.ok h)
    | error e => exact .done (.error _)
  refine Dialogue.Alike.bind hmap fun r r' hr => ?_
  exact .done ⟨hr, rfl⟩

/-- A step of an attempt that is never told a password is like itself. -/
theorem attemptsAlike_of_goes {x : Attempt α}
    (h : ∀ a tr r b, Goes x a tr r b → ∀ e ∈ tr, e.request.isDiscreet = true) : AttemptsAlike Eq x x := by
  intro a
  have hx : Dialogue.Alike Eq (x.run.run a) (x.run.run a) :=
    Dialogue.alike_of_yields fun tr r hy => h a tr r.1 r.2 hy
  refine hx.mono ?_
  rintro r _ rfl
  exact ⟨outcomes_of_eq rfl, rfl⟩

theorem talksAlike_of_yields {x : Talk α} (h : ∀ tr r, x.run.Yields tr r → ∀ e ∈ tr, e.request.isDiscreet = true) :
    TalksAlike Eq x x := talksAlike_of_alike (Dialogue.alike_of_yields h)

end

/-! ## Runs -/

def Exchange.answer? : Exchange → Option (Except Fault Wire.AuthnResponse)
  | ⟨.authenticate _ _, r⟩ => some r
  | _ => none

/-- What authenticators answered in a transcript. -/
def answers (tr : List Exchange) : List (Except Fault Wire.AuthnResponse) := tr.filterMap Exchange.answer?

/-- Two exchanges are the same but for passwords, or an authenticator tells the passwords apart. -/
def Exchange.Agrees (x y : Exchange) : Prop := x.answer? = y.answer? → x.redacted = y.redacted

/-- A handler keeps related states related when it is asked alike, and replies alike, except that an authenticator
may tell passwords apart. -/
structure Dialogue.KeepsAlike (h : Dialogue.Handler σ) (R : σ → σ → Prop) : Prop where
  reply : ∀ r r' s s', r.redacted = r'.redacted → R s s' → Exchange.Agrees ⟨r, (h r s).1⟩ ⟨r', (h r' s').1⟩
  next : ∀ r r' s s', r.redacted = r'.redacted → R s s' → R (h r s).2 (h r' s').2

/-- Only the request tells whether an authenticator answers. -/
theorem isSome_answer? {r r' : Request} (hr : r.redacted = r'.redacted) (v : r.Reply) (v' : r'.Reply) :
    (Exchange.answer? ⟨r, v⟩).isSome = (Exchange.answer? ⟨r', v'⟩).isSome := by
  cases r <;> cases r' <;> first | rfl | cases hr

/-- As long as the authenticators answer the same in both runs, a handler makes the same but for passwords of
dialogues that are alike. -/
theorem Dialogue.Alike.run {P : α → β → Prop} {h : Dialogue.Handler σ} {R : σ → σ → Prop} (hh : KeepsAlike h R)
    {x : Dialogue α} {y : Dialogue β} (hxy : x.Alike P y) {s s' : σ} (hs : R s s')
    (ha : answers (x.transcript h s) = answers (y.transcript h s')) :
    P (x.run h s).1 (y.run h s').1 ∧
      (x.transcript h s).map Exchange.redacted = (y.transcript h s').map Exchange.redacted ∧
      R (x.run h s).2 (y.run h s').2 := by
  induction hxy generalizing s s' with
  | done hab => exact ⟨hab, rfl, hs⟩
  | @ask r r' next next' hr _ ih =>
    have hsame : Exchange.answer? ⟨r, (h r s).1⟩ = Exchange.answer? ⟨r', (h r' s').1⟩ ∧
        answers ((next (h r s).1).transcript h (h r s).2) = answers ((next' (h r' s').1).transcript h (h r' s').2) := by
      have hsome := isSome_answer? hr (h r s).1 (h r' s').1
      simp only [answers, transcript, List.filterMap_cons] at ha
      -- The answers come at the same places, so the first ones stand for each other.
      cases hv : Exchange.answer? ⟨r, (h r s).1⟩ <;> cases hv' : Exchange.answer? ⟨r', (h r' s').1⟩
      · rw [hv, hv'] at ha
        exact ⟨rfl, ha⟩
      · rw [hv, hv'] at hsome
        cases hsome
      · rw [hv, hv'] at hsome
        cases hsome
      · rw [hv, hv'] at ha
        obtain ⟨hhead, htail⟩ := List.cons.inj ha
        exact ⟨congrArg some hhead, htail⟩
    have hreply := hh.reply r r' s s' hr hs hsame.1
    obtain ⟨hP, htr, hR⟩ := ih _ _ hreply (hh.next r r' s s' hr hs) hsame.2
    exact ⟨hP, by simp only [transcript, List.map_cons, hreply, htr], hR⟩

end Gatehouse.Login
