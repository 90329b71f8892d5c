import Gatehouse.Proofs.Likeness
/-!
# Two runs side by side

Two dialogues are coupled when a handler that runs them from related states brings them to related values and
leaves related states. Coupling is proved along the way a dialogue is put together; a dialogue of which every
request is replied to evenly, the same in related states, is coupled with itself.
-/

namespace Gatehouse.Login

variable {α β γ δ σ : Type}

/-- From related states, two dialogues end with related values and in related states. -/
def Couples (h : Dialogue.Handler σ) (R : σ → σ → Prop) (P : α → β → Prop) (x : Dialogue α) (y : Dialogue β) : Prop :=
  ∀ s s', R s s' → P (x.run h s).1 (y.run h s').1 ∧ R (x.run h s).2 (y.run h s').2

/-- A request is replied to the same in related states, which stay related. -/
def Evenly (h : Dialogue.Handler σ) (R : σ → σ → Prop) (r : Request) : Prop :=
  ∀ s s', R s s' → (h r s).1 = (h r s').1 ∧ R (h r s).2 (h r s').2

/-- Talks that are coupled, and succeed with related values or fail the same. -/
def TalksCouple (h : Dialogue.Handler σ) (R : σ → σ → Prop) (P : α → β → Prop) (x : Talk α) (y : Talk β) : Prop :=
  Couples h R (Outcomes P) x.run y.run

/-- Attempts that are coupled from the same progress on, and make the same progress. -/
def AttemptsCouple (h : Dialogue.Handler σ) (R : σ → σ → Prop) (P : α → β → Prop) (x : Attempt α) (y : Attempt β) :
    Prop :=
  ∀ a, Couples h R (fun r r' => Outcomes P r.1 r'.1 ∧ r.2 = r'.2) (x.run.run a) (y.run.run a)

section
variable {h : Dialogue.Handler σ} {R : σ → σ → Prop} {P : α → β → Prop} {Q : γ → δ → Prop}

/-! ## Dialogues -/

theorem couples_pure {a : α} {b : β} (hab : P a b) : Couples h R P (pure a) (pure b) := fun _ _ hs => ⟨hab, hs⟩

theorem Couples.mono {P' : α → β → Prop} {x : Dialogue α} {y : Dialogue β} (hxy : Couples h R P x y)
    (hP : ∀ a b, P a b → P' a b) : Couples h R P' x y := by
  intro s s' hs
  obtain ⟨hv, hs⟩ := hxy s s' hs
  exact ⟨hP _ _ hv, hs⟩

/-- What is put together from coupled parts is coupled. -/
theorem Couples.bind {x : Dialogue α} {y : Dialogue β} {f : α → Dialogue γ} {g : β → Dialogue δ}
    (hxy : Couples h R P x y) (hfg : ∀ a b, P a b → Couples h R Q (f a) (g b)) :
    Couples h R Q (x >>= f) (y >>= g) := by
  intro s s' hs
  rw [Dialogue.run_bind, Dialogue.run_bind]
  obtain ⟨hv, hs⟩ := hxy s s' hs
  exact hfg _ _ hv _ _ hs

theorem couples_request {r : Request} (hr : Evenly h R r) :
    Couples h R Eq (Dialogue.request r) (Dialogue.request r) := hr

/-- A dialogue that is replied to evenly is coupled with itself, and ends the same. -/
theorem couples_of_yields {x : Dialogue α} (hx : ∀ tr a, x.Yields tr a → ∀ e ∈ tr, Evenly h R e.request) :
    Couples h R Eq x x := by
  induction x with
  | done a => exact couples_pure rfl
  | ask r next ih =>
    intro s s' hs
    have hv := (next (h r s).1).yields_transcript h (h r s).2
    have hr : Evenly h R r := hx _ _ (.ask _ hv) _ List.mem_cons_self
    obtain ⟨hreply, hnext⟩ := hr s s' hs
    have htail : Couples h R Eq (next (h r s).1) (next (h r s).1) :=
      ih _ fun tr a hy e he => hx _ a (.ask _ hy) e (List.mem_cons_of_mem _ he)
    show ((next (h r s).1).run h (h r s).2).1 = ((next (h r s').1).run h (h r s').2).1 ∧
      R ((next (h r s).1).run h (h r s).2).2 ((next (h r s').1).run h (h r s').2).2
    rw [← hreply]
    exact htail _ _ hnext

/-! ## Talks -/

theorem talksCouple_pure {a : α} {b : β} (hab : P a b) : TalksCouple h R P (pure a) (pure b) :=
  couples_pure (.ok hab)

theorem TalksCouple.bind {x : Talk α} {y : Talk β} {f : α → Talk γ} {g : β → Talk δ} (hxy : TalksCouple h R P x y)
    (hfg : ∀ a b, P a b → TalksCouple h R Q (f a) (g b)) : TalksCouple h R Q (x >>= f) (y >>= g) := by
  refine Couples.bind hxy fun r r' hr => ?_
  cases hr with
  | ok hab => exact hfg _ _ hab
  | error e => exact couples_pure (.error e)

theorem TalksCouple.bind_eq {x y : Talk α} {f : α → Talk γ} {g : α → Talk δ} (hxy : TalksCouple h R Eq x y)
    (hfg : ∀ a, TalksCouple h R Q (f a) (g a)) : TalksCouple h R Q (x >>= f) (y >>= g) :=
  hxy.bind fun a _ hab => hab ▸ hfg a

theorem talksCouple_lift {x : Dialogue α} {y : Dialogue β} (hxy : Couples h R P x y) :
    TalksCouple h R P (ExceptT.lift x) (ExceptT.lift y) :=
  Couples.bind hxy fun _ _ hab => couples_pure (.ok hab)

theorem talksCouple_of_couples {x y : Talk α} (hxy : Couples h R Eq x.run y.run) : TalksCouple h R Eq x y :=
  hxy.mono fun _ _ => outcomes_of_eq

theorem talksCouple_of_yields {x : Talk α} (hx : ∀ tr r, x.run.Yields tr r → ∀ e ∈ tr, Evenly h R e.request) :
    TalksCouple h R Eq x x := talksCouple_of_couples (couples_of_yields hx)

/-! ## Attempts -/

theorem attemptsCouple_pure {a : α} {b : β} (hab : P a b) : AttemptsCouple h R P (pure a) (pure b) := fun _ =>
  couples_pure ⟨.ok hab, rfl⟩

theorem AttemptsCouple.bind {x : Attempt α} {y : Attempt β} {f : α → Attempt γ} {g : β → Attempt δ}
    (hxy : AttemptsCouple h R P x y) (hfg : ∀ a b, P a b → AttemptsCouple h R Q (f a) (g b)) :
    AttemptsCouple h R Q (x >>= f) (y >>= g) := by
  intro a
  refine Couples.bind (hxy a) ?_
  rintro ⟨r, b⟩ ⟨r', b'⟩ ⟨hr, rfl⟩
  cases hr with
  | ok hab => exact hfg _ _ hab b
  | error e => exact couples_pure ⟨.error e, rfl⟩

theorem AttemptsCouple.bind_eq {x y : Attempt α} {f : α → Attempt γ} {g : α → Attempt δ}
    (hxy : AttemptsCouple h R Eq x y) (hfg : ∀ a, AttemptsCouple h R Q (f a) (g a)) :
    AttemptsCouple h R Q (x >>= f) (y >>= g) := hxy.bind fun a _ hab => hab ▸ hfg a

theorem attemptsCouple_reaching (stage : LoginStage) {x : Talk α} {y : Talk β} (hxy : TalksCouple h R P x y) :
    AttemptsCouple h R P (reaching stage x) (reaching stage y) := by
  intro a
  have hmap : Couples h R (Outcomes P) (do pure ((← x.run).mapError (exitAt stage)) : Dialogue (Except Exit α))
      (do pure ((← y.run).mapError (exitAt stage))) := by
    refine Couples.bind hxy fun r r' hr => ?_
    cases hr with
    | ok hab => exact couples_pure (.ok hab)
    | error e => exact couples_pure (.error _)
  exact Couples.bind hmap fun _ _ hr => couples_pure ⟨hr, rfl⟩

/-- A step of an attempt that is replied to evenly is coupled with itself. -/
theorem attemptsCouple_of_goes {x : Attempt α}
    (hx : ∀ a tr r b, Goes x a tr r b → ∀ e ∈ tr, Evenly h R e.request) : AttemptsCouple h R Eq x x := by
  intro a
  have hself : Couples h R Eq (x.run.run a) (x.run.run a) :=
    couples_of_yields fun tr r hy => hx a tr r.1 r.2 hy
  refine hself.mono ?_
  rintro r _ rfl
  exact ⟨outcomes_of_eq rfl, rfl⟩

theorem attemptsCouple_ask {r : Request} (hr : Evenly h R r) : AttemptsCouple h R Eq (ask r) (ask r) := by
  refine attemptsCouple_of_goes fun a tr v b hg e he => ?_
  have hpure : Goes (ask r >>= pure) a tr v b := by rwa [bind_pure]
  obtain ⟨_, u, rfl, hu⟩ := goes_ask.1 hpure
  obtain ⟨rfl, -, -⟩ := goes_pure.1 hu
  cases List.mem_singleton.1 he
  exact hr

theorem attemptsCouple_refuse (f : LoginFailure) (messages : List UserMessage) :
    AttemptsCouple h R P (refuse f messages) (refuse f messages) := fun _ => couples_pure ⟨.error _, rfl⟩

/-- Where an attempt is refused, it does not matter how it would go on. -/
theorem attemptsCouple_refuse_bind (f : LoginFailure) (messages : List UserMessage) (g : α → Attempt γ)
    (g' : β → Attempt δ) : AttemptsCouple h R Q (refuse f messages >>= g) (refuse f messages >>= g') := fun _ =>
  couples_pure ⟨.error _, rfl⟩

/-- Whether a principal is learned of is the same. -/
theorem attemptsCouple_identify_bind {principal : Option String} {profile : Profile} {f : Unit → Attempt α}
    {g : Unit → Attempt β} (hfg : AttemptsCouple h R P (f ()) (g ())) :
    AttemptsCouple h R P
      (match principal with
        | some principal => do
          let y ← identify principal profile.name
          f y
        | _ => f ())
      (match principal with
        | some principal => do
          let y ← identify principal profile.name
          g y
        | _ => g ()) := by
  cases principal with
  | none => exact hfg
  | some principal =>
    have hnamed : AttemptsCouple h R Eq (identify principal profile.name) (identify principal profile.name) := fun _ =>
      couples_pure ⟨.ok rfl, rfl⟩
    exact hnamed.bind fun _ _ _ => hfg

end

end Gatehouse.Login
