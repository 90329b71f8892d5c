import Gatehouse.Proofs.Transcript
import Mathlib.Logic.Function.Basic
/-!
# Dialogues that take turns

Any number of dialogues share their collaborators: in every turn one of them asks its next request, and the
collaborators reply to it at once. Which one has the turn is not decided here. Main statement: what was asked
is, taken together, one conversation with the collaborators, and for each dialogue a beginning of its own.
-/

namespace Gatehouse.Login

variable {ι α σ : Type}

namespace Dialogue

/-- The dialogue can have had a transcript, and then goes on with the other dialogue. -/
inductive After : Dialogue α → List Exchange → Dialogue α → Prop
  | nil (x : Dialogue α) : After x [] x
  | ask {r : Request} {next : r.Reply → Dialogue α} {tr : List Exchange} {y : Dialogue α} (reply : r.Reply)
      (h : After (next reply) tr y) : After (.ask r next) (⟨r, reply⟩ :: tr) y

theorem After.snoc {x : Dialogue α} {r : Request} {next : r.Reply → Dialogue α} {tr : List Exchange}
    (h : After x tr (.ask r next)) (reply : r.Reply) : After x (tr ++ [⟨r, reply⟩]) (next reply) := by
  generalize hy : Dialogue.ask r next = y at h
  induction h with
  | nil x =>
    subst hy
    exact .ask reply (.nil _)
  | ask v _ ih => exact .ask v (ih hy)

/-- A dialogue that has come some way has the transcripts of what is left of it. -/
theorem After.yields {x y : Dialogue α} {t u : List Exchange} {a : α} (h : After x t y) (hy : y.Yields u a) :
    x.Yields (t ++ u) a := by
  induction h with
  | nil x => exact hy
  | ask reply _ ih => exact .ask reply (ih hy)

/-- What a dialogue ended with, if it has ended. -/
def answer? : Dialogue α → Option α
  | .done a => some a
  | .ask .. => none

theorem answer?_eq_some {x : Dialogue α} {a : α} : x.answer? = some a ↔ x = .done a := by
  cases x with
  | done b => simp [answer?]
  | ask r next => simp [answer?]

theorem After.yields_done {x : Dialogue α} {tr : List Exchange} {a : α} (h : After x tr (.done a)) :
    x.Yields tr a := by
  have hy := h.yields (.done a)
  rwa [List.append_nil] at hy

end Dialogue

/-- Dialogues under way, what their collaborators are in, and what was asked so far, by whom. -/
structure Concourse (ι α σ : Type) where
  dialogues : ι → Dialogue α
  state : σ
  trace : List (ι × Exchange) := []

namespace Concourse

variable [DecidableEq ι]

/-- A dialogue asks its next request. One that has ended asks nothing. -/
def turn (h : Dialogue.Handler σ) (c : Concourse ι α σ) (i : ι) : Concourse ι α σ :=
  match c.dialogues i with
  | .done _ => c
  | .ask r next =>
    let (reply, state) := h r c.state
    { dialogues := Function.update c.dialogues i (next reply), state, trace := c.trace ++ [(i, ⟨r, reply⟩)] }

/-- The dialogues take turns in an order. -/
def turns (h : Dialogue.Handler σ) (c : Concourse ι α σ) (order : List ι) : Concourse ι α σ :=
  order.foldl (turn h) c

/-- All that was asked. -/
def exchanges (c : Concourse ι α σ) : List Exchange := c.trace.map Prod.snd

/-- What one of the dialogues asked. -/
def transcript (c : Concourse ι α σ) (i : ι) : List Exchange := (c.trace.filter fun e => e.1 = i).map Prod.snd

variable {h : Dialogue.Handler σ} {c : Concourse ι α σ} {i j : ι} {x : Exchange}

theorem mem_transcript : x ∈ c.transcript i ↔ (i, x) ∈ c.trace := by
  simp [transcript]

omit [DecidableEq ι] in
theorem mem_exchanges : x ∈ c.exchanges ↔ ∃ i, (i, x) ∈ c.trace := by
  simp [exchanges]

theorem mem_exchanges_of_mem_transcript (hx : x ∈ c.transcript i) : x ∈ c.exchanges :=
  mem_exchanges.2 ⟨i, mem_transcript.1 hx⟩

/-- A turn asks one request, or it is the turn of a dialogue that has ended. -/
theorem turn_cases (h : Dialogue.Handler σ) (c : Concourse ι α σ) (i : ι) :
    turn h c i = c ∨ ∃ r next, c.dialogues i = .ask r next ∧
      turn h c i = {
        dialogues := Function.update c.dialogues i (next (h r c.state).1), state := (h r c.state).2
        trace := c.trace ++ [(i, ⟨r, (h r c.state).1⟩)] } := by
  unfold turn
  split
  · exact .inl rfl
  · next r next hi => exact .inr ⟨r, next, hi, rfl⟩

theorem turns_append (h : Dialogue.Handler σ) (c : Concourse ι α σ) (before later : List ι) :
    turns h c (before ++ later) = turns h (turns h c before) later := List.foldl_append

/-- What was asked stays asked. -/
theorem trace_turn (h : Dialogue.Handler σ) (c : Concourse ι α σ) (i : ι) :
    c.trace <+: (turn h c i).trace := by
  obtain heq | ⟨r, next, -, heq⟩ := turn_cases h c i
  · exact ⟨[], by rw [heq, List.append_nil]⟩
  · rw [heq]
    exact List.prefix_append _ _

theorem trace_turns (h : Dialogue.Handler σ) (c : Concourse ι α σ) (order : List ι) :
    c.trace <+: (turns h c order).trace := by
  induction order generalizing c with
  | nil => exact List.prefix_rfl
  | cons i order ih => exact (trace_turn h c i).trans (ih (turn h c i))

/-- Where dialogues can have come to that started from a state of their collaborators. -/
structure Reached (h : Dialogue.Handler σ) (start : ι → Dialogue α) (st : σ) (c : Concourse ι α σ) : Prop where
  conducts : Dialogue.Conducts h st c.exchanges c.state
  after : ∀ i, (start i).After (c.transcript i) (c.dialogues i)

variable {start : ι → Dialogue α} {st : σ}

theorem reached_start : Reached h start st { dialogues := start, state := st } where
  conducts := .nil st
  after i := .nil (start i)

theorem Reached.turn (hc : Reached h start st c) (i : ι) : Reached h start st (turn h c i) := by
  obtain heq | ⟨r, next, hi, heq⟩ := turn_cases h c i
  · rw [heq]
    exact hc
  rw [heq]
  constructor
  · show Dialogue.Conducts h st ((c.trace ++ [(i, _)]).map Prod.snd) _
    rw [List.map_append]
    exact Dialogue.conducts_append.2 ⟨c.state, hc.conducts, .cons r (.nil _)⟩
  · intro j
    have hAfter := hc.after j
    unfold transcript at hAfter ⊢
    rw [List.filter_append, List.map_append]
    by_cases hj : i = j
    · subst hj
      rw [hi] at hAfter
      simp only [List.filter_cons, List.filter_nil, decide_true, ↓reduceIte, List.map_cons, List.map_nil,
        Function.update_self]
      exact hAfter.snoc _
    · simp only [List.filter_cons, List.filter_nil, hj, decide_false, Bool.false_eq_true, ↓reduceIte, List.map_nil,
        List.append_nil]
      rw [Function.update_of_ne (Ne.symm hj)]
      exact hAfter

/-- In whatever order the dialogues take turns, they ask what each of them can ask. -/
theorem Reached.turns (hc : Reached h start st c) (order : List ι) : Reached h start st (turns h c order) := by
  induction order generalizing c with
  | nil => exact hc
  | cons i order ih => exact ih (hc.turn i)

end Concourse

end Gatehouse.Login
