import Gatehouse.Proofs.Backlog
import Gatehouse.Proofs.DirectoryRows
/-!
# What remains of the evaluations of a user

Tasks that record evaluations run side by side, and each overwrites what the one before it recorded, be it newer
or older. So what remains is what was recorded last. It is the newest evaluation when the tasks record in the
order of their times, and a runner of one task at a time keeps the order in which it accepted them; a runner of
more tasks may let an older evaluation prevail.
-/

namespace Gatehouse.Background

namespace Runner

variable {r s : Runner AdminCheck}

/-- A task starts in one way only, and only when there is room for it. -/
theorem Step.started_cases (h : Step r s) :
    s.started = r.started ∨ ∃ t, s.started = r.started ++ [t] ∧ r.running.length < r.concurrency := by
  cases h with
  | signal | elapse =>
    simp only [Runner.signal, Runner.elapse]
    repeat' split
    all_goals exact .inl rfl
  | orphan | desert => exact .inl rfl
  | hear h =>
    obtain ⟨-, -, ⟨-, rfl⟩ | ⟨-, rfl⟩⟩ := hear?_eq_some h
    all_goals exact .inl rfl
  | take h =>
    obtain ⟨-, -, ⟨_, _, -, rfl⟩ | ⟨-, -, rfl⟩⟩ := take?_eq_some h
    all_goals exact .inl rfl
  | begin h =>
    obtain ⟨t, -, hRoom, rfl⟩ := begin?_eq_some h
    exact .inr ⟨t, started_of_started, hRoom⟩
  | finish _ h =>
    obtain ⟨-, rfl⟩ := finish?_eq_some h
    exact .inl started_of_ended
  | rest h =>
    obtain ⟨-, -, rfl⟩ := rest?_eq_some h
    exact .inl rfl

end Runner

/-! ## Registries -/

/-- A runner of evaluations, the directory in which they are recorded, and the tasks that have recorded theirs,
the first one first. -/
structure Registry where
  runner : Runner AdminCheck
  users : UserDirectory
  recorded : List AdminCheck := []

namespace Registry

/-- A registry whose runner has not accepted anything yet. -/
def ofSettings (s : WorkerSettings) (d : UserDirectory) : Registry where
  runner := .ofSettings s
  users := d

/-- Something happens to a registry other than that a task is submitted. -/
inductive Step : Registry → Registry → Prop
  /-- A task ends only when it has recorded its evaluation. -/
  | run {g : Registry} {r : Runner AdminCheck} (h : Runner.Step g.runner r)
      (he : ∀ t, r.ended.count t ≤ g.recorded.count t) : Step g { g with runner := r }
  /-- A task that has started records its evaluation, once. -/
  | record {g : Registry} (t : AdminCheck) (h : g.recorded.count t < g.runner.started.count t) :
      Step g { g with users := (t.perform g.users).2, recorded := g.recorded ++ [t] }
  | save {g : Registry} (u : LocalUser) : Step g { g with users := (g.users.save u).2 }

/-- What can have happened to a registry, and the tasks that its runner accepted meanwhile. -/
inductive History (w : Registry) : List AdminCheck → Registry → Prop
  | here : History w [] w
  | submit {accepted : List AdminCheck} {g : Registry} (h : History w accepted g) (t : AdminCheck)
      (ha : (g.runner.submit t).1 = true) :
      History w (accepted ++ [t]) { g with runner := (g.runner.submit t).2 }
  | step {accepted : List AdminCheck} {g g' : Registry} (h : History w accepted g) (hs : Step g g') :
      History w accepted g'

/-! ## What is stored -/

/-- The evaluations of one user. -/
def ofUser (id : ObjectId) (cs : List AdminCheck) : List AdminCheck := cs.filter fun c => c.userId = id

/-- What remains of an evaluation once others have been recorded over it. -/
def remaining (before : Option (Bool × Option Instant)) (id : ObjectId) (cs : List AdminCheck) :
    Option (Bool × Option Instant) :=
  match (ofUser id cs).getLast? with
  | some c => some (c.admin, some c.time)
  | none => before

theorem remaining_concat (before : Option (Bool × Option Instant)) (id : ObjectId) (cs : List AdminCheck)
    (c : AdminCheck) : remaining before id (cs ++ [c]) =
      if c.userId = id then some (c.admin, some c.time) else remaining before id cs := by
  unfold remaining ofUser
  rw [List.filter_append]
  by_cases h : c.userId = id
  · simp [h]
  · simp [h]

variable {d : UserDirectory} {earlier accepted : List AdminCheck} {g g' w : Registry} {s : WorkerSettings} {id : ObjectId}

theorem isSome_remaining (before : Option (Bool × Option Instant)) (hb : before.isSome = true) (id : ObjectId)
    (cs : List AdminCheck) : (remaining before id cs).isSome = true := by
  unfold remaining
  split
  · rfl
  · exact hb

theorem Step.filed (hs : Step g g') (hf : g.users.Filed) : g'.users.Filed := by
  cases hs with
  | run => exact hf
  | record t _ => exact hf.recordAdminCheck t.userId t.admin t.time
  | save u => exact hf.save u

theorem History.filed (h : History w accepted g) (hf : w.users.Filed) : g.users.Filed := by
  induction h with
  | here => exact hf
  | submit _ _ _ ih => exact ih
  | step _ hs ih => exact hs.filed ih

/-- Whatever was recorded last for a user since it is known is stored. -/
theorem History.stored (h : History w accepted g) (hf : w.users.Filed) (hid : (w.users.evaluation? id).isSome = true) :
    ∃ later, g.recorded = w.recorded ++ later ∧
      g.users.evaluation? id = remaining (w.users.evaluation? id) id later := by
  induction h with
  | here => exact ⟨[], (List.append_nil _).symm, rfl⟩
  | submit _ _ _ ih => exact ih
  | @step _ g _ h hs ih =>
    obtain ⟨later, hRecorded, hStored⟩ := ih
    have hKnown : (g.users.evaluation? id).isSome = true := by
      rw [hStored]
      exact isSome_remaining _ hid id later
    cases hs with
    | run => exact ⟨later, hRecorded, hStored⟩
    | record t _ =>
      refine ⟨later ++ [t], ?_, ?_⟩
      · rw [hRecorded, List.append_assoc]
      · rw [remaining_concat, ← hStored]
        exact UserDirectory.evaluation?_recordAdminCheck (h.filed hf) hKnown t.userId t.admin t.time
    | save u =>
      refine ⟨later, hRecorded, ?_⟩
      rw [← hStored]
      exact UserDirectory.evaluation?_save g.users u hKnown

/-! ## What is accounted for -/

/-- What a registry keeps account of: what started was accepted, what was recorded started, and what ended was
recorded. -/
structure Keeps (accepted : List AdminCheck) (g : Registry) : Prop where
  accounts : Runner.Accounts accepted g.runner
  ended_le : ∀ t, g.runner.ended.count t ≤ g.recorded.count t
  le_started : ∀ t, g.recorded.count t ≤ g.runner.started.count t

theorem keeps_ofSettings : Keeps [] (ofSettings s d) where
  accounts := .ofSettings s
  ended_le _ := Nat.le_refl _
  le_started _ := Nat.le_refl _

theorem Keeps.submit (h : Keeps accepted g) {t : AdminCheck} (ha : (g.runner.submit t).1 = true) :
    Keeps (accepted ++ [t]) { g with runner := (g.runner.submit t).2 } := by
  have hAccounts := h.accounts.submit ha
  obtain ⟨-, -, hs⟩ := Runner.submit_of_accepted ha
  refine ⟨hAccounts, ?_, ?_⟩
  · rw [hs]
    exact h.ended_le
  · rw [hs]
    exact h.le_started

theorem Keeps.step (h : Keeps accepted g) (hs : Step g g') : Keeps accepted g' := by
  cases hs with
  | save u => exact ⟨h.accounts, h.ended_le, h.le_started⟩
  | @run r hr he =>
    refine ⟨h.accounts.step hr, he, ?_⟩
    intro t
    apply Nat.le_trans (h.le_started t)
    obtain hSame | ⟨c, hMore, -⟩ := hr.started_cases
    · exact Nat.le_of_eq (congrArg (List.count t) hSame.symm)
    · rw [hMore, List.count_append]
      exact Nat.le_add_right _ _
  | record t ht =>
    refine ⟨h.accounts, ?_, ?_⟩
    · intro c
      rw [List.count_append]
      exact Nat.le_trans (h.ended_le c) (Nat.le_add_right _ _)
    · intro c
      rw [List.count_append]
      by_cases hc : c = t
      · subst hc
        rw [List.count_singleton_self]
        exact ht
      · have hNone : [t].count c = 0 := by simp [Ne.symm hc]
        rw [hNone]
        exact h.le_started c

theorem History.trans {late : List AdminCheck} (h : History w accepted g) (hl : History g late g') :
    History w (accepted ++ late) g' := by
  induction hl with
  | here =>
    rw [List.append_nil]
    exact h
  | submit _ t ha ih =>
    rw [← List.append_assoc]
    exact ih.submit t ha
  | step _ hs ih => exact ih.step hs

theorem History.keeps (h : History (ofSettings s d) accepted g) : Keeps accepted g := by
  induction h with
  | here => exact keeps_ofSettings
  | submit _ t ha ih => exact ih.submit ha
  | step _ hs ih => exact ih.step hs

theorem Keeps.started_le (h : Keeps accepted g) (t : AdminCheck) : g.runner.started.count t ≤ accepted.count t := by
  obtain ⟨lost, ha, -⟩ := h.accounts.order
  rw [ha, List.append_assoc, List.append_assoc, List.count_append]
  exact Nat.le_add_right _ _

theorem count_ofUser {t : AdminCheck} (ht : t.userId = id) (cs : List AdminCheck) :
    (ofUser id cs).count t = cs.count t := List.count_filter (decide_eq_true ht)

theorem ofUser_append (id : ObjectId) (cs cs' : List AdminCheck) :
    ofUser id (cs ++ cs') = ofUser id cs ++ ofUser id cs' := List.filter_append ..

/-- Once all tasks of a user have ended, all of them have recorded their evaluations. -/
theorem Keeps.perm (h : Keeps accepted g) (he : (ofUser id g.runner.ended).Perm (ofUser id accepted)) :
    (ofUser id g.recorded).Perm (ofUser id accepted) := by
  rw [List.perm_iff_count]
  intro t
  by_cases ht : t.userId = id
  · have hEnded := he.count_eq t
    have hStarted := h.started_le t
    have hLo := h.ended_le t
    have hHi := h.le_started t
    rw [count_ofUser ht, count_ofUser ht] at hEnded ⊢
    omega
  · have hNone : ∀ cs, (ofUser id cs).count t = 0 := by
      intro cs
      apply List.count_eq_zero_of_not_mem
      intro hMem
      exact ht (of_decide_eq_true (List.mem_filter.1 hMem).2)
    rw [hNone, hNone]

/-! ## One task at a time -/

/-- Where one task runs at a time, the tasks record in the order in which they started. -/
def InTurn (g : Registry) : Prop :=
  g.runner.started = g.recorded ∨ ∃ t, g.runner.started = g.recorded ++ [t]

theorem Keeps.inTurn (h : Keeps accepted g) (hs : Step g g') (hOne : g.runner.concurrency ≤ 1) (hi : g.InTurn) :
    g'.InTurn := by
  cases hs with
  | save u => exact hi
  | record t ht =>
    obtain hi | ⟨c, hi⟩ := hi
    · rw [hi] at ht
      exact absurd ht (Nat.lt_irrefl _)
    · -- The only task that started and has not recorded yet is the last one that started.
      have hc : c = t := by
        rw [hi, List.count_append] at ht
        by_cases heq : c = t
        · exact heq
        · have hNone : [c].count t = 0 := by simp [heq]
          omega
      rw [hc] at hi
      exact .inl hi
  | run hr _ =>
    obtain hSame | ⟨t, hMore, hRoom⟩ := hr.started_cases
    · obtain hi | ⟨c, hi⟩ := hi
      · exact .inl (hSame.trans hi)
      · exact .inr ⟨c, hSame.trans hi⟩
    · have hIdle : g.runner.running = [] := by
        apply List.eq_nil_of_length_eq_zero
        omega
      have hRan : g.runner.ended.Perm g.runner.started := by
        have hRan := h.accounts.ran
        rw [hIdle, List.append_nil] at hRan
        exact hRan
      obtain hi | ⟨c, hi⟩ := hi
      · right
        exact ⟨t, hMore.trans (by rw [hi])⟩
      · -- Whatever started has ended, and so has recorded.
        have hCount := hRan.count_eq c
        have hLe := h.ended_le c
        rw [hi, List.count_append, List.count_singleton_self] at hCount
        omega

theorem History.concurrency_eq (h : History w accepted g) : g.runner.concurrency = w.runner.concurrency := by
  induction h with
  | here => rfl
  | submit _ t ha ih =>
    obtain ⟨-, -, hs⟩ := Runner.submit_of_accepted ha
    rw [← ih]
    show (Runner.submit _ t).2.concurrency = _
    rw [hs]
  | step _ hs ih =>
    rw [← ih]
    cases hs with
    | run hr _ => exact hr.concurrency_eq
    | record | save => rfl

theorem History.inTurn (h : History (ofSettings s d) accepted g) (hOne : s.concurrency ≤ 1) :
    g.InTurn := by
  induction h with
  | here => exact .inl rfl
  | submit _ t ha ih =>
    obtain ⟨-, -, hs⟩ := Runner.submit_of_accepted ha
    unfold InTurn
    rw [hs]
    exact ih
  | step h hs ih =>
    have hAtOnce : max s.concurrency 1 ≤ 1 := by omega
    exact h.keeps.inTurn hs (h.concurrency_eq ▸ hAtOnce) ih

/-- A runner of one task at a time has evaluations recorded in the order in which it accepted them. -/
theorem History.recorded_in_order (h : History (ofSettings s d) accepted g) (hOne : s.concurrency ≤ 1) :
    g.recorded <+: accepted := by
  have hStarted : g.runner.started <+: accepted := by
    obtain ⟨lost, ha, -⟩ := h.keeps.accounts.order
    rw [ha, List.append_assoc, List.append_assoc]
    exact List.prefix_append _ _
  obtain hi | ⟨t, hi⟩ := h.inTurn hOne
  · rw [← hi]
    exact hStarted
  · rw [hi] at hStarted
    exact (List.prefix_append _ _).trans hStarted

/-! ## Newer and older -/

theorem recorded_step (hs : Step g g') : g.recorded <+: g'.recorded := by
  cases hs with
  | run | save => exact List.prefix_rfl
  | record t _ => exact List.prefix_append _ _

theorem History.recorded_mono (h : History w accepted g) : w.recorded <+: g.recorded := by
  induction h with
  | here => exact List.prefix_rfl
  | submit _ _ _ ih => exact ih
  | step _ hs ih => exact ih.trans (recorded_step hs)

/-- When a user was last evaluated, as the directory has it. -/
def lastCheck? (d : UserDirectory) (id : ObjectId) : Option Instant := (d.evaluation? id).bind Prod.snd

/-- The times of evaluation that are stored for a user one after the other. -/
def stamps (d : UserDirectory) (id : ObjectId) (cs : List AdminCheck) : List Instant :=
  (lastCheck? d id).toList ++ (ofUser id cs).map AdminCheck.time

theorem getLast?_stamps (d : UserDirectory) (id : ObjectId) (cs : List AdminCheck) :
    (stamps d id cs).getLast? = (remaining (d.evaluation? id) id cs).bind Prod.snd := by
  unfold stamps remaining
  rw [List.getLast?_append, List.getLast?_map]
  cases h : (ofUser id cs).getLast? with
  | some c => rfl
  | none =>
    show ((lastCheck? d id).toList).getLast? = lastCheck? d id
    cases lastCheck? d id with
    | none => rfl
    | some t => rfl

theorem stamps_mono {cs cs' : List AdminCheck} (h : cs <+: cs') : stamps d id cs <+: stamps d id cs' := by
  obtain ⟨later, rfl⟩ := h
  unfold stamps ofUser
  rw [List.filter_append, List.map_append, ← List.append_assoc]
  exact List.prefix_append _ _

theorem le_getLast {l : List Instant} (h : l.Pairwise (· ≤ ·)) {t last : Instant} (ht : t ∈ l)
    (hLast : l.getLast? = some last) : t ≤ last := by
  obtain ⟨before, rfl⟩ := List.getLast?_eq_some_iff.1 hLast
  cases List.mem_append.1 ht with
  | inl ht => exact (List.pairwise_append.1 h).2.2 t ht last List.mem_cons_self
  | inr ht =>
    cases List.mem_singleton.1 ht
    rw [Instant.le_iff]
    omega

/-- The newest of the evaluations of a user is the one that is stored. -/
def Prevails (id : ObjectId) (cs : List AdminCheck) (users : UserDirectory) : Prop :=
  ∃ c ∈ ofUser id cs, (∀ other ∈ ofUser id cs, other.time ≤ c.time) ∧
    users.evaluation? id = some (c.admin, some c.time)

/-- What remains of the evaluations of a user who is known since some time, when tasks were accepted after it. -/
structure Remains (s : WorkerSettings) (w : Registry) (accepted : List AdminCheck) (g : Registry) (id : ObjectId) :
    Prop where
  /-- Whatever was recorded last is stored. -/
  stored : g.users.evaluation? id = remaining (w.users.evaluation? id) id g.recorded
  /-- Once the user's tasks have ended, the newest evaluation prevails exactly if it was recorded last. -/
  prevails : (ofUser id g.runner.ended).Perm (ofUser id accepted) → (Prevails id accepted g.users ↔
    ∃ c, (ofUser id g.recorded).getLast? = some c ∧ ∀ other ∈ ofUser id accepted, other.time ≤ c.time)
  /-- Where the user's tasks record in the order of their times, the newest prevails. -/
  converges : (ofUser id g.runner.ended).Perm (ofUser id accepted) → ofUser id accepted ≠ [] →
    (stamps w.users id g.recorded).Pairwise (· ≤ ·) → Prevails id accepted g.users
  /-- There the time that is stored does not go backwards either. -/
  onward : (stamps w.users id g.recorded).Pairwise (· ≤ ·) → ∀ before late v, History w before v →
    History v late g → ∀ t, lastCheck? v.users id = some t → ∃ t', lastCheck? g.users id = some t' ∧ t ≤ t'
  /-- One task at a time records in the order in which the tasks were accepted. -/
  inTurn : s.concurrency ≤ 1 → ofUser id g.recorded <+: ofUser id accepted

section
variable (hd : d.Filed) (hw : History (ofSettings s d) earlier w) (hid : (w.users.evaluation? id).isSome = true)
  (hNew : ofUser id earlier = [])
include hw hNew

/-- Nothing is recorded for a user before a task of the user is accepted. -/
theorem ofUser_recorded : ofUser id w.recorded = [] := by
  apply List.eq_nil_iff_forall_not_mem.2
  intro t hMem
  have ht : t.userId = id := of_decide_eq_true (List.mem_filter.1 hMem).2
  have hPos : 0 < (ofUser id w.recorded).count t := List.count_pos_iff.2 hMem
  have hHi := hw.keeps.le_started t
  have hStarted := hw.keeps.started_le t
  rw [← count_ofUser ht earlier, hNew, List.count_nil] at hStarted
  rw [count_ofUser ht] at hPos
  omega

include hd hid in
theorem stored_since (h : History w accepted g) :
    g.users.evaluation? id = remaining (w.users.evaluation? id) id g.recorded := by
  obtain ⟨later, hRecorded, hStored⟩ := h.stored (hw.filed hd) hid
  rw [hStored, hRecorded]
  unfold remaining
  rw [ofUser_append, ofUser_recorded hw hNew, List.nil_append]

omit hw in
theorem ofUser_since (accepted : List AdminCheck) : ofUser id (earlier ++ accepted) = ofUser id accepted := by
  rw [ofUser_append, hNew, List.nil_append]

theorem recorded_since (h : History w accepted g) (he : (ofUser id g.runner.ended).Perm (ofUser id accepted)) :
    (ofUser id g.recorded).Perm (ofUser id accepted) := by
  rw [← ofUser_since hNew accepted] at he ⊢
  exact (hw.trans h).keeps.perm he

end

/-- The newest prevails exactly if it was recorded last, whenever what was recorded last is stored. -/
theorem prevails_iff (hOf : (ofUser id g.recorded).Perm (ofUser id accepted)) {before : Option (Bool × Option Instant)}
    (hStored : g.users.evaluation? id = remaining before id g.recorded) : Prevails id accepted g.users ↔
      ∃ c, (ofUser id g.recorded).getLast? = some c ∧ ∀ other ∈ ofUser id accepted, other.time ≤ c.time := by
  have hLast : ∀ c, (ofUser id g.recorded).getLast? = some c → g.users.evaluation? id = some (c.admin, some c.time) := by
    intro c hc
    rw [hStored, remaining, hc]
  constructor
  · rintro ⟨c, hc, hNewest, hIs⟩
    have hMem : c ∈ ofUser id g.recorded := hOf.mem_iff.2 hc
    cases hl : (ofUser id g.recorded).getLast? with
    | none =>
      rw [List.getLast?_eq_none_iff.1 hl] at hMem
      cases hMem
    | some last =>
      have hSame := hLast last hl
      rw [hIs] at hSame
      have hTime : c.time = last.time := by
        injection hSame with hSame
        injection hSame with _ hSame
        injection hSame
      refine ⟨last, rfl, ?_⟩
      rw [← hTime]
      exact hNewest
  · rintro ⟨c, hc, hNewest⟩
    exact ⟨c, hOf.mem_iff.1 (List.mem_of_getLast? hc), hNewest, hLast c hc⟩

/-- In the order of the times, the last one is the newest one. -/
theorem exists_newest {cs : List AdminCheck} (hOrder : (stamps d id cs).Pairwise (· ≤ ·)) (hSome : ofUser id cs ≠ []) :
    ∃ c, (ofUser id cs).getLast? = some c ∧ ∀ other ∈ ofUser id cs, other.time ≤ c.time := by
  cases hl : (ofUser id cs).getLast? with
  | none => exact absurd (List.getLast?_eq_none_iff.1 hl) hSome
  | some last =>
    refine ⟨last, rfl, fun other ho => ?_⟩
    have hLastStamp : (stamps d id cs).getLast? = some last.time := by
      rw [getLast?_stamps, remaining, hl]
      rfl
    apply le_getLast hOrder _ hLastStamp
    unfold stamps
    rw [List.mem_append]
    exact .inr (List.mem_map_of_mem ho)

theorem lastCheck?_eq {cs : List AdminCheck} (hStored : g.users.evaluation? id = remaining (d.evaluation? id) id cs) :
    lastCheck? g.users id = (stamps d id cs).getLast? := by
  rw [lastCheck?, hStored, getLast?_stamps]

/-- Where a user's tasks record in the order of their times, the stored time does not go backwards. -/
theorem lastCheck?_onward (hd : d.Filed) (hw : History (ofSettings s d) earlier w)
    (hid : (w.users.evaluation? id).isSome = true) (hNew : ofUser id earlier = [])
    (hOrder : (stamps w.users id g.recorded).Pairwise (· ≤ ·)) {before late : List AdminCheck} {v : Registry}
    (hv : History w before v) (hl : History v late g) {t : Instant} (ht : lastCheck? v.users id = some t) :
    ∃ t', lastCheck? g.users id = some t' ∧ t ≤ t' := by
  have hThen := lastCheck?_eq (stored_since hd hw hid hNew hv)
  have hNow := lastCheck?_eq (stored_since hd hw hid hNew (hv.trans hl))
  rw [hThen] at ht
  have hMem : t ∈ stamps w.users id g.recorded :=
    (stamps_mono hl.recorded_mono).subset (List.mem_of_getLast? ht)
  cases hEnd : (stamps w.users id g.recorded).getLast? with
  | none =>
    rw [List.getLast?_eq_none_iff.1 hEnd] at hMem
    cases hMem
  | some t' => exact ⟨t', hNow.trans hEnd, le_getLast hOrder hMem hEnd⟩

/-- Whatever was recorded last for a user remains, be it the newest evaluation or not. -/
theorem recorded_remains (hd : d.Filed) (hw : History (ofSettings s d) earlier w) (h : History w accepted g)
    (hid : (w.users.evaluation? id).isSome = true) (hNew : ofUser id earlier = []) : Remains s w accepted g id := by
  have hStored := stored_since hd hw hid hNew h
  constructor
  · exact hStored
  · intro he
    exact prevails_iff (recorded_since hw hNew h he) hStored
  · intro he hSome hOrder
    have hOf := recorded_since hw hNew h he
    have hRecorded : ofUser id g.recorded ≠ [] := by
      intro hNil
      rw [hNil] at hOf
      exact hSome hOf.nil_eq.symm
    obtain ⟨c, hc, hNewest⟩ := exists_newest hOrder hRecorded
    apply (prevails_iff hOf hStored).2
    exact ⟨c, hc, fun other ho => hNewest other (hOf.mem_iff.2 ho)⟩
  · intro hOrder before late v hv hl t ht
    exact lastCheck?_onward hd hw hid hNew hOrder hv hl ht
  · intro hOne
    have hOrder := ((hw.trans h).recorded_in_order hOne).filter fun c => c.userId = id
    rw [← ofUser_since hNew accepted]
    exact hOrder

/-! ## Two evaluations of one user -/

/-- A directory with one user. -/
def annsDirectory : UserDirectory :=
  (UserDirectory.save {} { id := .nth 0, externalId := "uid-ann", loginName := "ann", domain := "staff" }).2

theorem filed_annsDirectory : annsDirectory.Filed := UserDirectory.filed_empty.save _

/-- Ann was found to administer, and later not to. -/
def promotion : AdminCheck := ⟨.nth 0, true, ⟨100, 0⟩⟩

def demotion : AdminCheck := ⟨.nth 0, false, ⟨200, 0⟩⟩

/-- Both tasks were accepted in the order of their times, and both run. -/
def bothRunning : Registry where
  runner := { (.ofSettings {} : Runner AdminCheck) with
    running := [promotion, demotion], log := [.started promotion, .started demotion] }
  users := annsDirectory

theorem history_bothRunning : History (ofSettings {} annsDirectory) [promotion, demotion] bothRunning := by
  have hNone : ∀ t : AdminCheck, ([] : List AdminCheck).count t ≤ ([] : List AdminCheck).count t :=
    fun _ => Nat.le_refl _
  have hOne : History (ofSettings {} annsDirectory) [promotion] _ := History.here.submit promotion rfl
  have hTwo : History (ofSettings {} annsDirectory) [promotion, demotion] _ := hOne.submit demotion rfl
  exact (((hTwo.step (.run (.take rfl) hNone)).step (.run (.begin rfl) hNone)).step
    (.run (.take rfl) hNone)).step (.run (.begin rfl) hNone)

/-- Both have recorded, in some order, and ended. -/
def bothEnded (first second : AdminCheck) : Registry where
  runner := { (.ofSettings {} : Runner AdminCheck) with
    log := [.started promotion, .started demotion, .ended promotion, .ended demotion] }
  users := annsDirectory.recordAll [first, second]
  recorded := [first, second]

theorem history_bothEnded {first second : AdminCheck} (h : [first, second].Perm [promotion, demotion]) :
    History bothRunning [] (bothEnded first second) := by
  have hCount : ∀ t, [first, second].count t = [promotion, demotion].count t := h.count_eq
  have hFirst : [].count first < [promotion, demotion].count first := by
    rw [← hCount, List.count_cons_self]
    exact Nat.succ_pos _
  have hSecond : [first].count second < [promotion, demotion].count second := by
    rw [← hCount]
    show [first].count second < ([first] ++ [second]).count second
    rw [List.count_append, List.count_singleton_self]
    exact Nat.lt_succ_self _
  have hBoth : History bothRunning [] _ := (History.here.step (.record first hFirst)).step (.record second hSecond)
  refine (hBoth.step (.run (.finish promotion rfl) ?_)).step (.run (.finish demotion rfl) ?_)
  · intro t
    show [promotion].count t ≤ [first, second].count t
    rw [hCount]
    exact List.Sublist.count_le t (List.sublist_append_left _ _)
  · intro t
    exact Nat.le_of_eq (hCount t).symm

/-- Where the promotion is recorded first, the demotion prevails. -/
theorem recorded_remains_demotion :
    History (ofSettings {} annsDirectory) [promotion, demotion] (bothEnded promotion demotion) ∧
      Remains {} (ofSettings {} annsDirectory) [promotion, demotion] (bothEnded promotion demotion) (.nth 0) ∧
      Prevails (.nth 0) [promotion, demotion] (bothEnded promotion demotion).users := by
  have hRun : History (ofSettings {} annsDirectory) [promotion, demotion] (bothEnded promotion demotion) :=
    history_bothRunning.trans (history_bothEnded (.refl _))
  have hKnown : (annsDirectory.evaluation? (.nth 0)).isSome = true := by decide
  have hRemains := recorded_remains filed_annsDirectory .here hRun hKnown rfl
  refine ⟨hRun, hRemains, ?_⟩
  apply hRemains.converges (.refl _)
  · decide
  · decide

/-- The newest evaluation of a user prevails once all of the user's tasks have ended. -/
def NewestPrevails (s : WorkerSettings) : Prop :=
  ∀ {d : UserDirectory} {earlier accepted : List AdminCheck} {w g : Registry} {id : ObjectId}, d.Filed →
    History (ofSettings s d) earlier w → History w accepted g → (w.users.evaluation? id).isSome = true →
    ofUser id earlier = [] → ofUser id accepted ≠ [] → (ofUser id g.runner.ended).Perm (ofUser id accepted) →
    Prevails id accepted g.users

/-- The time of evaluation that is stored for a user never goes backwards. -/
def NeverBackwards (s : WorkerSettings) : Prop :=
  ∀ {d : UserDirectory} {before late : List AdminCheck} {w g : Registry} {id : ObjectId} {t : Instant}, d.Filed →
    History (ofSettings s d) before w → History w late g → lastCheck? w.users id = some t →
    ∃ t', lastCheck? g.users id = some t' ∧ t ≤ t'

/-- The demotion is recorded, and then the promotion over it: Ann administers again. -/
theorem older_prevails : ¬ NewestPrevails {} ∧ ¬ NeverBackwards {} := by
  constructor
  · intro h
    have hRun : History (ofSettings {} annsDirectory) [promotion, demotion] (bothEnded demotion promotion) :=
      history_bothRunning.trans (history_bothEnded (List.Perm.swap promotion demotion []))
    have hKnown : (annsDirectory.evaluation? (.nth 0)).isSome = true := by decide
    have hSome : ofUser (.nth 0) [promotion, demotion] ≠ [] := by decide
    obtain ⟨c, hc, hNewest, hIs⟩ := h filed_annsDirectory .here hRun hKnown rfl hSome (.refl _)
    have hStored : (bothEnded demotion promotion).users.evaluation? (.nth 0) = some (true, some ⟨100, 0⟩) := by decide
    rw [hStored] at hIs
    have hTime : (⟨100, 0⟩ : Instant) = c.time := by
      injection hIs with hIs
      injection hIs with _ hIs
      injection hIs
    have hLe := hNewest demotion (by decide)
    rw [← hTime] at hLe
    exact absurd hLe (by decide)
  · intro h
    let demoted : Registry := { bothRunning with users := annsDirectory.recordAll [demotion], recorded := [demotion] }
    have hDemoted : History (ofSettings {} annsDirectory) [promotion, demotion] demoted :=
      history_bothRunning.step (.record demotion (by decide))
    have hOver : History demoted [] { demoted with
        users := annsDirectory.recordAll [demotion, promotion], recorded := [demotion, promotion] } :=
      History.here.step (.record promotion (by decide))
    have hThen : lastCheck? demoted.users (.nth 0) = some ⟨200, 0⟩ := by decide
    have hNow : lastCheck? (annsDirectory.recordAll [demotion, promotion]) (.nth 0) = some ⟨100, 0⟩ := by decide
    obtain ⟨t', ht', hLe⟩ := h filed_annsDirectory hDemoted hOver hThen
    have hTime : (⟨100, 0⟩ : Instant) = t' := Option.some.inj (hNow.symm.trans ht')
    rw [← hTime] at hLe
    exact absurd hLe (by decide)

end Registry

end Gatehouse.Background
