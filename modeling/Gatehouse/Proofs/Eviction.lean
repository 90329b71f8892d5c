import Gatehouse.Proofs.WriteLog
import Mathlib.Data.List.Basic
/-!
# Evicting passes

A pass drops the sessions that do not outlive its time: their limit has come, or they were last seen longer ago than
the soft limit allows. Main statement: passes at later and later times drop together what the last one would have
dropped alone.
-/

namespace Gatehouse

namespace Instant

/-- The nanoseconds since the start of 1970, leap seconds apart. -/
def count (t : Instant) : Int := t.seconds * second + t.nanos

variable {a b c : Instant}

theorem nanos_lt_second (h : a.isLeap = false) : a.nanos < second := by simpa [isLeap] using h

theorem since_eq_sub (ha : a.isLeap = false) (hb : b.isLeap = false) : a.since b = a.count - b.count := by
  simp only [since, count, second, ha, hb, Bool.false_eq_true, and_false, if_false, Int.ofNat_eq_natCast]
  omega

theorem le_trans (hab : a ≤ b) (hbc : b ≤ c) : a ≤ c := by
  rw [le_iff] at *
  omega

theorem count_le_count (ha : a.isLeap = false) (h : a ≤ b) : a.count ≤ b.count := by
  have hlt := nanos_lt_second ha
  rw [le_iff] at h
  unfold count second at *
  omega

end Instant

/-! ## Sessions that outlive a time -/

namespace Session

/-- A session outlives a time: it has no limit or a later one, and it was last seen at most the soft limit before, if
that is positive. -/
structure Outlives (x : Session) (now : Instant) (soft : Span) : Prop where
  limit : ∀ limit, x.hardLimit = some limit → ¬ limit ≤ now
  seen : 0 < soft.nanos → now.count - x.lastSeen.count ≤ soft.nanos

variable {x : Session} {now later : Instant} {soft : Span}

theorem keeps_iff (hx : x.lastSeen.isLeap = false) (hn : now.isLeap = false) :
    SessionStore.keeps now soft x = true ↔ x.Outlives now soft := by
  have hexpired : x.isExpired now = false ↔ ∀ limit, x.hardLimit = some limit → ¬ limit ≤ now := by
    rw [← Bool.not_eq_true, isExpired_iff]
    grind
  have hidle : x.isIdle now soft = false ↔ (0 < soft.nanos → now.count - x.lastSeen.count ≤ soft.nanos) := by
    rw [isIdle_eq_false_iff, Instant.since_eq_sub hn hx]
    omega
  rw [SessionStore.keeps, Bool.and_eq_true, Bool.not_eq_true', Bool.not_eq_true', hexpired, hidle]
  exact ⟨fun h => ⟨h.1, h.2⟩, fun h => ⟨h.limit, h.seen⟩⟩

/-- What outlives a time outlives every earlier one. -/
theorem Outlives.anti (h : x.Outlives later soft) (hn : now.isLeap = false) (hle : now ≤ later) :
    x.Outlives now soft where
  limit limit hl := fun hcome => h.limit limit hl (Instant.le_trans hcome hle)
  seen hs := by
    have hseen := h.seen hs
    have hcount := Instant.count_le_count hn hle
    omega

theorem isLeap_lastSeen_edit (hx : x.lastSeen.isLeap = false) (hn : now.isLeap = false) (e : Edit) :
    (x.edit now e).lastSeen.isLeap = false := by
  cases e with
  | seen => exact hn
  | _ => exact hx

end Session

namespace SessionStore

/-! ## When sessions were seen -/

/-- Every session of a store was last seen outside of leap seconds. -/
def SeenOnClock (s : SessionStore) : Prop := ∀ e ∈ s.sessions.entries, e.2.lastSeen.isLeap = false

variable {s : SessionStore} {now later : Instant} {soft : Span}

theorem SeenOnClock.find? (h : s.SeenOnClock) {token : String} {x : Session} (hx : s.find? token = some x) :
    x.lastSeen.isLeap = false := h _ (Table.mem_keys_of_lookup hx)

theorem SeenOnClock.pass (h : s.SeenOnClock) : (s.pass now soft).2.SeenOnClock :=
  fun e he => h e (List.mem_filter.1 he).1

/-- Sessions are seen when the clock shows it, whatever is done to a store. -/
theorem SeenOnClock.perform (h : s.SeenOnClock) (hn : now.isLeap = false) (op : Op) :
    (s.perform now op).2.SeenOnClock := by
  cases op with
  | write token e =>
    intro entry he
    rcases Table.eq_or_mem_of_mem_put he with rfl | he
    · refine Session.isLeap_lastSeen_edit ?_ hn e
      cases hx : s.find? token with
      | none => exact hn
      | some x => exact h.find? hx
    · exact h entry he
  | remove token => exact fun e he => h e (List.mem_filter.1 he).1
  | evict time softLimit => exact h.pass
  | _ => exact h

theorem SeenOnClock.after {uses : List Use} (h : s.SeenOnClock) (hu : ∀ u ∈ uses, u.now.isLeap = false) :
    (s.after uses).SeenOnClock := by
  induction uses generalizing s with
  | nil => exact h
  | cons u uses ih =>
    exact ih (h.perform (hu u List.mem_cons_self) u.op) fun v hv => hu v (List.mem_cons_of_mem u hv)

/-! ## One pass -/

theorem find?_pass (hs : s.sessions.keys.Nodup) (hc : s.SeenOnClock) (hn : now.isLeap = false) {token : String}
    {x : Session} : (s.pass now soft).2.find? token = some x ↔ s.find? token = some x ∧ x.Outlives now soft := by
  show (s.evict now soft).find? token = some x ↔ _
  rw [find?_evict hs, Option.filter_eq_some_iff]
  exact and_congr_right fun hx => Session.keeps_iff (hc.find? hx) hn

/-- The tokens of the sessions that a pass drops. -/
def dropped (s : SessionStore) (now : Instant) (soft : Span) : List String :=
  (s.sessions.entries.filter fun e => !keeps now soft e.2).map Prod.fst

theorem length_dropped : (s.dropped now soft).length = (s.pass now soft).1 := by
  have hsplit := List.length_eq_length_filter_add (l := s.sessions.entries) fun e => keeps now soft e.2
  simp only [dropped, List.length_map, pass, evict, size, Table.size, Table.filter]
  omega

theorem mem_dropped (hs : s.sessions.keys.Nodup) (hc : s.SeenOnClock) (hn : now.isLeap = false) {token : String} :
    token ∈ s.dropped now soft ↔ ∃ x, s.find? token = some x ∧ ¬ x.Outlives now soft := by
  unfold dropped
  rw [List.mem_map]
  constructor
  · rintro ⟨⟨_, x⟩, he, rfl⟩
    obtain ⟨he, hk⟩ := List.mem_filter.1 he
    refine ⟨x, Table.lookup_of_mem hs he, fun hx => ?_⟩
    simp [(Session.keeps_iff (hc _ he) hn).2 hx] at hk
  · rintro ⟨x, hx, ho⟩
    refine ⟨(token, x), List.mem_filter.2 ⟨Table.mem_keys_of_lookup hx, ?_⟩, rfl⟩
    rwa [Bool.not_eq_true', ← Bool.not_eq_true, Session.keeps_iff (hc.find? hx) hn]

/-! ## Passes one after the other -/

/-- Passes with one soft limit: how many sessions they dropped in all, and the store after them. -/
def passes (soft : Span) : List Instant → SessionStore → Nat × SessionStore
  | [], s => (0, s)
  | now :: rest, s =>
    let (n, s) := s.pass now soft
    let (m, s) := passes soft rest s
    (n + m, s)

theorem size_pass_le : (s.pass now soft).2.size ≤ s.size := List.length_filter_le ..

/-- What an earlier pass dropped, a later one would have dropped as well. -/
theorem pass_pass_snd (hc : s.SeenOnClock) (hn : now.isLeap = false) (hl : later.isLeap = false) (hle : now ≤ later) :
    ((s.pass now soft).2.pass later soft).2 = (s.pass later soft).2 := by
  have hboth : ∀ e ∈ s.sessions.entries,
      (keeps later soft e.2 && keeps now soft e.2) = keeps later soft e.2 := by
    intro e he
    rw [Bool.and_eq_left_iff_imp, Session.keeps_iff (hc e he) hl, Session.keeps_iff (hc e he) hn]
    exact fun h => h.anti hn hle
  simp only [pass, evict, Table.filter, List.filter_filter, List.filter_congr hboth]

theorem pass_pass_fst (hc : s.SeenOnClock) (hn : now.isLeap = false) (hl : later.isLeap = false) (hle : now ≤ later) :
    (s.pass now soft).1 + ((s.pass now soft).2.pass later soft).1 = (s.pass later soft).1 := by
  have hcount : ∀ s : SessionStore, ∀ t, (s.pass t soft).1 = s.size - (s.pass t soft).2.size := fun _ _ => rfl
  have hle₁ : (s.pass now soft).2.size ≤ s.size := size_pass_le
  have hle₂ : ((s.pass now soft).2.pass later soft).2.size ≤ (s.pass now soft).2.size := size_pass_le
  rw [pass_pass_snd hc hn hl hle] at hle₂
  rw [hcount, hcount, hcount, pass_pass_snd hc hn hl hle]
  omega

theorem passes_concat {earlier : List Instant} (hc : s.SeenOnClock) (ht : ∀ t ∈ earlier ++ [now], t.isLeap = false)
    (hle : (earlier ++ [now]).Pairwise (· ≤ ·)) : passes soft (earlier ++ [now]) s = s.pass now soft := by
  induction earlier generalizing s with
  | nil => rfl
  | cons t earlier ih =>
    obtain ⟨hfirst, hrest⟩ := List.pairwise_cons.1 hle
    have hmem : now ∈ earlier ++ [now] := List.mem_append_right _ List.mem_cons_self
    have ht₁ : t.isLeap = false := ht t List.mem_cons_self
    have hnow : now.isLeap = false := ht now (List.mem_cons_of_mem t hmem)
    have hlast : passes soft (earlier ++ [now]) (s.pass t soft).2 = (s.pass t soft).2.pass now soft :=
      ih hc.pass (fun t' ht' => ht t' (List.mem_cons_of_mem t ht')) hrest
    simp only [List.cons_append, passes, hlast]
    exact Prod.ext (pass_pass_fst hc ht₁ hnow (hfirst now hmem)) (pass_pass_snd hc ht₁ hnow (hfirst now hmem))

/-- A pass over a store keeps, as they are, the sessions that outlive its time, and answers how many others there were.
Passes at later and later times come to what the last one comes to alone, so another pass at the same time drops
nothing. -/
theorem pass_keeps_outliving {uses : List Use} (hclock : ∀ u ∈ uses, u.now.isLeap = false) {earlier : List Instant}
    {now : Instant} (ht : ∀ t ∈ earlier ++ [now], t.isLeap = false) (hle : (earlier ++ [now]).Pairwise (· ≤ ·))
    (soft : Span) :
    let s := after {} uses
    let kept := (s.pass now soft).2
    (∀ token x, kept.find? token = some x ↔ s.find? token = some x ∧ x.Outlives now soft) ∧
      (∃ gone : List String, gone.Nodup ∧
        (∀ token, token ∈ gone ↔ ∃ x, s.find? token = some x ∧ ¬ x.Outlives now soft) ∧
        (s.pass now soft).1 = gone.length) ∧
      passes soft (earlier ++ [now]) s = s.pass now soft ∧
      kept.pass now soft = (0, kept) := by
  intro s kept
  have hs : s.sessions.keys.Nodup := nodup_after (s := {}) List.nodup_nil uses
  have hempty : SeenOnClock {} := fun _ he => nomatch he
  have hc : s.SeenOnClock := hempty.after hclock
  have hn : now.isLeap = false := ht now (List.mem_append_right _ List.mem_cons_self)
  refine ⟨fun token x => find?_pass hs hc hn, ⟨s.dropped now soft, ?_, fun token => mem_dropped hs hc hn, ?_⟩,
    passes_concat hc ht hle, ?_⟩
  · exact hs.sublist (List.filter_sublist.map Prod.fst)
  · exact length_dropped.symm
  · have hself : now ≤ now := Instant.le_iff.2 (.inr ⟨rfl, Nat.le_refl _⟩)
    exact Prod.ext (Nat.add_eq_left.1 (pass_pass_fst hc hn hn hself)) (pass_pass_snd hc hn hn hself)

/-- Ada's session has come to its limit when the second pass is made, and Bob's was in use for the last time 30 s and
a nanosecond before. Cleo's limit is a nanosecond later, and she was in use 30 s before. -/
theorem pass_keeps_cleo :
    let uses : List Use := [⟨⟨100, 0⟩, .write "ada" (.hardLimit (some ⟨130, 1⟩))⟩, ⟨⟨100, 0⟩, .write "bob" .seen⟩,
      ⟨⟨100, 1⟩, .write "cleo" (.hardLimit (some ⟨130, 2⟩))⟩]
    let s := after {} uses
    let kept := (s.pass ⟨130, 1⟩ (.ofSeconds 30)).2
    passes (.ofSeconds 30) [⟨130, 0⟩, ⟨130, 1⟩] s = (2, kept) ∧ (kept.find? "cleo").isSome = true
      ∧ kept.pass ⟨130, 1⟩ (.ofSeconds 30) = (0, kept) := by
  intro uses s kept
  have hclock : ∀ u ∈ uses, u.now.isLeap = false := by decide
  have ht : ∀ t ∈ [⟨130, 0⟩] ++ [⟨130, 1⟩], Instant.isLeap t = false := by decide
  obtain ⟨-, -, hpasses, hagain⟩ := pass_keeps_outliving hclock ht (by decide) (.ofSeconds 30)
  exact ⟨hpasses, rfl, hagain⟩

end SessionStore

end Gatehouse
