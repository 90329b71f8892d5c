import Gatehouse.Session.Store
import Mathlib.Data.List.Induction
/-!
# What a session holds is what was written last

The log of a token lists what was written into its session, with the times, since the session was last ended: since
the token was removed, or a pass evicted its session. Main statement: after any uses of an empty store, the session of
a token is the one that its log tells of. Every artifact is the last one that was written, and nothing remains of
sessions that were ended before.
-/

namespace Gatehouse

/-! ## The artifacts of edits -/

namespace Session.Edit

def user? : Edit → Option LocalUser
  | .user u => some u
  | _ => none

def password? : Edit → Option Secret
  | .password p => some p
  | _ => none

def profile? : Edit → Option String
  | .profile name => some name
  | _ => none

def authRecord? : Edit → Option AuthRecord
  | .authRecord r => some r
  | _ => none

def principalRecord? : Edit → Option PrincipalRecord
  | .principalRecord r => some r
  | _ => none

/-- The limit that an edit sets, which may be none. -/
def hardLimit? : Edit → Option (Option Instant)
  | .hardLimit limit => some limit
  | _ => none

def isSeen : Edit → Bool
  | .seen => true
  | _ => false

end Session.Edit

namespace SessionStore

open Session (Edit)

/-! ## Logs -/

/-- What was written into a session, with what the clock showed: the first edit first. -/
abbrev Log := List (Instant × Edit)

namespace Log

/-- The artifact of the last edit that wrote one. -/
def last? {α : Type} (artifact? : Edit → Option α) (log : Log) : Option α :=
  (log.filterMap fun e => artifact? e.2).getLast?

/-- When the session was last marked as in use. -/
def seen? (log : Log) : Option Instant := ((log.filter fun e => e.2.isSeen).map Prod.fst).getLast?

/-- The session that a log tells of: none before the first edit. -/
def session? (log : Log) : Option Session :=
  log.head?.map fun first => {
    user := last? Edit.user? log
    profile := last? Edit.profile? log
    authRecord := last? Edit.authRecord? log
    principalRecord := last? Edit.principalRecord? log
    password := last? Edit.password? log
    hardLimit := (last? Edit.hardLimit? log).join
    createdAt := first.1
    lastSeen := (seen? log).getD first.1 }

variable {α : Type} (log : Log) (now : Instant) (e : Edit)

theorem last?_concat (artifact? : Edit → Option α) :
    last? artifact? (log ++ [(now, e)]) = (artifact? e).or (last? artifact? log) := by
  unfold last?
  cases h : artifact? e <;> simp [h]

theorem seen?_concat : seen? (log ++ [(now, e)]) = if e.isSeen then some now else seen? log := by
  unfold seen?
  cases h : e.isSeen <;> simp [h]

/-- One more edit is made to the session, which is opened if there is none. -/
theorem session?_concat :
    session? (log ++ [(now, e)]) = some (((session? log).getD (Session.new now)).edit now e) := by
  cases log with
  | nil => cases e <;> rfl
  | cons first log =>
    unfold session?
    simp only [last?_concat, seen?_concat]
    cases e <;> rfl

theorem isSome_session? {log : Log} : (session? log).isSome = true ↔ ∃ x, x ∈ log := by
  cases log with
  | nil => simp [session?]
  | cons first log => exact ⟨fun _ => ⟨first, List.mem_cons_self⟩, fun _ => rfl⟩

end Log

/-! ## Uses of a store -/

/-- A use of a store: an operation, and what the store's clock shows. -/
structure Use where
  now : Instant
  op : Op

/-- The store after some uses. -/
def after (s : SessionStore) (uses : List Use) : SessionStore := uses.foldl (fun s u => (s.perform u.now u.op).2) s

/-- A use ends the session of a token: it removes the token, or it is a pass that evicts the session. -/
inductive Use.Ends (token : String) (s : SessionStore) : Use → Prop
  | remove {now : Instant} : Ends token s ⟨now, .remove token⟩
  | evict {now time : Instant} {softLimit : Span} (hs : (s.find? token).isSome = true)
      (hgone : (s.evict time softLimit).find? token = none) : Ends token s ⟨now, .evict time softLimit⟩

/-- The uses of an empty store fall into those up to the one that last ended the session of a token, and those since. -/
structure Since (token : String) (uses before span : List Use) : Prop where
  split : uses = before ++ span
  ended : before = [] ∨ ∃ earlier u, before = earlier ++ [u] ∧ u.Ends token (after {} earlier)
  lives : ∀ t u v, span = t ++ u :: v → ¬ u.Ends token (after {} (before ++ t))

/-- The edit of a token's session that a use makes. -/
def Use.edit? (token : String) (u : Use) : Option (Instant × Edit) :=
  match u.op with
  | .write t e => if t = token then some (u.now, e) else none
  | _ => none

/-- The edits of a token's session that uses make. -/
def logOf (token : String) (uses : List Use) : Log := uses.filterMap (Use.edit? token)

theorem after_concat (s : SessionStore) (uses : List Use) (u : Use) :
    s.after (uses ++ [u]) = ((s.after uses).perform u.now u.op).2 := List.foldl_append

theorem nodup_after {s : SessionStore} (h : s.sessions.keys.Nodup) (uses : List Use) :
    (s.after uses).sessions.keys.Nodup := by
  induction uses generalizing s with
  | nil => exact h
  | cons u uses ih => exact ih (nodup_perform h u.now u.op)

variable {token : String} {uses before span : List Use} {u : Use} {s : SessionStore}

theorem mem_logOf {x : Instant × Edit} : x ∈ logOf token uses ↔ ⟨x.1, .write token x.2⟩ ∈ uses := by
  unfold logOf
  rw [List.mem_filterMap]
  constructor
  · rintro ⟨⟨now, op⟩, hu, hx⟩
    cases op with
    | write t e =>
      obtain ⟨ht, hx⟩ := Option.ite_none_right_eq_some.1 hx
      cases hx
      exact ht ▸ hu
    | _ => cases hx
  · intro hx
    exact ⟨_, hx, if_pos rfl⟩

/-! ## What a use does to the session of a token -/

theorem find?_of_ends (h : u.Ends token s) : (s.perform u.now u.op).2.find? token = none := by
  cases h with
  | remove => exact (Table.find?_erase ..).trans (if_pos rfl)
  | evict _ hgone => exact hgone

/-- A use that does not end the session edits it or leaves it alone. -/
theorem find?_of_not_ends (hn : s.sessions.keys.Nodup) (h : ¬ u.Ends token s) :
    (s.perform u.now u.op).2.find? token =
      match u.edit? token with
      | some (now, e) => some (((s.find? token).getD (Session.new now)).edit now e)
      | none => s.find? token := by
  obtain ⟨now, op⟩ := u
  cases op with
  | write t e =>
    by_cases ht : t = token
    · subst ht
      have he : Use.edit? t ⟨now, .write t e⟩ = some (now, e) := if_pos rfl
      rw [he]
      exact Table.find?_insert_self ..
    · have he : Use.edit? token ⟨now, .write t e⟩ = none := if_neg ht
      rw [he]
      exact Table.find?_insert_of_ne _ _ ht
  | remove t =>
    have ht : t ≠ token := by
      rintro rfl
      exact h .remove
    exact (Table.find?_erase ..).trans (if_neg ht)
  | evict time softLimit =>
    have hpass := find?_evict hn time softLimit token
    show (s.evict time softLimit).find? token = s.find? token
    cases hs : s.find? token with
    | none => simp [hpass, hs]
    | some x =>
      cases hx : keeps time softLimit x with
      | true => simp [hpass, hs, hx, Option.filter]
      | false =>
        have hgone : (s.evict time softLimit).find? token = none := by simp [hpass, hs, hx, Option.filter]
        exact absurd (.evict (by simp [hs]) hgone) h
  | _ => rfl

/-! ## Since a session was last ended -/

theorem Since.concat (h : Since token uses before span) (hu : ¬ u.Ends token (after {} uses)) :
    Since token (uses ++ [u]) before (span ++ [u]) where
  split := by rw [h.split, List.append_assoc]
  ended := h.ended
  lives t w v heq := by
    rcases List.eq_nil_or_concat v with rfl | ⟨v, x, rfl⟩
    · obtain ⟨rfl, hw⟩ := List.append_inj' heq rfl
      cases hw
      rwa [← h.split]
    · have hspan : span ++ [u] = (t ++ w :: v) ++ [x] := by simpa using heq
      exact h.lives t w v (List.append_inj_left' hspan rfl)

theorem Since.of_concat (h : Since token uses before (span ++ [u])) :
    Since token (before ++ span) before span ∧ ¬ u.Ends token (after {} (before ++ span)) := by
  refine ⟨⟨rfl, h.ended, fun t w v heq => h.lives t w (v ++ [u]) ?_⟩, h.lives span u [] rfl⟩
  rw [heq, List.append_assoc]
  rfl

/-- Some use was the last one to end the session, if any was. -/
theorem exists_since (token : String) (uses : List Use) : ∃ before span, Since token uses before span := by
  induction uses using List.reverseRecOn with
  | nil => exact ⟨[], [], rfl, .inl rfl, fun t u v heq => by simp at heq⟩
  | append_singleton uses u ih =>
    by_cases hu : u.Ends token (after {} uses)
    · exact ⟨uses ++ [u], [], by simp, .inr ⟨uses, u, rfl, hu⟩, fun t u v heq => by simp at heq⟩
    · obtain ⟨before, span, h⟩ := ih
      exact ⟨before, span ++ [u], h.concat hu⟩

/-- The session of a token is the one that the edits tell of that were made since it was last ended. -/
theorem Since.find?_eq (h : Since token uses before span) :
    (after {} uses).find? token = Log.session? (logOf token span) := by
  induction span using List.reverseRecOn generalizing uses with
  | nil =>
    obtain rfl : uses = before := by rw [h.split, List.append_nil]
    rcases h.ended with rfl | ⟨earlier, u, rfl, hu⟩
    · rfl
    · rw [after_concat]
      exact find?_of_ends hu
  | append_singleton span u ih =>
    obtain ⟨hspan, hu⟩ := h.of_concat
    have hn : (after {} (before ++ span)).sessions.keys.Nodup := nodup_after (s := {}) List.nodup_nil _
    have hlog : logOf token (span ++ [u]) = logOf token span ++ (u.edit? token).toList := by
      unfold logOf
      cases he : u.edit? token <;> simp [he]
    rw [h.split, ← List.append_assoc, after_concat, find?_of_not_ends hn hu, ih hspan, hlog]
    cases he : u.edit? token with
    | none => simp
    | some x => exact (Log.session?_concat ..).symm

/-! ## What a store tells -/

/-- Operations that only ask. -/
def Op.isRead : Op → Bool
  | .user? _ | .password? _ | .hardLimit? _ | .session? _ | .size => true
  | _ => false

/-- What a store answers about a token, of which a log tells. -/
structure Answers (s : SessionStore) (token : String) (log : Log) : Prop where
  session : ∀ now, (s.perform now (.session? token)).1 = Log.session? log
  user : ∀ now, (s.perform now (.user? token)).1 = Log.last? Edit.user? log
  password : ∀ now, (s.perform now (.password? token)).1 = Log.last? Edit.password? log
  hardLimit : ∀ now, (s.perform now (.hardLimit? token)).1 = (Log.last? Edit.hardLimit? log).join
  remove : ∀ now, (s.perform now (.remove token)).1 = !log.isEmpty

/-- A store answers nothing about a token. -/
structure Silent (s : SessionStore) (token : String) : Prop where
  session : ∀ now, (s.perform now (.session? token)).1 = none
  user : ∀ now, (s.perform now (.user? token)).1 = none
  password : ∀ now, (s.perform now (.password? token)).1 = none
  hardLimit : ∀ now, (s.perform now (.hardLimit? token)).1 = none
  remove : ∀ now, (s.perform now (.remove token)).1 = false

theorem answers_of_find? {log : Log} (h : s.find? token = Log.session? log) : Answers s token log where
  session _ := h
  user _ := by
    show (s.find? token).bind Session.user = _
    rw [h]
    cases log <;> rfl
  password _ := by
    show (s.find? token).bind Session.password = _
    rw [h]
    cases log <;> rfl
  hardLimit _ := by
    show (s.find? token).bind Session.hardLimit = _
    rw [h]
    cases log <;> rfl
  remove _ := by
    show (s.find? token).isSome = _
    rw [h]
    cases log <;> rfl

theorem silent_of_find? (h : s.find? token = none) : Silent s token := by
  have hnone : s.find? token = Log.session? [] := h
  obtain ⟨hsession, huser, hpassword, hlimit, hremove⟩ := answers_of_find? hnone
  exact ⟨hsession, huser, hpassword, hlimit, hremove⟩

/-- After any uses of an empty store, a token has a session exactly if something was written under it since its session
was last ended. The session holds what was written last since then, it was created with the first write, and it was
last seen when it was last marked as in use. Without a session nothing is answered. The size is the number of tokens
that have sessions, and asking changes nothing. -/
theorem session_tells_last_writes (uses : List Use) (token : String) :
    ∃ before span, Since token uses before span ∧
      (((after {} uses).find? token).isSome = true ↔ ∃ now e, ⟨now, .write token e⟩ ∈ span) ∧
      Answers (after {} uses) token (logOf token span) ∧
      ((after {} uses).find? token = none → Silent (after {} uses) token) ∧
      (∃ tokens : List String, tokens.Nodup ∧ (∀ t, t ∈ tokens ↔ ((after {} uses).find? t).isSome = true) ∧
        ∀ now, ((after {} uses).perform now .size).1 = tokens.length) ∧
      ∀ now op, op.isRead = true → ((after {} uses).perform now op).2 = after {} uses := by
  obtain ⟨before, span, h⟩ := exists_since token uses
  refine ⟨before, span, h, ?_, answers_of_find? h.find?_eq, silent_of_find?, ?_, ?_⟩
  · rw [h.find?_eq, Log.isSome_session?]
    simp only [mem_logOf, Prod.exists]
  · refine ⟨(after {} uses).sessions.keys, nodup_after (s := {}) List.nodup_nil uses, fun t => ?_, fun now => ?_⟩
    · rw [← Option.ne_none_iff_isSome]
      exact (not_iff_comm.1 Table.find?_eq_none_iff.symm).symm
    · exact (List.length_map _).symm
  · intro now op hop
    cases op with
    | user? | password? | hardLimit? | session? | size => rfl
    | _ => cases hop

/-- A session that is opened again has nothing of the one before it. -/
example : (after {} [⟨⟨1, 0⟩, .write "t" (.password ⟨"secret"⟩)⟩, ⟨⟨2, 0⟩, .remove "t"⟩,
    ⟨⟨3, 0⟩, .write "t" .seen⟩]).find? "t" = some { createdAt := ⟨3, 0⟩, lastSeen := ⟨3, 0⟩ } := rfl

end SessionStore

end Gatehouse
