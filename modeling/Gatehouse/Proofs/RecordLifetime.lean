import Gatehouse.Proofs.StampText
import Gatehouse.Proofs.Startup
import Gatehouse.Proofs.VerifiedUser
/-!
# How long a directory vouches for a session

A directory that vouches for its users for some minutes only writes the end into the record that it issues, as a text,
and the record is carried on, and perhaps written anew by a mapper, before the session is issued under it. An end that
got lost on the way would leave the session without one. Main statement: no end gets lost, so that the session never
outlives what the directory vouches for, even if the settings let sessions live for ever.
-/

namespace Gatehouse

/-! ## The end of a record -/

/-- A record that is given an end vouches until then, as far as its text can be read. -/
theorem AuthRecord.vouchesUntil_withValidTo {r : AuthRecord} {t : Instant} (ht : t.isRepresentable = true)
    (hy : 0 ≤ t.date.year ∧ t.date.year ≤ 9999) : (r.withValidTo t).VouchesUntil t.shownSecond := by
  have hparse : parseValidTo (Stamp.format t) = .ok t.shownSecond := by
    rw [parseValidTo, Stamp.parse_format ht, if_pos hy]
    rfl
  rw [← validTo?_eq_some_ok_iff, validTo?_withValidTo, hparse]

namespace Directory

/-- Zero minutes are none. -/
theorem recordTtl_of_ofSettings {salt : List UInt8} {x : DirectorySettings} {d : Directory}
    (h : Directory.ofSettings salt x = .ok d) :
    d.recordTtl = x.recordTtlMinutes.filter fun minutes => decide (0 < minutes) := by
  obtain ⟨users, -, hd⟩ := Except.bind_eq_ok_iff.1 h
  cases hd
  rfl

/-- A directory vouches for a user until the end of its minutes, less the fraction of a second. -/
theorem vouchesUntil_issueRecord {d : Directory} {now : Instant} {u : UserSettings} {minutes : Nat}
    (hd : d.recordTtl = some minutes) (hpos : 0 < minutes) (ht : now.isRepresentable = true)
    (hy : 0 ≤ (now.addMinutes minutes).date.year ∧ (now.addMinutes minutes).date.year ≤ 9999) :
    (d.issueRecord now u).VouchesUntil (now.addMinutes minutes).truncate := by
  have hn : (0 : Int) < minutes := Int.natCast_pos.2 hpos
  have hlast : (now.addMinutes minutes).date.year < Date.maxYear := Int.lt_of_le_of_lt hy.2 (by decide)
  unfold issueRecord
  rw [hd, ← Instant.shownSecond_of_not_isLeap (Instant.isLeap_addMinutes ht hn)]
  exact AuthRecord.vouchesUntil_withValidTo (Instant.isRepresentable_addMinutes ht hn hlast) hy

end Directory

/-- A mapper of the program keeps the end of a record. -/
theorem SuffixMapper.vouchesUntil_mapAuthRecord {m : SuffixMapper} {r : AuthRecord} {t : Instant} :
    ((m.mapAuthRecord { authRecord := r }).authRecordOr r).VouchesUntil t ↔ r.VouchesUntil t := by
  unfold mapAuthRecord Wire.MappingResponse.authRecordOr
  cases m.lowercase with
  | false => rfl
  | true =>
    cases r.principal? with
    | none => rfl
    | some principal => exact AuthRecord.vouchesUntil_withPrincipal

namespace Login

/-! ## Clocks -/

/-- A handler keeps its sessions in a store, its directories and mappers are those of the program, and a directory goes
by a clock. -/
structure Clocks {σ : Type} (h : Dialogue.Handler σ) (store : σ → SessionStore) (clock : σ → Instant) : Prop
    extends KeepsStore h store where
  authenticate : ∀ d q st, (h (.authenticate (.directory d) q) st).1 = d.authenticate (clock st) q
  mapAuthRecord : ∀ m q st, (h (.mapAuthRecord (.suffix m) q) st).1 = .ok (m.mapAuthRecord q)

/-- In the program the clock is the one that is read. -/
theorem clocks_reply {ρ : Type} (invoke : Remote → Record → StateM ρ (Except Fault Record)) :
    Clocks (Services.reply invoke) Services.sessions fun st => st.clock st.readings where
  toKeepsStore := keepsStore_reply invoke
  authenticate _ _ _ := rfl
  mapAuthRecord _ _ _ := rfl

/-- In a transcript one authenticator is asked, once: a directory, at a time. -/
def AsksAt {σ : Type} (h : Dialogue.Handler σ) (clock : σ → Instant) (st : σ) (tr : List Exchange) (d : Directory)
    (a : Instant) : Prop :=
  ∃ t q r u m, tr = t ++ ⟨.authenticate (.directory d) q, r⟩ :: u ∧ AsksNobody t ∧ AsksNobody u ∧
    Dialogue.Conducts h st t m ∧ clock m = a

section
variable {σ : Type} {h : Dialogue.Handler σ} {store : σ → SessionStore} {clock : σ → Instant} {s : Setup}
  {p : LoginParameters} {tr : List Exchange} {st st' : σ} {v : LoginResult} {q : Profile} {m : Option SuffixMapper}
  {d : Directory}

theorem asksNobody_of_call?_ne (ht : ∀ x ∈ tr, x.request.call? ≠ some .authenticate) : AsksNobody tr := by
  rintro ⟨r, reply⟩ hx
  cases r with
  | authenticate => exact absurd rfl (ht _ hx)
  | _ => rfl

/-- A directory replies by the time at which it is asked. -/
theorem Clocks.asksAt (hs : Clocks h store clock) (ho : InOrder s q p tr) (hc : Dialogue.Conducts h st tr st')
    {w : Wire.AuthnRequest} {r : Except Fault Wire.AuthnResponse}
    (hx : ⟨.authenticate (.directory d) w, r⟩ ∈ tr) : ∃ a, AsksAt h clock st tr d a ∧ r = d.authenticate a w := by
  obtain ⟨t, u, rfl⟩ := List.append_of_mem hx
  obtain ⟨m, hm, hu⟩ := Dialogue.conducts_append.1 hc
  obtain ⟨hr, -⟩ := Dialogue.conducts_cons.1 hu
  refine ⟨clock m, ⟨t, w, r, u, m, rfl, ?_, ?_, hm, rfl⟩, hr.trans (hs.authenticate d w m)⟩
  · exact asksNobody_of_call?_ne fun y hy => ho.call?_ne rfl (.inl hy)
  · exact asksNobody_of_call?_ne fun y hy => ho.call?_ne rfl (.inr hy)

/-! ## The way of the record -/

/-- What the authenticator vouched for is what the session is issued under. -/
theorem Consulted.vouchesUntil_record {x : Findings} (hs : Clocks h store clock) (hf : Consulted s p tr x)
    (hc : Dialogue.Conducts h st tr st') (hm : x.profile.mapper = m.map .suffix) {t : Instant} :
    x.record.VouchesUntil t ↔ x.evidence.record.VouchesUntil t := by
  rcases hf.mapped with ⟨-, hr⟩ | ⟨mapper, answer, hn, hx, hr⟩
  · rw [hr]
  · rw [hm, Option.map_eq_some_iff] at hn
    obtain ⟨mapper, -, rfl⟩ := hn
    obtain ⟨n, -, hreply⟩ := hc.mem (I := fun _ => True) (fun _ _ _ => trivial) trivial hx
    cases (show Except.ok answer = .ok (mapper.mapAuthRecord _) from hreply.trans (hs.mapAuthRecord ..))
    rw [hr]
    exact SuffixMapper.vouchesUntil_mapAuthRecord

/-- The record of an attempt with credentials is one that the directory issued at the time at which it was asked. -/
theorem Consulted.exists_issued {x : Findings} (hs : Clocks h store clock) (hf : Consulted s p tr x)
    (ho : InOrder s q p tr) (hc : Dialogue.Conducts h st tr st') (hr : p.authRecord = none)
    (hd : x.profile.authenticator = .directory d) :
    ∃ a u, AsksAt h clock st tr d a ∧ x.evidence.record = d.issueRecord a u := by
  obtain hp | ⟨-, w, response, hx, hok, hrecord⟩ := hf.proven
  · exact nomatch hp.symm.trans hr
  rw [hd] at hx
  obtain ⟨a, ha, hreply⟩ := hs.asksAt ho hc hx
  obtain ⟨u, -, -, rfl⟩ := Directory.accepts_of_authenticate hreply.symm hok
  exact ⟨a, u, ha, (Option.some.inj hrecord).symm⟩

/-- The session of an attempt with credentials is issued under a record that vouches for what the directory did when
it was asked. -/
theorem Course.issuedUnder (hs : Clocks h store clock) (hy : Course s p tr (.ok v)) (hc : Dialogue.Conducts h st tr st')
    (hv : v.succeeded = true) (hp : s.profiles.find? p.profileName = some q) (hq : q.authenticator = .directory d)
    (hm : q.mapper = m.map .suffix) (hr : p.authRecord = none) :
    ∃ a b u token record y, AsksAt h clock st tr d a ∧
      (∀ t, (d.issueRecord a u).VouchesUntil t → record.VouchesUntil t) ∧ v.sessionId = some token ∧
      [⟨.newToken, .ok token⟩, ⟨.now, b⟩] <:+: tr ∧ (store st').find? token = some y ∧
      y.hardLimit = Session.hardLimitFrom b s.session.hardLimitMinutes record := by
  obtain ⟨f, _, token, b, t, rest, _, y, ha, htoken, -, htr, hfill, hfind⟩ := hy.filled hs.toKeepsStore hc hv
  cases ha.profile.symm.trans hp
  have hf : Consulted s p tr f := ha.consulted.mono fun z hz => htr ▸ List.mem_append_left _ hz
  obtain ⟨a, u, hasks, hissued⟩ := hf.exists_issued hs (hy.inOrder hp) hc hr hq
  refine ⟨a, b, u, token, f.record, y, hasks, fun t ht => ?_, htoken, ?_, hfind, hfill.hardLimit⟩
  · rw [hf.vouchesUntil_record hs hc hm, hissued]
    exact ht
  · rw [htr]
    exact ⟨t ++ [⟨.report f.report, ()⟩], rest, by simp⟩

end

/-- By a profile with a directory that vouches for its users for some minutes, and with no mapper or one of the
program, a successful attempt with credentials opens a session that ends when the minutes are over, counted in whole
seconds from the time at which the directory was asked, or earlier, if the settings limit sessions and that limit,
counted from the time that was read when the token had been drawn, comes first. The end of the minutes must be in a year
that is written without a sign. -/
theorem login_within_lifetime {σ : Type} {h : Dialogue.Handler σ} {store : σ → SessionStore} {clock : σ → Instant}
    (hs : Clocks h store clock) {salt : List UInt8} {x : DirectorySettings} {d : Directory}
    (hd : Directory.ofSettings salt x = .ok d) {k : Nat} (hk : x.recordTtlMinutes = some k) (hpos : 0 < k) {s : Setup}
    {p : LoginParameters} {q : Profile} (hp : s.profiles.find? p.profileName = some q)
    (hq : q.authenticator = .directory d) {m : Option SuffixMapper} (hm : q.mapper = m.map .suffix)
    (hr : p.authRecord = none) {st : σ} {v : LoginResult} (hv : ((login s p).run h st).1 = .ok v)
    (hok : v.succeeded = true) :
    ∃ a b token y, AsksAt h clock st ((login s p).transcript h st) d a ∧ v.sessionId = some token ∧
      [⟨.newToken, .ok token⟩, ⟨.now, b⟩] <:+: (login s p).transcript h st ∧
      (store ((login s p).run h st).2).find? token = some y ∧
      (a.isRepresentable = true → 0 ≤ (a.addMinutes k).date.year → (a.addMinutes k).date.year < 10000 →
        y.hardLimit = some (if s.session.hardLimitMinutes = 0 then (a.addMinutes k).truncate
          else (b.addMinutes s.session.hardLimitMinutes).earlier (a.addMinutes k).truncate) ∧
        ∃ limit, y.hardLimit = some limit ∧ limit ≤ a.addMinutes k) := by
  have hy : Course s p _ _ := course_of_yields (Dialogue.yields_transcript h (login s p) st)
  have hc := Dialogue.conducts_transcript h (login s p) st
  rw [hv] at hy
  obtain ⟨a, b, u, token, record, y, hasks, hrecord, htoken, hissue, hfind, hlimit⟩ :=
    hy.issuedUnder hs hc hok hp hq hm hr
  refine ⟨a, b, token, y, hasks, htoken, hissue, hfind, fun ha hfrom hto => ?_⟩
  have httl : d.recordTtl = some k := by
    rw [Directory.recordTtl_of_ofSettings hd, hk]
    simp [hpos]
  have hvouched := hrecord _ (Directory.vouchesUntil_issueRecord httl hpos ha ⟨hfrom, Int.le_of_lt_add_one hto⟩)
  rw [Session.hardLimitFrom_of_vouchesUntil hvouched] at hlimit
  refine ⟨hlimit, _, hlimit, ?_⟩
  have hle := Instant.truncate_le (a.addMinutes k)
  split
  · exact hle
  · exact Instant.earlier_le_iff.2 (.inr hle)

/-! An example: a directory that vouches for half an hour, and settings that let sessions live for ever. -/

def briefNamesakes : DirectorySettings := { namesakes with recordTtlMinutes := some 30 }

def briefly : Settings where
  profiles := [loweringProfile]
  extensions := { directories := [briefNamesakes], mappers := [loweringMapper] }
  permissions := { allowEveryone := true }
  session := { hardLimitMinutes := 0 }

theorem entitles_briefly : loweringProfile.Entitles briefly "Ada" "secret" :=
  ⟨some loweringMapper, ⟨List.mem_cons_self, rfl⟩, "Ada", .inr ⟨nofun, rfl⟩,
    ⟨briefNamesakes, List.mem_cons_self, by decide, _, List.mem_cons_self, rfl, accepts_madeUser ..⟩,
    briefNamesakes, List.mem_cons_self, by decide, _, List.mem_cons_of_mem _ List.mem_cons_self, by decide, .inl rfl⟩

/-- The session of a login in the middle of a second ends half an hour later, at the start of the second. -/
theorem login_within_lifetime_unlimited : ∃ c v token y, Core.ofSettings (fun _ => []) briefly = .ok c ∧
    let st := c.services (fun _ => ⟨1700000000, 500000000⟩) ()
    ((login c.setup adaLogin).run alone st).1 = .ok v ∧ v.succeeded = true ∧ v.sessionId = some token ∧
      ((login c.setup adaLogin).run alone st).2.sessions.find? token = some y ∧
      y.hardLimit = some ⟨1700001800, 0⟩ := by
  obtain ⟨c, hc⟩ : ∃ c, Core.ofSettings (fun _ => []) briefly = .ok c := ⟨_, rfl⟩
  let st := c.services (fun _ => ⟨1700000000, 500000000⟩) ()
  have hreach : c.Reachable (fun _ _ => pure (.ok ∅)) st := .start _ () ObjectId.nth fun n => .ok (Token.nth n)
  have hq : loweringProfile ∈ briefly.profiles := List.mem_cons_self
  have hname : "Ada" ≠ "" := by decide
  have hpassword : "secret" ≠ "" := by decide
  obtain ⟨v, hv, hiff⟩ := Core.succeeded_iff_entitles hc hreach rfl hq hname hpassword none
  have hok := hiff.2 entitles_briefly
  obtain ⟨q, hp, hbound⟩ := (Core.lists_bound hc).present _ hq
  obtain ⟨n, x, d, hx, -, hd, hauthn⟩ := hbound.authenticator
  obtain ⟨m, -, -, hm⟩ := hbound.mapped "lower" rfl
  obtain rfl : x = briefNamesakes := List.mem_singleton.1 (List.mem_of_getElem? hx)
  obtain ⟨a, b, token, y, ⟨t, _, _, _, m', -, -, -, hconduct, hclock⟩, htoken, -, hfind, hlimit⟩ :=
    login_within_lifetime (clocks_reply fun _ _ => pure (.ok ∅)) hd (k := 30) rfl (by decide)
      (s := c.setup) (p := adaLogin) hp hauthn (m := some (.ofSettings m)) hm rfl hv hok
  have ha : a = ⟨1700000000, 500000000⟩ := hclock.symm.trans (congrFun (fixed_of_conducts hconduct).2 m'.readings)
  subst ha
  have hnone : c.setup.session.hardLimitMinutes = 0 :=
    congrArg (fun s : Settings => s.session.hardLimitMinutes) (Core.eq_of_ofSettings hc).1
  refine ⟨c, v, token, y, hc, hv, hok, htoken, hfind, ?_⟩
  rw [(hlimit (by decide) (by decide) (by decide)).1, if_pos hnone]
  decide

end Login

end Gatehouse
