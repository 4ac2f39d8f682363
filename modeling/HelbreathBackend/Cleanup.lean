import HelbreathBackend.GatewaySteps
import HelbreathBackend.RouterRun

/-!
The end of a connection.

Its task leaves the loop when the stream ends or nothing has been read for too long, queues the
disconnection and removes the entry. A read error returns from inside the loop, and skips both.
-/

namespace HelbreathBackend.Cleanup

open HelbreathBackend.Lib HelbreathBackend.Domain HelbreathBackend.Application
open HelbreathBackend.Frame HelbreathBackend.Translate HelbreathBackend.Gateway
open HelbreathBackend.GatewaySystem HelbreathBackend.GatewayTrace HelbreathBackend.GatewaySteps
open HelbreathBackend.RouterRun

/-- The entry is gone, and one disconnection has been queued, after everything else of the
session. -/
structure Cleaned (g : Gateway) (s : SessionId) : Prop where
  gone : g.sessions.lookup s = none
  once : ∃ pre r post, posted g = pre ++ .disconnectSession s r :: post ∧
    (∀ r', InternalCommand.disconnectSession s r' ∉ pre) ∧ ∀ c ∈ post, ¬ SentBy s c

/-- How the connections have ended, after the actions of a run. -/
structure Endings (as : List Action) (g : Gateway) : Prop where
  failed : ∀ s, Action.readError s ∈ as → ∃ conn, g.connections.lookup s = some conn ∧
    conn.stage = .ended ∧ ∀ r, InternalCommand.disconnectSession s r ∉ posted g
  left : ∀ s conn, g.connections.lookup s = some conn → conn.stage = .removing →
    ∃ r, InternalCommand.disconnectSession s r ∈ posted g
  ended : ∀ s conn, g.connections.lookup s = some conn → conn.stage = .ended →
    Action.readError s ∈ as ∨
      g.sessions.lookup s = none ∧ ∃ r, InternalCommand.disconnectSession s r ∈ posted g

variable {parseStr : String → Option Uuid} {packetMaxPayload : ℕ} {g g' : Gateway}
  {as : List Action} {a : Action} {s : SessionId} {conn conn' : Connection} {c : InternalCommand}

lemma queueStep_sentBy (h : QueueStep s conn a c conn') : SentBy s c := by
  cases h with
  | send => exact .command _
  | disconnect => exact .disconnection _

lemma taskStep_stage (h : TaskStep parseStr packetMaxPayload s conn a conn') :
    a = .readError s ∧ conn'.stage = .ended ∨
      (∀ x, a ≠ .readError x) ∧ looping conn'.stage = true := by
  cases h with
  | readError => exact .inl ⟨rfl, rfl⟩
  | eof | received | timeout | limited => exact .inr ⟨nofun, rfl⟩
  | @translated frame rest hst =>
    refine .inr ⟨nofun, ?_⟩
    rcases @translated_stage parseStr packetMaxPayload conn frame rest with h | ⟨command, h⟩
    · rw [h]; rfl
    · rw [h]; rfl

lemma endings_start : Endings [] .start where
  failed _ h := absurd h List.not_mem_nil
  left _ _ h := by cases h
  ended _ _ h := by cases h

lemma gone_sync (ht : Traced g) (hr : Routed g) {f : Sessions → Sessions}
    {k : Sessions → Router Unit} (hc : g.current = some (c, .sync f k))
    (hx : g.sessions.lookup s = none) : (f g.sessions).lookup s = none := by
  obtain ⟨x, conn, hby, -⟩ := hr.connected ht hc
  obtain ⟨⟨hsame, hown⟩, -⟩ := hr.running x c _ hc hby g.sessions (.inl rfl)
  by_cases he : s = x
  · rw [Option.eq_none_iff_forall_ne_some]
    intro e' he'
    obtain ⟨e, hex, -⟩ := hown e' (he ▸ he')
    rw [he, hex] at hx
    cases hx
  · rw [hsame s he, hx]

section

variable (ht : Traced g) (hr : Routed g) (he : Endings as g)

include he in
lemma Endings.router (ha : ∀ x, a ≠ .readError x) (hp : posted g' = posted g)
    (hconn : g'.connections = g.connections)
    (hgone : ∀ x, g.sessions.lookup x = none → g'.sessions.lookup x = none) :
    Endings (as ++ [a]) g' := by
  constructor
  · intro x hx
    rw [hp, hconn]
    rcases List.mem_append.mp hx with hx | hx
    · exact he.failed x hx
    · exact absurd (List.mem_singleton.mp hx).symm (ha x)
  · intro x conn hl hst
    rw [hp]
    exact he.left x conn (hconn ▸ hl) hst
  · intro x conn hl hst
    rw [hp]
    rcases he.ended x conn (hconn ▸ hl) hst with h | ⟨h, hd⟩
    · exact .inl (List.mem_append_left _ h)
    · exact .inr ⟨hgone x h, hd⟩

include he in
lemma Endings.connection (hl : ∀ conn, g.connections.lookup s = some conn → conn.stage ≠ .ended)
    (hconn : g'.connections = g.connections.insert s conn') (cmds : List InternalCommand)
    (hp : posted g' = posted g ++ cmds) (hby : ∀ c ∈ cmds, SentBy s c)
    (hgone : ∀ x, x ≠ s → g'.sessions.lookup x = g.sessions.lookup x)
    (hfailed : ∀ x, a = .readError x → x = s ∧ conn'.stage = .ended ∧
      ∀ r, InternalCommand.disconnectSession s r ∉ posted g')
    (hleft : conn'.stage = .removing → ∃ r, InternalCommand.disconnectSession s r ∈ posted g')
    (hended : conn'.stage = .ended → a = .readError s ∨
      g'.sessions.lookup s = none ∧ ∃ r, InternalCommand.disconnectSession s r ∈ posted g') :
    Endings (as ++ [a]) g' := by
  have hlook : ∀ x, x ≠ s → g'.connections.lookup x = g.connections.lookup x := by
    intro x hx
    rw [hconn, Finmap.lookup_insert_of_ne _ hx]
  have hself : g'.connections.lookup s = some conn' := by
    rw [hconn]
    exact Finmap.lookup_insert _
  have hother : ∀ x r, x ≠ s → (InternalCommand.disconnectSession x r ∈ posted g' ↔
      InternalCommand.disconnectSession x r ∈ posted g) := by
    intro x r hx
    rw [hp, List.mem_append, or_iff_left]
    exact fun hc => hx ((SentBy.disconnection r).unique (hby _ hc))
  constructor
  · intro x hx
    rcases List.mem_append.mp hx with hx | hx
    · obtain ⟨conn, hlx, hst, hno⟩ := he.failed x hx
      have hne : x ≠ s := by
        rintro rfl
        exact hl conn hlx hst
      exact ⟨conn, (hlook x hne).trans hlx, hst, fun r hr => hno r ((hother x r hne).mp hr)⟩
    · obtain ⟨rfl, hfail⟩ := hfailed x (List.mem_singleton.mp hx).symm
      exact ⟨conn', hself, hfail⟩
  · intro x conn hlx hst
    by_cases hx : x = s
    · rw [hx, hself] at hlx
      cases hlx
      rw [hx]
      exact hleft hst
    · rw [hlook x hx] at hlx
      obtain ⟨r, hr⟩ := he.left x conn hlx hst
      exact ⟨r, (hother x r hx).mpr hr⟩
  · intro x conn hlx hst
    by_cases hx : x = s
    · rw [hx, hself] at hlx
      cases hlx
      rw [hx]
      rcases hended hst with ha | hclean
      · exact .inl (List.mem_append_right _ (List.mem_singleton.mpr ha.symm))
      · exact .inr hclean
    · rw [hlook x hx] at hlx
      rcases he.ended x conn hlx hst with h | ⟨h, r, hr⟩
      · exact .inl (List.mem_append_left _ h)
      · exact .inr ⟨(hgone x hx).trans h, r, (hother x r hx).mpr hr⟩

include ht hr he in
theorem endings_step (h : Step parseStr packetMaxPayload g a g') : Endings (as ++ [a]) g' := by
  have hopen : ∀ {s : SessionId} {conn : Connection}, g.connections.lookup s = some conn →
      conn.stage ≠ .ended → ∀ conn, g.connections.lookup s = some conn → conn.stage ≠ .ended := by
    intro s conn hl hst conn' hl'
    rw [hl] at hl'
    cases hl'
    exact hst
  have hloop : ∀ {st : Stage}, looping st = true → st ≠ .ended := by
    rintro st hst rfl
    cases hst
  cases h with
  | @accept s remoteIp hl =>
    refine he.connection (s := s) (fun conn hc => ?_) rfl [] (List.append_nil _).symm (by simp)
      (fun x hx => Finmap.lookup_insert_of_ne _ hx) ?_ ?_ ?_
    · rw [hl] at hc
      cases hc
    · rintro x ⟨⟩
    · rintro ⟨⟩
    · rintro ⟨⟩
  | @task _ s conn conn' hl hst =>
    refine he.connection (hopen hl (hloop hst.looping)) rfl [] (List.append_nil _).symm (by simp)
      (fun _ _ => rfl) ?_ ?_ ?_
    all_goals rcases taskStep_stage hst with ⟨rfl, hend⟩ | ⟨hno, hend⟩
    · rintro x ⟨⟩
      exact ⟨rfl, hend, ht.not_left hl hst.looping⟩
    · exact fun x hx => absurd hx (hno x)
    · exact fun hrem => by rw [hend] at hrem; cases hrem
    · exact fun hrem => by rw [hrem] at hend; cases hend
    · exact fun _ => .inl rfl
    · exact fun hrem => by rw [hrem] at hend; cases hend
  | @queue _ s conn conn' c hl hq =>
    refine he.connection (hopen hl (hloop hq.looping)) rfl [c] (List.append_assoc ..).symm ?_
      (fun _ _ => rfl) ?_ ?_ ?_
    · intro c' hc'
      rw [List.mem_singleton.mp hc']
      exact queueStep_sentBy hq
    · intro x hx
      cases hq <;> cases hx
    · intro hrem
      cases hq with
      | send hst => cases hrem
      | disconnect hst =>
        refine ⟨"socket_closed", List.mem_append_right _ (List.mem_append_right _ ?_)⟩
        exact List.mem_singleton.mpr rfl
    · intro hend
      cases hq <;> cases hend
  | @remove s conn hl hst =>
    have hne : conn.stage ≠ .ended := by
      rw [hst]
      rintro ⟨⟩
    refine he.connection (s := s) (hopen hl hne) rfl [] (List.append_nil _).symm (by simp)
      (fun x hx => Finmap.lookup_erase_ne hx) ?_ ?_ fun _ => ?_
    · rintro x ⟨⟩
    · rintro ⟨⟩
    · exact .inr ⟨Finmap.lookup_erase s g.sessions, he.left s conn hl hst⟩
  | recv hc hq =>
    refine he.router (by rintro x ⟨⟩) ?_ rfl fun _ h => h
    simp [posted, hq]
  | sync hc => exact he.router (by rintro x ⟨⟩) rfl rfl fun x hx => gone_sync ht hr hc hx
  | reply hc r => exact he.router (by rintro x ⟨⟩) rfl rfl fun _ h => h
  | finish hc => exact he.router (by rintro x ⟨⟩) rfl rfl fun _ h => h

end

theorem endings_of_run (h : (system parseStr packetMaxPayload).Run as g) : Endings as g := by
  refine h.invariant Endings (J := fun g => Traced g ∧ Routed g)
    (fun hs => ⟨traced_of_reached hs, routed_of_reached hs⟩) ?_
    fun as g a g' hJ _ he hst => endings_step hJ.1 hJ.2 he (step_cases hst)
  rintro g rfl
  exact endings_start

/-- A disconnection that has been queued is the only one, and the last of its session. -/
lemma once_of_mem (ht : Traced g) {r : String}
    (h : InternalCommand.disconnectSession s r ∈ posted g) :
    ∃ pre r post, posted g = pre ++ .disconnectSession s r :: post ∧
      (∀ r', InternalCommand.disconnectSession s r' ∉ pre) ∧ ∀ c ∈ post, ¬ SentBy s c := by
  obtain ⟨pre, post, hp⟩ := List.append_of_mem h
  refine ⟨pre, r, post, hp, ?_, fun c hc hby => ?_⟩
  · exact fun r' => ht.last pre _ post hp s r' (.disconnection r)
  · obtain ⟨mid, post', rfl⟩ := List.append_of_mem hc
    have hp' : posted g = (pre ++ .disconnectSession s r :: mid) ++ c :: post' := by
      rw [hp, List.append_assoc]
      rfl
    exact ht.last _ c post' hp' s r hby (by simp)

/-- **A connection that has ended is cleaned up exactly once, if and only if it has not ended by a
read error**: its entry is gone, and one disconnection follows all that it has queued. -/
theorem cleaned_iff (h : (system parseStr packetMaxPayload).Run as g)
    (hl : g.connections.lookup s = some conn) (hend : conn.stage = .ended) :
    Cleaned g s ↔ Action.readError s ∉ as := by
  have he := endings_of_run h
  constructor
  · rintro ⟨-, pre, r, post, hp, -, -⟩ herr
    obtain ⟨-, -, -, hno⟩ := he.failed s herr
    refine hno r ?_
    rw [hp]
    exact List.mem_append_right _ List.mem_cons_self
  · intro herr
    rcases he.ended s conn hl hend with h' | ⟨hgone, r, hr⟩
    · exact absurd h' herr
    · exact ⟨hgone, once_of_mem (traced_of_reached h.reached) hr⟩

/-- A client that logs in and closes the socket. -/
def loginThenEof : List Action :=
  [.accept (.fill 7) "10.0.0.1", .read (.fill 7) (encodeFrame 0x0001 [117, 0, 112, 0, 118]),
    .frame (.fill 7) true, .send (.fill 7), .read (.fill 7) [], .disconnect (.fill 7),
    .remove (.fill 7)]

theorem cleaned_iff_eof :
    ∃ g conn, (system (fun _ => none) 65535).Run loginThenEof g ∧
      g.connections.lookup (.fill 7) = some conn ∧ conn.stage = .ended ∧
      (posted g).length = 2 ∧ Cleaned g (.fill 7) := by
  obtain ⟨g, hg, hp⟩ := (system (fun _ => none) 65535).exists_run rfl loginThenEof
    (fun g => ((g.connections.lookup (.fill 7)).any fun conn => conn.stage = .ended) &&
      (posted g).length == 2) (by decide +kernel)
  simp only [Bool.and_eq_true, beq_iff_eq] at hp
  obtain ⟨hany, hposted⟩ := hp
  obtain ⟨conn, hl, hst⟩ := (Option.any_eq_true _ _).mp hany
  have hend := of_decide_eq_true hst
  exact ⟨g, conn, hg, hl, hend, hposted,
    (cleaned_iff hg hl hend).mpr (by simp [loginThenEof])⟩

/-- A connection that is reset: its entry stays, and nothing is queued for it. -/
theorem reset_not_cleaned :
    ∃ g conn, (system (fun _ => none) 65535).Reached g ∧
      g.connections.lookup (.fill 7) = some conn ∧ conn.stage = .ended ∧
      ¬ Cleaned g (.fill 7) := by
  obtain ⟨g, hg, hp⟩ := (system (fun _ => none) 65535).exists_reachedBy (fun _ _ => True) rfl
    [.accept (.fill 7) "10.0.0.1", .readError (.fill 7)]
    (fun g => (g.connections.lookup (.fill 7)).any (fun conn => conn.stage = .ended) ∧
      (g.sessions.lookup (.fill 7)).isSome) (by decide +kernel)
  obtain ⟨hany, hthere⟩ := of_decide_eq_true hp
  obtain ⟨conn, hl, hst⟩ := (Option.any_eq_true _ _).mp hany
  refine ⟨g, conn, hg, hl, of_decide_eq_true hst, fun hc => ?_⟩
  rw [hc.gone] at hthere
  cases hthere

end HelbreathBackend.Cleanup
