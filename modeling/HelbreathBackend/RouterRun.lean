import HelbreathBackend.GatewayTrace

/-!
The router among the connections.

What the contract of a command asks of the others holds of the connections, and what it
promises holds along any run: between two of its commands a session is settled, and while one
of them is handled the rest of its task keeps to the contract.
-/

namespace HelbreathBackend.RouterRun

open HelbreathBackend.Lib HelbreathBackend.Lib.Contract HelbreathBackend.Domain
open HelbreathBackend.Application HelbreathBackend.Translate HelbreathBackend.Gateway
open HelbreathBackend.Grants HelbreathBackend.Routing HelbreathBackend.GatewaySystem
open HelbreathBackend.GatewayTrace

/-- The phase of a session after the commands that the router has taken. -/
def routerPhase (g : Gateway) (s : SessionId) : SessionPhase := phaseAfter (commandsOf s g.handled)

/-- What holds when the router is done with a command. -/
def Done (s : SessionId) (p : SessionPhase) (c : InternalCommand) (σ : Sessions)
    (l : List Exchange) : Prop :=
  Settled s p σ l ∧ ∀ r, c = .disconnectSession s r → σ.lookup s = none

/-- The router is not at a command of the session. -/
def Between (g : Gateway) (s : SessionId) : Prop := ∀ c t, g.current = some (c, t) → ¬ SentBy s c

structure Routed (g : Gateway) : Prop where
  entries : ∀ s e, g.sessions.lookup s = some e →
    (∃ conn, g.connections.lookup s = some conn) ∧ Bounded (routerPhase g s) (authority e)
  strangers : ∀ s, g.connections.lookup s = none → history s g.exchanges = []
  permitted : ∀ s, Permitted (history s g.exchanges)
  settled : ∀ s, Between g s → Settled s (routerPhase g s) g.sessions g.exchanges
  taken : ∀ c t, g.current = some (c, t) → ∃ pre, g.handled = pre ++ [c]
  running : ∀ s c t, g.current = some (c, t) → SentBy s c →
    (contract s (routerPhase g s)).Meets t (fun _ => Done s (routerPhase g s) c)
      g.sessions g.exchanges
  gone : ∀ s r, InternalCommand.disconnectSession s r ∈ g.handled → Between g s →
    g.sessions.lookup s = none

lemma routed_start : Routed .start where
  entries _ _ h := by cases h
  strangers _ _ := rfl
  permitted _ := along_nil
  settled _ _ := settled_of_gone rfl ledger_start
  taken _ _ h := by cases h
  running _ _ _ h := by cases h
  gone _ _ h := absurd h List.not_mem_nil

section

variable {g g' : Gateway} (ht : Traced g) (hr : Routed g)

include ht in
/-- The session of a command that has been taken is connected. -/
lemma connected_of_handled {c : InternalCommand} (hc : c ∈ g.handled) :
    ∃ s conn, SentBy s c ∧ g.connections.lookup s = some conn :=
  ht.known c (List.mem_append_left _ hc)

include ht hr in
lemma Routed.connected {c : InternalCommand} {t : Router Unit} (h : g.current = some (c, t)) :
    ∃ s conn, SentBy s c ∧ g.connections.lookup s = some conn := by
  obtain ⟨pre, hpre⟩ := hr.taken c t h
  refine connected_of_handled ht ?_
  rw [hpre]
  exact List.mem_append_right _ (List.mem_singleton.mpr rfl)

include ht in
lemma routerPhase_stranger {s : SessionId} (hs : g.connections.lookup s = none) :
    routerPhase g s = .preAuth := by
  have hnil := ht.commandsOf_stranger hs
  unfold posted at hnil
  rw [commandsOf_append, List.append_eq_nil_iff] at hnil
  unfold routerPhase
  rw [hnil.1]
  rfl

include ht hr in
/-- A step of a connection takes entries away, or adds the first entry of a new session. -/
lemma Routed.connection (hh : g'.handled = g.handled) (he : g'.exchanges = g.exchanges)
    (hc : g'.current = g.current)
    (hconn : ∀ x, (∃ conn, g.connections.lookup x = some conn) →
      ∃ conn, g'.connections.lookup x = some conn)
    (hold : ∀ x, (∃ conn, g.connections.lookup x = some conn) →
      g'.sessions.lookup x = g.sessions.lookup x ∨ g'.sessions.lookup x = none)
    (hnew : ∀ x, g.connections.lookup x = none → ∀ e, g'.sessions.lookup x = some e →
      authority e = nobody ∧ ∃ conn, g'.connections.lookup x = some conn) : Routed g' := by
  have hphase : ∀ x, routerPhase g' x = routerPhase g x := fun x => by
    rw [routerPhase, hh, routerPhase]
  have hbetween : ∀ x, Between g' x ↔ Between g x := fun x => by
    rw [Between, hc, Between]
  constructor
  · intro x e hx
    rw [hphase]
    rcases hl : g.connections.lookup x with _ | conn
    · obtain ⟨ha, hcon⟩ := hnew x hl e hx
      rw [ha]
      exact ⟨hcon, bounded_nobody _⟩
    · refine ⟨hconn x ⟨conn, hl⟩, ?_⟩
      rcases hold x ⟨conn, hl⟩ with hsame | hnone
      · exact (hr.entries x e (hsame ▸ hx)).2
      · rw [hnone] at hx
        cases hx
  · intro x hx
    rw [he]
    refine hr.strangers x ?_
    rcases hl : g.connections.lookup x with _ | conn
    · rfl
    · obtain ⟨conn', hl'⟩ := hconn x ⟨conn, hl⟩
      rw [hx] at hl'
      cases hl'
  · rw [he]
    exact hr.permitted
  · intro x hx
    rw [hphase, he]
    have hset := hr.settled x ((hbetween x).mp hx)
    rcases hl : g.connections.lookup x with _ | conn
    · have hnil := hr.strangers x hl
      rw [routerPhase_stranger ht hl] at hset ⊢
      refine ⟨fun e hxe => ?_, nofun, hset.ledger⟩
      rw [hnil, (hnew x hl e hxe).1]
      rfl
    · exact hset.stable (p := .preAuth) (hold x ⟨conn, hl⟩)
  · rw [hc, hh]
    exact hr.taken
  · intro s c t hct hby
    rw [hc] at hct
    rw [hphase, he]
    obtain ⟨s', conn, hby', hl⟩ := hr.connected ht hct
    obtain rfl := hby.unique hby'
    exact (hr.running s c t hct hby).stable (hold s ⟨conn, hl⟩)
  · intro x r hx hb
    rw [hh] at hx
    have hnone := hr.gone x r hx ((hbetween x).mp hb)
    obtain ⟨s', conn, hby, hl⟩ := connected_of_handled ht hx
    obtain rfl := hby.unique (.disconnection r)
    rcases hold s' ⟨conn, hl⟩ with hsame | hnone'
    · rw [hsame, hnone]
    · exact hnone'

include ht hr in
lemma Routed.take {c : InternalCommand} {rest : List InternalCommand} (hcur : g.current = none)
    (hq : g.internalQueue = c :: rest) :
    Routed { g with
      internalQueue := rest
      current := some (c, Router.handle c)
      handled := g.handled ++ [c] } := by
  have hall : ∀ x, Between g x := fun x c t hct => by
    rw [hcur] at hct
    cases hct
  have hmem : c ∈ posted g := by simp [posted, hq]
  obtain ⟨s, conn, hby, hl⟩ := ht.known c hmem
  have hother : ∀ x, x ≠ s → commandsOf x (g.handled ++ [c]) = commandsOf x g.handled :=
    fun x hx => commandsOf_other hby (Ne.symm hx) _
  have hne : ∀ x, ¬ SentBy x c → x ≠ s := fun x hx he => hx (he ▸ hby)
  constructor
  · intro x e hx
    obtain ⟨hcon, hb⟩ := hr.entries x e hx
    refine ⟨hcon, hb.mono ?_⟩
    unfold routerPhase
    rw [commandsOf_append]
    exact rank_phaseAfter_le _ _
  · exact hr.strangers
  · exact hr.permitted
  · intro x hx
    have hset := hr.settled x (hall x)
    unfold routerPhase at hset ⊢
    rwa [hother x (hne x (hx c _ rfl))]
  · rintro c' t ⟨⟩
    exact ⟨g.handled, rfl⟩
  · rintro x c' t ⟨⟩ hbyx
    obtain rfl := hbyx.unique hby
    have hset := hr.settled x (hall x)
    cases hbyx with
    | command command =>
      have hphase : phaseAfter (commandsOf x (g.handled ++ [.routeClientCommand x none command])) =
          nextPhase (routerPhase g x) command := by
        rw [commandsOf_command, phaseAfter_append]
        rfl
      have hal : allowedIn (routerPhase g x).asDomainState command = true := by
        have hlaw := (ht.lawful x conn hl).of_append
        unfold posted at hlaw
        rw [hq, ← List.singleton_append, ← List.append_assoc, commandsOf_append] at hlaw
        have hlaw := hlaw.of_append
        rw [commandsOf_command] at hlaw
        exact (along_snoc.mp hlaw).2
      unfold routerPhase at hset hal hphase ⊢
      dsimp only
      rw [hphase]
      exact (meets_routeClientCommand none hal hset).mono fun _ _ _ hpost =>
        ⟨hpost, fun _ he => by cases he⟩
    | disconnection r =>
      have hphase : phaseAfter (commandsOf x (g.handled ++ [.disconnectSession x r])) =
          routerPhase g x := by
        rw [commandsOf_disconnection]
        rfl
      unfold routerPhase at hset hphase ⊢
      dsimp only
      rw [hphase]
      exact (meets_disconnectSession r hset).mono fun _ _ _ hpost => ⟨hpost.2, fun _ _ => hpost.1⟩
  · intro x r hx hb
    rcases List.mem_append.mp hx with hx | hx
    · exact hr.gone x r hx (hall x)
    · rw [List.mem_singleton] at hx
      exact absurd (hx ▸ .disconnection r) (hb c _ rfl)

include ht hr in
lemma Routed.synced {c : InternalCommand} {f : Sessions → Sessions} {k : Sessions → Router Unit}
    (hcur : g.current = some (c, .sync f k)) :
    Routed { g with sessions := f g.sessions, current := some (c, k g.sessions) } := by
  obtain ⟨s, conn, hby, hl⟩ := hr.connected ht hcur
  obtain ⟨⟨hsame, hown⟩, hnext⟩ := hr.running s c _ hcur hby g.sessions (.inl rfl)
  have hne : ∀ x, ¬ SentBy x c → x ≠ s := fun x hx he => hx (he ▸ hby)
  have hbetween : ∀ x, ¬ SentBy x c → Between g x := by
    rintro x hx c' t hct
    rw [hcur] at hct
    cases hct
    exact hx
  constructor
  · intro x e' hx
    by_cases he : x = s
    · rw [he] at hx ⊢
      obtain ⟨e, hxe, himp⟩ := hown e' hx
      obtain ⟨hcon, hb⟩ := hr.entries s e hxe
      exact ⟨hcon, himp hb⟩
    · have hx : (f g.sessions).lookup x = some e' := hx
      rw [hsame x he] at hx
      exact hr.entries x e' hx
  · exact hr.strangers
  · exact hr.permitted
  · intro x hx
    have hx := hx c _ rfl
    exact (hr.settled x (hbetween x hx)).stable (p := .preAuth) (.inl (hsame x (hne x hx)))
  · rintro c' t ⟨⟩
    exact hr.taken c _ hcur
  · rintro x c' t ⟨⟩ hbyx
    obtain rfl := hbyx.unique hby
    exact hnext
  · intro x r hx hb
    have hb := hb c _ rfl
    exact (hsame x (hne x hb)).trans (hr.gone x r hx (hbetween x hb))

include ht hr in
lemma Routed.replied {c : InternalCommand} {q : BackendRequest} {k : HttpReply → Router Unit}
    (hcur : g.current = some (c, .call q k)) (r : HttpReply) :
    Routed { g with exchanges := g.exchanges ++ [(q, r)], current := some (c, k r) } := by
  obtain ⟨s, conn, hby, hl⟩ := hr.connected ht hcur
  obtain ⟨⟨hown, hperm⟩, hnext⟩ := hr.running s c _ hcur hby g.sessions (.inl rfl)
  have hne : ∀ x, ¬ SentBy x c → sessionOf q ≠ x := fun x hx he => hx (he ▸ hown ▸ hby)
  have hbetween : ∀ x, ¬ SentBy x c → Between g x := by
    rintro x hx c' t hct
    rw [hcur] at hct
    cases hct
    exact hx
  constructor
  · exact hr.entries
  · intro x hx
    have hne : sessionOf q ≠ x := by
      rintro rfl
      rw [hown, hl] at hx
      cases hx
    rw [history_other hne]
    exact hr.strangers x hx
  · intro x
    by_cases he : sessionOf q = x
    · rw [history_own (x := (q, r)) he]
      exact along_snoc.mpr ⟨hr.permitted x, by rwa [← he, hown]⟩
    · rw [history_other (x := (q, r)) he]
      exact hr.permitted x
  · intro x hx
    have hx := hx c _ rfl
    obtain ⟨hentry, hgone, hledger⟩ := hr.settled x (hbetween x hx)
    have hsame := history_other (x := (q, r)) (hne x hx) g.exchanges
    refine ⟨?_, hgone, ?_⟩
    · rw [hsame]
      exact hentry
    · rw [hsame]
      exact hledger
  · rintro c' t ⟨⟩
    exact hr.taken c _ hcur
  · rintro x c' t ⟨⟩ hbyx
    obtain rfl := hbyx.unique hby
    exact hnext r
  · intro x r hx hb
    exact hr.gone x r hx (hbetween x (hb c _ rfl))

include ht hr in
lemma Routed.finished {c : InternalCommand} (hcur : g.current = some (c, .ret ())) :
    Routed { g with current := none } := by
  have hdone : ∀ s, SentBy s c → Done s (routerPhase g s) c g.sessions g.exchanges :=
    fun s hby => hr.running s c _ hcur hby g.sessions (.inl rfl)
  have hbetween : ∀ x, ¬ SentBy x c → Between g x := by
    rintro x hx c' t hct
    rw [hcur] at hct
    cases hct
    exact hx
  constructor
  · exact hr.entries
  · exact hr.strangers
  · exact hr.permitted
  · intro x _
    by_cases hx : SentBy x c
    · exact (hdone x hx).1
    · exact hr.settled x (hbetween x hx)
  · nofun
  · nofun
  · intro x r hx _
    by_cases hb : SentBy x c
    · obtain ⟨pre, hpre⟩ := hr.taken c _ hcur
      have hx : InternalCommand.disconnectSession x r ∈ g.handled := hx
      rw [hpre] at hx
      rcases List.mem_append.mp hx with hx | hx
      · have hlast := ht.last pre c g.internalQueue (by simp [posted, hpre])
        exact absurd hx (hlast x r hb)
      · exact (hdone x hb).2 r (List.mem_singleton.mp hx).symm
    · exact hr.gone x r hx (hbetween x hb)

include ht hr in
theorem routed_step (h : Effect g g') : Routed g' := by
  have hkeep : ∀ (s : SessionId) (conn : Connection) (x : SessionId),
      (∃ conn, g.connections.lookup x = some conn) →
      ∃ conn', (g.connections.insert s conn).lookup x = some conn' := by
    intro s conn x hx
    rw [FMap.lookup_insert_eq]
    split
    · exact ⟨_, rfl⟩
    · exact hx
  have hnone : ∀ x, g.connections.lookup x = none → g.sessions.lookup x = none := by
    intro x hx
    rw [Option.eq_none_iff_forall_ne_some]
    intro e he
    obtain ⟨⟨conn, hl⟩, -⟩ := hr.entries x e he
    rw [hx] at hl
    cases hl
  cases h with
  | @accepted s remoteIp hs =>
    refine hr.connection ht rfl rfl rfl (hkeep s _) ?_ ?_
    · rintro x ⟨conn, hx⟩
      refine .inl (Finmap.lookup_insert_of_ne _ ?_)
      rintro rfl
      rw [hs] at hx
      cases hx
    · intro x hx e he
      have he : (g.sessions.insert s _).lookup x = some e := he
      rcases FMap.lookup_insert_cases he with ⟨heq, hv⟩ | ⟨-, he⟩
      · cases hv
        exact ⟨rfl, _, by rw [heq]; exact Finmap.lookup_insert _⟩
      · rw [hnone x hx] at he
        cases he
  | @moved s conn conn' _ _ =>
    refine hr.connection ht rfl rfl rfl (hkeep s conn') (fun _ _ => .inl rfl) fun x hx e he => ?_
    have he : g.sessions.lookup x = some e := he
    rw [hnone x hx] at he
    cases he
  | sent _ _ | left _ _ =>
    refine hr.connection ht rfl rfl rfl (hkeep _ _) (fun _ _ => .inl rfl) fun x hx e he => ?_
    have he : g.sessions.lookup x = some e := he
    rw [hnone x hx] at he
    cases he
  | @removed s conn _ _ =>
    have hlook : ∀ x, (g.sessions.erase s).lookup x = if x = s then none else g.sessions.lookup x :=
      FMap.lookup_erase_eq g.sessions s
    refine hr.connection ht rfl rfl rfl (hkeep s _) ?_ ?_
    · intro x _
      by_cases hx : x = s
      · exact .inr ((hlook x).trans (if_pos hx))
      · exact .inl ((hlook x).trans (if_neg hx))
    · intro x hx e he
      have he : (g.sessions.erase s).lookup x = some e := he
      rw [hlook, hnone x hx] at he
      split at he <;> cases he
  | taken hc hq => exact hr.take ht hc hq
  | synced hc => exact hr.synced ht hc
  | replied hc r => exact hr.replied ht hc r
  | finished hc => exact hr.finished ht hc

end

/-- **The router keeps its contract with every session**, whatever the connections do meanwhile
and whatever is replied. -/
theorem routed_of_reached {parseStr : String → Option Uuid} {packetMaxPayload : ℕ} {g : Gateway}
    (h : (system parseStr packetMaxPayload).Reached g) : Routed g := by
  refine h.invariant_of Routed traced_of_reached ?_
    fun g a g' ht _ hr _ hst => routed_step ht hr (effect_of_step hst)
  rintro g rfl
  exact routed_start

end HelbreathBackend.RouterRun
