import DeviceDiscovery.Ssh.Protocol

/-!
The automaton and the ledger.

A phase of the automaton says which objects are live. Every call that the automaton
takes, the ledger takes too, and it comes to the objects of the next phase
(`Phase.step_replays`): the automaton refines the ledger. So calls that lead from
nothing open to nothing open are balanced.
-/

namespace DeviceDiscovery.Ssh

open Foundation DeviceDiscovery.Platform DeviceDiscovery.Scanner

/-! ### The live objects -/

/-- What lives on the session in a phase. -/
def SessionPhase.objects (p : Pointer) : SessionPhase → Ledger.Live Resource
  | .checking k _ => [(.knownHosts k, some (.session p))]
  | .channel c _ => [(.channel c, some (.session p))]
  | _ => []

/-- A session on its socket. -/
def sessionLive (handle : Socket) (p : Pointer) : Ledger.Live Resource :=
  [(.session p, socketResource handle), (.socket handle, none)]

def Phase.live : Phase → Ledger.Live Resource
  | .idle => []
  | .connecting handle | .switched handle | .closing handle => [(.socket handle, none)]
  | .session handle p phase => phase.objects p ++ sessionLive handle p

/-! ### The calls -/

section Calls

variable {handle : Socket} {p : Pointer} {call : SshCall}

theorem ChannelPhase.ledger_of_step {c : Pointer} {phase after : ChannelPhase}
    (h : phase.step c call = some after) : call.ledger = [.use (.channel c)] := by
  unfold ChannelPhase.step at h
  split at h
  all_goals first
    | cases h
    | (split at h
       · rename_i hc
         rw [hc]
         rfl
       · cases h)

theorem KnownHostsPhase.ledger_of_step {k : Pointer} {phase after : KnownHostsPhase}
    (h : phase.step k call = some after) : call.ledger = [.use (.knownHosts k)] := by
  unfold KnownHostsPhase.step at h
  split at h
  all_goals first
    | cases h
    | (split at h
       · rename_i hk
         rw [hk]
         rfl
       · cases h)

theorem replays_of_use {live : Ledger.Live Resource} {r : Resource} (h : call.ledger = [.use r])
    (hlive : Ledger.IsLive live r) : Replays live [call] live := by
  apply Replays.uses
  intro e he
  rw [ledgerOf_cons, ledgerOf_nil, List.append_nil, h] at he
  exact ⟨r, List.mem_singleton.mp he, hlive⟩

/-- The resource behind a live socket is live. -/
theorem isLive_of_mem_socketResource {live : Ledger.Live Resource} {r : Resource}
    (hlive : Ledger.IsLive live (.socket handle)) (hr : r ∈ socketResource handle) :
    Ledger.IsLive live r := by
  unfold socketResource at hr
  split at hr
  · cases hr
  · rwa [← Option.mem_some_iff.mp hr]

theorem use_of_mem_useOf {live : Ledger.Live Resource} {e : Ledger.Event Resource}
    (hlive : Ledger.IsLive live (.socket handle)) (he : e ∈ useOf (socketResource handle)) :
    ∃ r, e = .use r ∧ Ledger.IsLive live r := by
  obtain ⟨r, hr, rfl⟩ := List.mem_map.mp he
  exact ⟨r, rfl, isLive_of_mem_socketResource hlive (Option.mem_toList.mp hr)⟩

theorem isLive_socket (handle : Socket) :
    Ledger.IsLive [(Resource.socket handle, none)] (.socket handle) := by
  simp [Ledger.IsLive]

theorem SessionPhase.isLive_session (phase : SessionPhase) (handle : Socket) (p : Pointer) :
    Ledger.IsLive (phase.objects p ++ sessionLive handle p) (.session p) := by
  simp [Ledger.IsLive, sessionLive]

/-- A call that uses the session only, between phases with the same objects on it. -/
theorem replays_of_session {phase after : SessionPhase} (h : call.ledger = [.use (.session p)])
    (hobjects : after.objects p = phase.objects p) :
    Replays (phase.objects p ++ sessionLive handle p) [call]
      (after.objects p ++ sessionLive handle p) := by
  rw [hobjects]
  exact replays_of_use h (phase.isLive_session handle p)

/-- An object is made on the session, or none. -/
theorem replays_of_acquire {object : Pointer} {resource : Pointer → Resource}
    (h : call.ledger = .use (.session p) :: acquireOf object resource (some (.session p)))
    (hother : ¬Ledger.IsLive (sessionLive handle p) (resource object)) :
    Replays (sessionLive handle p) [call] ((if object = nullptr then [] else
      [(resource object, some (.session p))]) ++ sessionLive handle p) := by
  have hsession : Ledger.IsLive (sessionLive handle p) (.session p) := by
    simp [Ledger.IsLive, sessionLive]
  rw [Replays, ledgerOf_cons, ledgerOf_nil, List.append_nil, h, run_cons, Ledger.step,
    if_pos hsession, Option.bind_some, acquireOf]
  split
  · rfl
  · have hparent : ∀ q ∈ some (Resource.session p),
        Ledger.IsLive (sessionLive handle p) q := by
      intro q hq
      rwa [← Option.mem_some_iff.mp hq]
    rw [run_cons, Ledger.step, if_pos ⟨hother, hparent⟩]
    rfl

/-- The object on the session is given back. -/
theorem replays_of_release {r : Resource} (h : call.ledger = [.release r])
    (hother : ¬Ledger.IsLive (sessionLive handle p) r) :
    Replays ([(r, some (.session p))] ++ sessionLive handle p) [call] (sessionLive handle p) := by
  obtain ⟨hsession, hsocket⟩ : r ≠ .session p ∧ r ≠ .socket handle := by
    simpa [Ledger.IsLive, sessionLive] using hother
  have hnone : socketResource handle ≠ some r := by
    unfold socketResource
    split
    · exact (Option.some_ne_none r).symm
    · exact fun h => hsocket (Option.some.inj h).symm
  rw [Replays, ledgerOf_cons, ledgerOf_nil, List.append_nil, h, run_cons, Ledger.step, if_pos]
  · simp [sessionLive, hsession.symm, hsocket.symm]
  · constructor
    · simp [Ledger.IsLive]
    · simp [sessionLive, hsession.symm, hnone]

theorem SessionPhase.step_replays {phase after : SessionPhase}
    (h : phase.step handle p call = some after) :
    Replays (phase.objects p ++ sessionLive handle p) [call]
      (after.objects p ++ sessionLive handle p) := by
  have hknown (k : Pointer) : ¬Ledger.IsLive (sessionLive handle p) (.knownHosts k) := by
    simp [Ledger.IsLive, sessionLive]
  have hchannel (c : Pointer) : ¬Ledger.IsLive (sessionLive handle p) (.channel c) := by
    simp [Ledger.IsLive, sessionLive]
  have htop (r : Resource) (parent : Option Resource) :
      Ledger.IsLive ([(r, parent)] ++ sessionLive handle p) r := by
    simp [Ledger.IsLive]
  unfold SessionPhase.step at h
  split at h
  all_goals try rw [Option.ite_none_right_eq_some, Option.some.injEq] at h
  · obtain ⟨⟨rfl, -⟩, rfl⟩ := h
    exact replays_of_session rfl rfl
  · obtain ⟨rfl, rfl⟩ := h
    exact replays_of_session rfl rfl
  · -- The handshake uses the socket too.
    obtain ⟨⟨rfl, rfl⟩, rfl⟩ := h
    rename_i p handle rc
    have hobjects : (if rc = 0 then shaken else failed).objects p = [] := by
      split
      · rfl
      · rfl
    rw [hobjects]
    apply Replays.uses
    intro e he
    rw [ledgerOf_cons, ledgerOf_nil, List.append_nil] at he
    rcases List.mem_cons.mp he with rfl | he
    · exact ⟨_, rfl, isLive_session bounded handle p⟩
    · exact use_of_mem_useOf (by simp [Ledger.IsLive, sessionLive]) he
  · obtain ⟨rfl, rfl⟩ := h
    exact replays_of_session rfl rfl
  · obtain ⟨rfl, rfl⟩ := h
    rename_i p k
    have hmade : Replays (sessionLive handle p) [.knownhostInit p k]
        ((if k = nullptr then [] else [(.knownHosts k, some (.session p))]) ++
          sessionLive handle p) := replays_of_acquire rfl (hknown k)
    have hobjects : (if k = nullptr then identified else checking k .made).objects p =
        if k = nullptr then [] else [(.knownHosts k, some (.session p))] := apply_ite _ _ _ _
    rw [hobjects]
    exact hmade
  · obtain ⟨rfl, rfl⟩ := h
    exact replays_of_release rfl (hknown _)
  · obtain ⟨next, hnext, rfl⟩ := Option.map_eq_some_iff.mp h
    exact replays_of_use (KnownHostsPhase.ledger_of_step hnext) (htop _ _)
  · obtain ⟨rfl, rfl⟩ := h
    rename_i rc
    apply replays_of_session rfl
    split
    · rfl
    · rfl
  · obtain ⟨rfl, rfl⟩ := h
    exact replays_of_session rfl rfl
  · obtain ⟨rfl, rfl⟩ := h
    rename_i p c
    have hopened : Replays (sessionLive handle p) [.channelOpenSession p c]
        ((if c = nullptr then [] else [(.channel c, some (.session p))]) ++
          sessionLive handle p) := replays_of_acquire rfl (hchannel c)
    have hobjects : (if c = nullptr then unopened else channel c .opened).objects p =
        if c = nullptr then [] else [(.channel c, some (.session p))] := apply_ite _ _ _ _
    rw [hobjects]
    exact hopened
  · obtain ⟨rfl, rfl⟩ := h
    exact replays_of_session rfl rfl
  · obtain ⟨rfl, rfl⟩ := h
    exact replays_of_session rfl rfl
  · obtain ⟨rfl, rfl⟩ := h
    exact replays_of_release rfl (hchannel _)
  · obtain ⟨rfl, rfl⟩ := h
    exact replays_of_release rfl (hchannel _)
  · obtain ⟨next, hnext, rfl⟩ := Option.map_eq_some_iff.mp h
    exact replays_of_use (ChannelPhase.ledger_of_step hnext) (htop _ _)
  · obtain ⟨rfl, rfl⟩ := h
    exact replays_of_session rfl rfl
  · obtain ⟨⟨rfl, hleaves⟩, rfl⟩ := h
    apply replays_of_session rfl
    cases phase with
    | checking k known => cases hleaves
    | channel c phase => cases hleaves
    | _ => rfl
  · cases h

/-- What the ledger takes of one call. -/
theorem replays_singleton {live after : Ledger.Live Resource} {e : Ledger.Event Resource}
    (h : call.ledger = [e]) (hstep : Ledger.step live e = some after) :
    Replays live [call] after := by
  rw [Replays, ledgerOf_cons, ledgerOf_nil, List.append_nil, h, run_cons, hstep]
  rfl

theorem closesocket_replays (handle : Socket) :
    Replays [(.socket handle, none)] [.winsock (.closesocket handle)] [] :=
  replays_singleton (e := .release (.socket handle)) rfl (by simp [Ledger.step, Ledger.IsLive])

/-- The automaton refines the ledger. -/
theorem Phase.step_replays {phase after : Phase} (h : phase.step call = some after) :
    Replays phase.live [call] after.live := by
  unfold Phase.step at h
  split at h
  all_goals try rw [Option.ite_none_right_eq_some, Option.some.injEq] at h
  · obtain rfl := Option.some.inj h
    exact rfl
  · obtain rfl := Option.some.inj h
    exact replays_singleton rfl rfl
  · obtain ⟨rfl, rfl⟩ := h
    exact replays_of_use rfl (isLive_socket _)
  · obtain ⟨rfl, rfl⟩ := h
    rename_i handle rc
    have hlive : (if rc = 0 then switched handle else closing handle).live =
        [(.socket handle, none)] := by
      split
      · rfl
      · rfl
    rw [hlive]
    apply Replays.uses
    intro e he
    rw [ledgerOf_cons, ledgerOf_nil, List.append_nil] at he
    exact use_of_mem_useOf (isLive_socket handle) he
  · obtain ⟨rfl, rfl⟩ := h
    rename_i p handle
    rw [Replays, ledgerOf_cons, ledgerOf_nil, List.append_nil, SshCall.ledger, acquireOf]
    by_cases hnull : p = nullptr
    · rw [if_pos hnull, if_pos hnull]
      rfl
    · have hfresh : ¬Ledger.IsLive [((.socket handle : Resource), none)] (.session p) := by
        simp [Ledger.IsLive]
      rw [if_neg hnull, if_neg hnull, run_cons, Ledger.step, live, if_pos ⟨hfresh, fun q hq =>
        isLive_of_mem_socketResource (isLive_socket handle) hq⟩]
      rfl
  · obtain ⟨rfl, rfl⟩ := h
    rename_i handle p
    have hnone : socketResource handle ≠ some (.session p) := by
      unfold socketResource
      split
      · exact (Option.some_ne_none _).symm
      · simp
    apply replays_singleton rfl
    rw [Ledger.step, if_pos]
    · simp [live, SessionPhase.objects, sessionLive]
    · constructor
      · exact SessionPhase.isLive_session _ _ _
      · simp [live, SessionPhase.objects, sessionLive, hnone]
  · obtain ⟨next, hnext, rfl⟩ := Option.map_eq_some_iff.mp h
    exact SessionPhase.step_replays hnext
  · obtain ⟨rfl, rfl⟩ := h
    exact closesocket_replays _
  · obtain ⟨rfl, rfl⟩ := h
    exact closesocket_replays _
  · cases h

end Calls

theorem Accepts.replays {before after : Phase} {calls : List SshCall}
    (h : Accepts before calls after) : Replays before.live calls after.live := by
  induction calls generalizing before with
  | nil =>
      obtain rfl := Option.some.inj h
      exact .nil
  | cons call calls ih =>
      rw [Accepts, run_cons, Option.bind_eq_some_iff] at h
      obtain ⟨middle, hstep, hrest⟩ := h
      exact .cons (Phase.step_replays hstep) (ih hrest)

/-- Winsock's calls in the ledger of all objects. -/
theorem balanced_winsock {events : List SocketEvent}
    (h : Ledger.Balanced (events.map SocketEvent.ledger)) :
    Ledger.Balanced (ledgerOf (events.map .winsock)) := by
  have hledger : ledgerOf (events.map .winsock) =
      (events.map SocketEvent.ledger).map (Ledger.Event.rename .socket) := by
    rw [ledgerOf, List.flatMap_map, List.map_map]
    exact List.flatMap_pure_eq_map _ _
  rw [hledger]
  exact h.rename fun _ _ h => Resource.socket.inj h

/-- Calls in order from nothing open to nothing open give back what they get. -/
theorem Accepts.balanced {calls : List SshCall} (h : Accepts .idle calls .idle) :
    Ledger.Balanced (ledgerOf calls) := h.replays

end DeviceDiscovery.Ssh
