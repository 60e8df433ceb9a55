import DeviceDiscovery.Ssh.SshClient

/-!
What a client of the SSH client may rely on.

A client is driven by any sequence of calls in which `connect_and_authenticate`
is not called while a session is held, and is destroyed at the end. Along every
such run

* the password is offered only after a handshake that succeeded and, under the
  strict policy, a known-hosts check that matched;
* a failed connect leaves no session, no socket and an error text;
* every object is released exactly once, after what lives on it.

Each part of `connect_and_authenticate` has one lemma for its ledger, one for
its result and one for the credentials it offers.
-/

namespace DeviceDiscovery.Ssh

open Foundation DeviceDiscovery.Platform DeviceDiscovery.Scanner

/-! ### Runs of a client -/

/-- A use of the client, with the answers it gets. -/
inductive ClientCall where
  | connect (os : AuthAnswers)
  | execute (command : Bytes) (os : ExecuteAnswers)
  | disconnect
  deriving DecidableEq, Repr

/-- The once flag of libssh2, the client and the calls made so far. -/
structure ClientRun where
  flag : Option Bool
  client : SshClient
  calls : List SshCall
  deriving DecidableEq, Repr

namespace ClientRun

def start (flag : Option Bool) (config : SshConfig) : ClientRun := ⟨flag, { config := config }, []⟩

/-- A connect is refused while a session is held. -/
def step (env : Environment) (s : ClientRun) : ClientCall → Option ClientRun
  | .connect os =>
      if s.client.session ≠ nullptr then none
      else
        let invocation := s.client.connectAndAuthenticate env s.flag os
        some {
          flag := some (ensureLibssh2Initialised s.flag os.libssh2Init).1
          client := invocation.client
          calls := s.calls ++ invocation.calls }
  | .execute command os =>
      let invocation := s.client.execute command os
      some { s with client := invocation.client, calls := s.calls ++ invocation.calls }
  | .disconnect =>
      let invocation := s.client.disconnect
      some { s with client := invocation.client, calls := s.calls ++ invocation.calls }

/-- All calls of a client that the destructor ends. -/
def destroyed (s : ClientRun) : List SshCall := s.calls ++ s.client.disconnect.calls

end ClientRun

/-! ### What a client holds -/

namespace SshClient

/-- The live objects of a client between its calls. -/
def held (client : SshClient) : Ledger.Live Resource :=
  (if client.session = nullptr then []
    else [(.session client.session, socketResource client.socketHandle)]) ++
  (socketResource client.socketHandle).toList.map fun socket => (socket, none)

/-- Neither a session nor a socket is held. -/
def Idle (client : SshClient) : Prop :=
  client.session = nullptr ∧ client.socketHandle = kInvalidSocket

theorem held_of_idle {client : SshClient} (h : client.Idle) : client.held = [] := by
  simp [held, h.1, h.2, socketResource]

theorem isLive_session {client : SshClient} (h : client.session ≠ nullptr) :
    Ledger.IsLive client.held (.session client.session) := by
  simp [Ledger.IsLive, held, h]

theorem disconnect_idle (client : SshClient) : client.disconnect.client.Idle := ⟨rfl, rfl⟩

/-- Disconnecting releases the session, then its socket. -/
theorem disconnect_replays (client : SshClient) :
    Replays client.held client.disconnect.calls [] := by
  have hsocket : Replays ((socketResource client.socketHandle).toList.map fun r => (r, none))
      ((closeSocket client.socketHandle).map .winsock) [] := by
    unfold socketResource closeSocket
    split
    · rename_i hnone
      rw [if_neg (not_not.mpr hnone)]
      rfl
    · simp [Replays, ledgerOf_cons, SshCall.ledger, SocketEvent.ledger, Ledger.Event.rename,
        run_cons, Ledger.step, Ledger.IsLive]
  refine Replays.append ?_ hsocket
  unfold held
  by_cases hsession : client.session = nullptr
  · rw [if_pos hsession, if_neg (not_not.mpr hsession)]
    exact Replays.nil
  · rw [if_neg hsession, if_pos hsession]
    unfold socketResource
    split <;>
      simp [Replays, ledgerOf_cons, SshCall.ledger, run_cons, Ledger.step, Ledger.IsLive]

/-- An object on the session, used and freed. -/
theorem held_scope {client : SshClient} (hsession : client.session ≠ nullptr) (r : Resource)
    (hr : ∀ s, r ≠ .session s) (hr' : ∀ h, r ≠ .socket h)
    (uses : List (Ledger.Event Resource))
    (huses : ∀ e ∈ uses, e = .use r ∨ e = .use (.session client.session)) :
    run Ledger.step client.held (.use (.session client.session) ::
      .acquire r (some (.session client.session)) :: (uses ++ [.release r])) =
        some client.held := by
  have hlive := isLive_session hsession
  have hfresh : ¬Ledger.IsLive client.held r ∧ ∀ x ∈ client.held, x.2 ≠ some r := by
    unfold held socketResource
    rw [if_neg hsession]
    split <;> simp [Ledger.IsLive, hr, (hr' _).symm, hr']
  have hscope : run Ledger.step client.held (.acquire r (some (.session client.session)) ::
      (uses ++ [.release r])) = some client.held := by
    refine Ledger.run_scope hfresh.1 hfresh.2 (by simpa using hlive) ?_
    intro e he
    rcases huses e he with rfl | rfl
    · exact ⟨r, rfl, .inl rfl⟩
    · exact ⟨_, rfl, .inr hlive⟩
  rw [run_cons, Ledger.step, if_pos hlive]
  exact hscope

end SshClient

/-! ### The offer of the password -/

def SshCall.offersPassword : SshCall → Bool
  | .userauthPassword .. => true
  | _ => false

/-- The password has been offered and accepted. -/
def Authenticated (calls : List SshCall) : Prop :=
  ∃ session username password, .userauthPassword session username password 0 ∈ calls

/-- What must precede an offer of the password: a successful handshake of the
same session, not freed or replaced since, and under the strict policy a
known-hosts check since then that matched. -/
def JustifiedOffer (config : SshConfig) (before : List SshCall) : SshCall → Prop
  | .userauthPassword session _ _ _ =>
      ∃ earlier socket since, before = earlier ++ .sessionHandshake session socket 0 :: since ∧
        (∀ call ∈ since, call ≠ .sessionFree session ∧ ∀ s, call ≠ .sessionInit session s) ∧
        (config.hostKeyPolicy = .strict → ∃ knownHosts key typeMask,
          .knownhostCheckp knownHosts (cString config.host) config.port key typeMask
            knownhostCheckMatch ∈ since)
  | _ => True

theorem JustifiedOffer.append {config : SshConfig} (early before : List SshCall) (call : SshCall)
    (h : JustifiedOffer config before call) : JustifiedOffer config (early ++ before) call := by
  cases call
  case userauthPassword session username password rc =>
      obtain ⟨earlier, socket, since, rfl, hkept, hmatch⟩ := h
      exact ⟨early ++ earlier, socket, since, by rw [List.append_assoc], hkept, hmatch⟩
  all_goals trivial

theorem not_authenticated_of_no_offer {calls : List SshCall}
    (h : ∀ call ∈ calls, call.offersPassword = false) : ¬Authenticated calls := by
  rintro ⟨session, username, password, hmem⟩
  exact absurd (h _ hmem) (by simp [SshCall.offersPassword])

theorem authenticated_append_left {calls rest : List SshCall}
    (h : ∀ call ∈ calls, call.offersPassword = false) :
    Authenticated (calls ++ rest) ↔ Authenticated rest := by
  constructor
  · rintro ⟨session, username, password, hmem⟩
    rcases List.mem_append.mp hmem with hmem | hmem
    · exact absurd (h _ hmem) (by simp [SshCall.offersPassword])
    · exact ⟨session, username, password, hmem⟩
  · rintro ⟨session, username, password, hmem⟩
    exact ⟨session, username, password, List.mem_append_right _ hmem⟩

theorem authenticated_append_right {calls rest : List SshCall}
    (h : ∀ call ∈ rest, call.offersPassword = false) :
    Authenticated (calls ++ rest) ↔ Authenticated calls := by
  constructor
  · rintro ⟨session, username, password, hmem⟩
    rcases List.mem_append.mp hmem with hmem | hmem
    · exact ⟨session, username, password, hmem⟩
    · exact absurd (h _ hmem) (by simp [SshCall.offersPassword])
  · rintro ⟨session, username, password, hmem⟩
    exact ⟨session, username, password, List.mem_append_left _ hmem⟩

theorem disconnect_no_offer (client : SshClient) :
    ∀ call ∈ client.disconnect.calls, call.offersPassword = false := by
  intro call hcall
  rw [SshClient.disconnect] at hcall
  rcases List.mem_append.mp hcall with hcall | hcall
  · split at hcall
    · simp only [List.mem_cons, List.not_mem_nil, or_false] at hcall
      rcases hcall with rfl | rfl <;> rfl
    · simp at hcall
  · obtain ⟨event, -, rfl⟩ := List.mem_map.mp hcall
    rfl

theorem fail_no_offer {calls : List SshCall} (client : SshClient) (error : Bytes)
    (h : ∀ call ∈ calls, call.offersPassword = false) :
    ∀ call ∈ (client.fail error calls).calls, call.offersPassword = false := by
  intro call hcall
  rcases List.mem_append.mp hcall with hcall | hcall
  · exact h call hcall
  · exact disconnect_no_offer _ call hcall

/-- The password of `config` is offered once, or not at all. -/
def OffersAtMostOnce (config : SshConfig) (calls : List SshCall) : Prop :=
  (∀ call ∈ calls, call.offersPassword = false) ∨
    ∃ before session rc rest, calls = before ++ .userauthPassword session
        (cString config.username) (cString config.password) rc :: rest ∧
      ∀ call ∈ before ++ rest, call.offersPassword = false

namespace OffersAtMostOnce

variable {config : SshConfig} {calls rest : List SshCall}

theorem after (h : OffersAtMostOnce config rest)
    (hcalls : ∀ call ∈ calls, call.offersPassword = false) :
    OffersAtMostOnce config (calls ++ rest) := by
  obtain hsilent | ⟨before, session, rc, last, rfl, hsilent⟩ := h
  · exact .inl (List.forall_mem_append.mpr ⟨hcalls, hsilent⟩)
  · refine .inr ⟨calls ++ before, session, rc, last, by rw [List.append_assoc], ?_⟩
    rw [List.append_assoc]
    exact List.forall_mem_append.mpr ⟨hcalls, hsilent⟩

theorem before (h : OffersAtMostOnce config calls)
    (hrest : ∀ call ∈ rest, call.offersPassword = false) :
    OffersAtMostOnce config (calls ++ rest) := by
  obtain hsilent | ⟨early, session, rc, last, rfl, hsilent⟩ := h
  · exact .inl (List.forall_mem_append.mpr ⟨hsilent, hrest⟩)
  · refine .inr ⟨early, session, rc, last ++ rest, by simp, ?_⟩
    rw [← List.append_assoc]
    exact List.forall_mem_append.mpr ⟨hsilent, hrest⟩

theorem countP_le (h : OffersAtMostOnce config calls) :
    calls.countP SshCall.offersPassword ≤ 1 := by
  have hnone (calls : List SshCall) (h : ∀ call ∈ calls, call.offersPassword = false) :
      calls.countP SshCall.offersPassword = 0 := by
    rw [List.countP_eq_zero]
    intro call hcall
    simp [h call hcall]
  obtain hsilent | ⟨early, session, rc, last, rfl, hsilent⟩ := h
  · rw [hnone calls hsilent]
    exact Nat.zero_le 1
  · obtain ⟨hearly, hlast⟩ := List.forall_mem_append.mp hsilent
    rw [List.countP_append, List.countP_cons, hnone early hearly, hnone last hlast]
    simp [SshCall.offersPassword]

end OffersAtMostOnce

/-! ### The parts of a connect -/

/-- What a part of `connect_and_authenticate` does, started with `before` live. -/
structure Settles (before : Ledger.Live Resource) (invocation : Invocation Bool) : Prop where
  replays : Replays before invocation.calls invocation.client.held
  granted_iff : invocation.result = true ↔ Authenticated invocation.calls
  granted : invocation.result = true → invocation.client.session ≠ nullptr
  failed : invocation.result = false →
    invocation.client.Idle ∧ invocation.client.lastError ≠ []

namespace Settles

variable {before middle : Ledger.Live Resource} {invocation : Invocation Bool}
  {calls : List SshCall}

theorem after (h : Settles middle invocation) (hcalls : Replays before calls middle)
    (hoffer : ∀ call ∈ calls, call.offersPassword = false) :
    Settles before (invocation.after calls) where
  replays := hcalls.append h.replays
  granted_iff := h.granted_iff.trans (authenticated_append_left hoffer).symm
  granted := h.granted
  failed := h.failed

/-- A failure disconnects, so it leaves nothing behind. -/
theorem fail {client : SshClient} {error : Bytes} (herror : error ≠ [])
    (hcalls : Replays before calls client.held) (hnot : ¬Authenticated calls) :
    Settles before (client.fail error calls) where
  replays := hcalls.append (SshClient.disconnect_replays { client with lastError := error })
  granted_iff := iff_of_false Bool.false_ne_true
    (mt (authenticated_append_right (disconnect_no_offer _)).mp hnot)
  granted h := absurd h (by simp [SshClient.fail])
  failed _ := ⟨SshClient.disconnect_idle _, herror⟩

/-- A failure before there is anything to disconnect. -/
theorem refuse {client : SshClient} (hidle : client.Idle) {error : Bytes} (herror : error ≠ [])
    (hcalls : Replays [] calls []) (hoffer : ∀ call ∈ calls, call.offersPassword = false) :
    Settles [] ⟨false, { client with lastError := error }, calls⟩ where
  replays := hcalls.trans (congrArg some (SshClient.held_of_idle hidle).symm)
  granted_iff := iff_of_false Bool.false_ne_true (not_authenticated_of_no_offer hoffer)
  granted h := nomatch h
  failed _ := ⟨hidle, herror⟩

end Settles

section Parts

variable (env : Environment) (client : SshClient) (os : AuthAnswers)

/-- The host key is compared, or its status is unknown. -/
theorem checkHostKey_cases :
    ((checkHostKey env client os).1 = bytes "unknown" ∧
      ((checkHostKey env client os).2 = [.sessionHostkey client.session] ∨
        (os.knownHosts = nullptr ∧ (checkHostKey env client os).2 =
          [.sessionHostkey client.session, .knownhostInit client.session os.knownHosts]))) ∨
    (os.knownHosts ≠ nullptr ∧
      (checkHostKey env client os).1 = hostKeyStatusOf os.knownhostCheck ∧
      ∃ path key typeMask, (checkHostKey env client os).2 = [
        .sessionHostkey client.session, .knownhostInit client.session os.knownHosts,
        .knownhostReadfile os.knownHosts path,
        .knownhostCheckp os.knownHosts (cString client.config.host) client.config.port key typeMask
          os.knownhostCheck,
        .knownhostFree os.knownHosts]) := by
  unfold checkHostKey
  dsimp only
  generalize (if client.config.knownHostsPath = [] then defaultKnownHostsPath env
    else client.config.knownHostsPath) = path
  cases os.hostKey with
  | none => exact .inl ⟨rfl, .inl rfl⟩
  | some hostKey =>
      dsimp only
      by_cases hpath : path = []
      · rw [if_pos hpath]
        exact .inl ⟨rfl, .inl rfl⟩
      rw [if_neg hpath]
      by_cases hnull : os.knownHosts = nullptr
      · rw [if_pos hnull]
        exact .inl ⟨rfl, .inr ⟨hnull, rfl⟩⟩
      · rw [if_neg hnull]
        exact .inr ⟨hnull, rfl, _, _, _, rfl⟩

theorem checkHostKey_replays (hsession : client.session ≠ nullptr) :
    Replays client.held (checkHostKey env client os).2 client.held := by
  have hlive := SshClient.isLive_session hsession
  obtain ⟨-, hcalls | ⟨hnull, hcalls⟩⟩ | ⟨hnull, -, path, key, typeMask, hcalls⟩ :=
    checkHostKey_cases env client os
  · rw [hcalls]
    exact Replays.uses (by simpa [ledgerOf_cons, SshCall.ledger] using hlive)
  · rw [hcalls]
    exact Replays.uses (by simpa [ledgerOf_cons, SshCall.ledger, acquireOf, hnull] using hlive)
  · have hhostkey : Replays client.held [.sessionHostkey client.session] client.held :=
      Replays.uses (by simpa [ledgerOf_cons, SshCall.ledger] using hlive)
    -- The known-hosts object does not outlive the check.
    have hscope := SshClient.held_scope hsession (.knownHosts os.knownHosts) (by simp) (by simp)
      [.use (.knownHosts os.knownHosts), .use (.knownHosts os.knownHosts)] (by simp)
    rw [hcalls]
    refine hhostkey.cons ?_
    simpa [Replays, ledgerOf_cons, SshCall.ledger, acquireOf, hnull] using hscope

/-- Checking the host key neither offers the password nor touches the session. -/
theorem checkHostKey_keeps : ∀ call ∈ (checkHostKey env client os).2,
    call.offersPassword = false ∧ call ≠ .sessionFree client.session ∧
      ∀ socket, call ≠ .sessionInit client.session socket := by
  intro call hcall
  obtain ⟨-, hcalls | ⟨-, hcalls⟩⟩ | ⟨-, -, path, key, typeMask, hcalls⟩ :=
    checkHostKey_cases env client os
  all_goals
    rw [hcalls] at hcall
    simp only [List.mem_cons, List.not_mem_nil, or_false] at hcall
  · subst hcall
    simp [SshCall.offersPassword]
  · rcases hcall with rfl | rfl <;> simp [SshCall.offersPassword]
  · rcases hcall with rfl | rfl | rfl | rfl | rfl <;> simp [SshCall.offersPassword]

theorem hostKeyStatusOf_eq_match {check : ℤ} (h : hostKeyStatusOf check = bytes "match") :
    check = knownhostCheckMatch := by
  unfold hostKeyStatusOf at h
  split at h
  · assumption
  · split at h
    · exact absurd h (by decide)
    · split at h <;> exact absurd h (by decide)

/-- The status is `match` only after a check that matched. -/
theorem checkHostKey_of_match (h : (checkHostKey env client os).1 = bytes "match") :
    ∃ knownHosts key typeMask, .knownhostCheckp knownHosts (cString client.config.host)
      client.config.port key typeMask knownhostCheckMatch ∈ (checkHostKey env client os).2 := by
  obtain ⟨hunknown, -⟩ | ⟨-, hstatus, path, key, typeMask, hcalls⟩ :=
    checkHostKey_cases env client os
  · exact absurd (hunknown.symm.trans h) (by decide)
  · have hcheck := hostKeyStatusOf_eq_match (hstatus.symm.trans h)
    exact ⟨os.knownHosts, key, typeMask, by rw [hcalls, hcheck]; simp⟩

/-- Authentication offers the password at most once, after the host key check. -/
theorem verifyAndAuthenticate_calls : ∃ tail : List SshCall,
    (∀ call ∈ tail, call.offersPassword = false) ∧
    ((verifyAndAuthenticate env client os).calls = (checkHostKey env client os).2 ++ tail ∨
      (client.config.hostKeyPolicy = .strict → (checkHostKey env client os).1 = bytes "match") ∧
      (verifyAndAuthenticate env client os).calls = (checkHostKey env client os).2 ++
        [.userauthPassword client.session (cString client.config.username)
          (cString client.config.password) os.userauthRc] ++ tail) := by
  by_cases hstrict : client.config.hostKeyPolicy = .strict ∧
      (checkHostKey env client os).1 ≠ bytes "match"
  · rw [verifyAndAuthenticate, if_pos hstrict]
    exact ⟨_, disconnect_no_offer _, .inl rfl⟩
  rw [verifyAndAuthenticate, if_neg hstrict]
  have hmatch : client.config.hostKeyPolicy = .strict →
      (checkHostKey env client os).1 = bytes "match" :=
    fun h => not_not.mp (not_and.mp hstrict h)
  by_cases hrc : os.userauthRc ≠ 0
  · rw [if_pos hrc]
    exact ⟨_, disconnect_no_offer _, .inr ⟨hmatch, rfl⟩⟩
  · rw [if_neg hrc]
    exact ⟨[], by simp, .inr ⟨hmatch, (List.append_nil _).symm⟩⟩

theorem verifyAndAuthenticate_settles (hsession : client.session ≠ nullptr) :
    Settles client.held (verifyAndAuthenticate env client os) := by
  have hchecked := checkHostKey_replays env client os hsession
  have hsilent : ∀ call ∈ (checkHostKey env client os).2, call.offersPassword = false :=
    fun call hcall => (checkHostKey_keeps env client os call hcall).1
  have hoffer (username password : Bytes) (rc : ℤ) : Replays client.held
      ((checkHostKey env client os).2 ++ [.userauthPassword client.session username password rc])
      client.held := by
    refine hchecked.append (Replays.uses ?_)
    simpa [ledgerOf_cons, SshCall.ledger] using SshClient.isLive_session hsession
  refine iteInduction (motive := Settles client.held) (fun _ => ?_) fun _ =>
    iteInduction (motive := Settles client.held) (fun hrc => ?_) fun hrc => ?_
  · refine .fail ?_ hchecked (not_authenticated_of_no_offer hsilent)
    exact List.append_ne_nil_of_left_ne_nil (List.append_ne_nil_of_left_ne_nil (by decide) _) _
  · refine .fail ?_ (hoffer _ _ _) ?_
    · exact List.append_ne_nil_of_left_ne_nil (List.append_ne_nil_of_left_ne_nil (by decide) _) _
    · rw [authenticated_append_left hsilent]
      rintro ⟨session, username, password, hmem⟩
      simp only [List.mem_singleton, SshCall.userauthPassword.injEq] at hmem
      exact hrc hmem.2.2.2.symm
  · refine ⟨hoffer _ _ _, iff_of_true rfl ?_, fun _ => hsession, fun h => nomatch h⟩
    rw [authenticated_append_left hsilent]
    exact ⟨_, _, _, by rw [not_not.mp hrc]; exact List.mem_singleton_self _⟩

theorem libssh2ErrorText_ne_nil (session : Pointer) (last : SessionError) {fallback : Bytes}
    (h : fallback ≠ []) : libssh2ErrorText session last fallback ≠ [] := by
  unfold libssh2ErrorText
  split
  · exact h
  split
  all_goals simp [h]

/-- The calls of `openSession` up to the handshake. -/
def handshakeCalls : List SshCall := [.ioctlsocket client.socketHandle os.blockingRc] ++
  [.sessionInit os.session client.socketHandle] ++ [
    .sessionSetBlocking os.session 1,
    .sessionSetTimeout os.session (toInt32 client.config.authTimeout),
    .sessionHandshake os.session client.socketHandle os.handshakeRc]

theorem handshakeCalls_no_offer :
    ∀ call ∈ handshakeCalls client os, call.offersPassword = false := by
  intro call hcall
  simp only [handshakeCalls, List.cons_append, List.nil_append, List.mem_cons, List.not_mem_nil,
    or_false] at hcall
  rcases hcall with rfl | rfl | rfl | rfl | rfl <;> rfl

theorem ioctlsocket_replays (rc : ℤ) :
    Replays client.held [.ioctlsocket client.socketHandle rc] client.held := by
  apply Replays.uses
  by_cases hsocket : client.socketHandle = kInvalidSocket <;>
    simp [ledgerOf_cons, SshCall.ledger, useOf, socketResource, SshClient.held, hsocket,
      Ledger.IsLive]

/-- A session is created on the socket, if it is created at all. -/
theorem sessionInit_replays (hnone : client.session = nullptr) (session : Pointer) :
    Replays client.held [.sessionInit session client.socketHandle]
      { client with session := session }.held := by
  by_cases hsession : session = nullptr <;> by_cases hsocket : client.socketHandle = kInvalidSocket
  all_goals
    simp [Replays, ledgerOf_cons, SshCall.ledger, acquireOf, SshClient.held, socketResource, hnone,
      hsession, hsocket, run_cons, Ledger.step, Ledger.IsLive]

theorem handshakeCalls_replays (hnone : client.session = nullptr)
    (hsession : os.session ≠ nullptr) :
    Replays client.held (handshakeCalls client os) { client with session := os.session }.held := by
  refine ((ioctlsocket_replays client _).append (sessionInit_replays client hnone _)).append ?_
  apply Replays.uses
  by_cases hsocket : client.socketHandle = kInvalidSocket <;>
    simp [ledgerOf_cons, SshCall.ledger, useOf, socketResource, SshClient.held, hsocket, hsession,
      Ledger.IsLive]

theorem openSession_settles (hnone : client.session = nullptr) :
    Settles client.held (openSession env client os) := by
  refine iteInduction (motive := Settles client.held) (fun _ => ?_) fun _ =>
    iteInduction (motive := Settles client.held) (fun hnull => ?_) fun hsession =>
      iteInduction (motive := Settles client.held) (fun hrc => ?_) fun hrc => ?_
  · refine .fail ?_ (ioctlsocket_replays client _) (not_authenticated_of_no_offer ?_)
    · exact List.append_ne_nil_of_left_ne_nil (by decide) _
    · simp [SshCall.offersPassword]
  · refine .fail (by decide) ((ioctlsocket_replays client _).append
      (sessionInit_replays client hnone _)) (not_authenticated_of_no_offer ?_)
    simp [SshCall.offersPassword]
  · refine .fail (libssh2ErrorText_ne_nil _ _ (by decide))
      ((handshakeCalls_replays client os hnone hsession).append (Replays.uses ?_)) ?_
    · have hlive : Ledger.IsLive { client with session := os.session }.held
          (.session os.session) :=
        SshClient.isLive_session hsession
      simpa [ledgerOf_cons, SshCall.ledger] using hlive
    · refine (authenticated_append_left (handshakeCalls_no_offer client os)).not.mpr ?_
      exact not_authenticated_of_no_offer (by simp [SshCall.offersPassword])
  · have hsettles := verifyAndAuthenticate_settles env { client with session := os.session } os
      hsession
    exact hsettles.after (handshakeCalls_replays client os hnone hsession)
      (handshakeCalls_no_offer client os)

/-- What `openSession` calls, told by how far it gets. -/
theorem openSession_calls :
    (∀ call ∈ (openSession env client os).calls, call.offersPassword = false) ∨
    (os.handshakeRc = 0 ∧ (openSession env client os).calls = handshakeCalls client os ++
      (verifyAndAuthenticate env { client with session := os.session } os).calls) := by
  by_cases hblocking : os.blockingRc ≠ 0
  · rw [openSession, if_pos hblocking]
    exact .inl (fail_no_offer _ _ (by simp [SshCall.offersPassword]))
  rw [openSession, if_neg hblocking]
  by_cases hnull : os.session = nullptr
  · rw [if_pos hnull]
    exact .inl (fail_no_offer _ _ (by simp [SshCall.offersPassword]))
  rw [if_neg hnull]
  by_cases hrc : os.handshakeRc ≠ 0
  · rw [if_pos hrc]
    exact .inl (fail_no_offer _ _ (by simp [SshCall.offersPassword]))
  · rw [if_neg hrc]
    exact .inr ⟨not_not.mp hrc, rfl⟩

/-- The password is offered after the handshake and the check of this call. -/
theorem openSession_guarded :
    Guarded SshCall.offersPassword (JustifiedOffer client.config)
      (openSession env client os).calls := by
  obtain hsilent | ⟨hrc, hcalls⟩ := openSession_calls env client os
  · exact Guarded.nil.append_of_not_critical hsilent
  let session := { client with session := os.session }
  have hhandshake : Guarded SshCall.offersPassword (JustifiedOffer client.config)
      (handshakeCalls client os) :=
    Guarded.nil.append_of_not_critical (handshakeCalls_no_offer client os)
  have hkeeps := checkHostKey_keeps env session os
  have hchecked := hhandshake.append_of_not_critical fun call hcall => (hkeeps call hcall).1
  rw [hcalls]
  obtain ⟨tail, htail, hverify | ⟨hmatch, hverify⟩⟩ := verifyAndAuthenticate_calls env session os
  · rw [hverify, ← List.append_assoc]
    exact hchecked.append_of_not_critical htail
  · rw [hverify, ← List.append_assoc, ← List.append_assoc]
    refine (hchecked.concat fun _ => ?_).append_of_not_critical htail
    -- the handshake is the last of the calls before the host key check
    refine ⟨[.ioctlsocket client.socketHandle os.blockingRc,
      .sessionInit os.session client.socketHandle, .sessionSetBlocking os.session 1,
      .sessionSetTimeout os.session (toInt32 client.config.authTimeout)], client.socketHandle,
      (checkHostKey env session os).2, ?_, fun call hcall => (hkeeps call hcall).2,
      fun hstrict => checkHostKey_of_match env session os (hmatch hstrict)⟩
    simp [handshakeCalls, hrc, session]

theorem openSession_offersAtMostOnce :
    OffersAtMostOnce client.config (openSession env client os).calls := by
  obtain hsilent | ⟨-, hcalls⟩ := openSession_calls env client os
  · exact .inl hsilent
  let session : SshClient := { client with session := os.session }
  have hchecked : ∀ call ∈ (checkHostKey env session os).2, call.offersPassword = false :=
    fun call hcall => (checkHostKey_keeps env session os call hcall).1
  rw [hcalls]
  refine OffersAtMostOnce.after ?_ (handshakeCalls_no_offer client os)
  obtain ⟨tail, htail, hverify | ⟨-, hverify⟩⟩ := verifyAndAuthenticate_calls env session os
  · exact .inl (hverify ▸ List.forall_mem_append.mpr ⟨hchecked, htail⟩)
  · refine .inr ⟨_, os.session, os.userauthRc, tail, ?_,
      List.forall_mem_append.mpr ⟨hchecked, htail⟩⟩
    rw [hverify, List.append_assoc]
    rfl

end Parts

/-! ### The member functions -/

section Members

variable (env : Environment) (flag : Option Bool) (client : SshClient)

theorem winsock_no_offer (events : List SocketEvent) :
    ∀ call ∈ events.map SshCall.winsock, call.offersPassword = false := by
  intro call hcall
  obtain ⟨event, -, rfl⟩ := List.mem_map.mp hcall
  rfl

theorem ensureLibssh2Initialised_calls (rc : ℤ) :
    (ensureLibssh2Initialised flag rc).2 = [] ∨
      (ensureLibssh2Initialised flag rc).2 = [.libssh2Init rc] := by
  cases flag with
  | none => exact .inr rfl
  | some ready => exact .inl rfl

theorem ensureLibssh2Initialised_no_offer (rc : ℤ) :
    ∀ call ∈ (ensureLibssh2Initialised flag rc).2, call.offersPassword = false := by
  rcases ensureLibssh2Initialised_calls flag rc with h | h <;> simp [h, SshCall.offersPassword]

theorem ensureLibssh2Initialised_replays (live : Ledger.Live Resource) (rc : ℤ) :
    Replays live (ensureLibssh2Initialised flag rc).2 live := by
  rcases ensureLibssh2Initialised_calls flag rc with h | h <;>
    simp [h, Replays, ledgerOf_cons, SshCall.ledger]

/-- The attempt leaves the socket it hands out, if it hands out one. -/
theorem tcpConnect_replays (os : ConnectAnswers) (ip : Bytes) (timeout : ℤ)
    (hnone : client.session = nullptr) :
    Replays [] ((tcpConnect os ip timeout).calls.map .winsock)
      { client with socketHandle := (tcpConnect os ip timeout).outSocket }.held := by
  have hinjective : Function.Injective Resource.socket := fun _ _ h => Resource.socket.inj h
  have hrun := Ledger.run_rename hinjective []
    ((tcpConnect os ip timeout).calls.map SocketEvent.ledger)
  rw [(tcpConnect_accounted os ip timeout).held] at hrun
  have hledger (events : List SocketEvent) : ledgerOf (events.map .winsock) =
      (events.map SocketEvent.ledger).map (Ledger.Event.rename .socket) := by
    induction events with
    | nil => rfl
    | cons event events ih =>
        rw [List.map_cons, ledgerOf_cons, ih]
        rfl
  have hheld : (heldSocket (tcpConnect os ip timeout).outSocket).rename Resource.socket =
      { client with socketHandle := (tcpConnect os ip timeout).outSocket }.held := by
    unfold heldSocket SshClient.held socketResource
    rw [if_pos hnone]
    split <;> rfl
  rw [Replays, hledger]
  exact hrun.trans (congrArg some hheld)

theorem connectAndAuthenticate_settles (os : AuthAnswers) (hidle : client.Idle) :
    Settles [] (client.connectAndAuthenticate env flag os) := by
  have hinit := ensureLibssh2Initialised_replays flag [] os.libssh2Init
  have hsilent := ensureLibssh2Initialised_no_offer flag os.libssh2Init
  have htcp := hinit.append (tcpConnect_replays client os.connect client.config.host
    client.config.connectTimeout hidle.1)
  have htcp' := List.forall_mem_append.mpr ⟨hsilent, winsock_no_offer
    (tcpConnect os.connect client.config.host client.config.connectTimeout).calls⟩
  refine iteInduction (motive := Settles []) (fun _ => ?_) fun _ =>
    iteInduction (motive := Settles []) (fun hfailed => ?_) fun _ => ?_
  · exact .refuse hidle (by decide) hinit hsilent
  · refine .refuse hidle ?_ ?_ htcp'
    · exact List.append_ne_nil_of_left_ne_nil (List.append_ne_nil_of_left_ne_nil (by decide) _) _
    · have hsocket := (tcpConnect_accounted os.connect client.config.host
        client.config.connectTimeout).none_of_failed hfailed
      rw [hsocket] at htcp
      exact htcp.trans (congrArg some (SshClient.held_of_idle ⟨hidle.1, rfl⟩))
  · exact (openSession_settles env { client with
      socketHandle := (tcpConnect os.connect client.config.host
        client.config.connectTimeout).outSocket } os hidle.1).after htcp htcp'

theorem connectAndAuthenticate_guarded (os : AuthAnswers) :
    Guarded SshCall.offersPassword (JustifiedOffer client.config)
      (client.connectAndAuthenticate env flag os).calls := by
  have hsilent := ensureLibssh2Initialised_no_offer flag os.libssh2Init
  have htcp := List.forall_mem_append.mpr ⟨hsilent, winsock_no_offer
    (tcpConnect os.connect client.config.host client.config.connectTimeout).calls⟩
  refine iteInduction (motive := fun invocation : Invocation Bool =>
      Guarded SshCall.offersPassword (JustifiedOffer client.config) invocation.calls)
    (fun _ => ?_) fun _ => iteInduction (motive := fun invocation : Invocation Bool =>
      Guarded SshCall.offersPassword (JustifiedOffer client.config) invocation.calls)
    (fun _ => ?_) fun _ => ?_
  · exact Guarded.nil.append_of_not_critical hsilent
  · exact Guarded.nil.append_of_not_critical htcp
  · exact (Guarded.nil.append_of_not_critical htcp).append JustifiedOffer.append
      (openSession_guarded env _ os)

theorem connectAndAuthenticate_offersAtMostOnce (os : AuthAnswers) :
    OffersAtMostOnce client.config (client.connectAndAuthenticate env flag os).calls := by
  have hsilent := ensureLibssh2Initialised_no_offer flag os.libssh2Init
  have htcp := List.forall_mem_append.mpr ⟨hsilent, winsock_no_offer
    (tcpConnect os.connect client.config.host client.config.connectTimeout).calls⟩
  refine iteInduction (motive := fun invocation : Invocation Bool =>
      OffersAtMostOnce client.config invocation.calls) (fun _ => .inl hsilent) fun _ =>
    iteInduction (motive := fun invocation : Invocation Bool =>
      OffersAtMostOnce client.config invocation.calls) (fun _ => .inl htcp) fun _ => ?_
  exact (openSession_offersAtMostOnce env { client with
    socketHandle := (tcpConnect os.connect client.config.host
      client.config.connectTimeout).outSocket } os).after htcp

/-! ### Commands -/

/-- The reads of a loop use its channel. -/
theorem reads_use (channel : Pointer) (read : Pointer → ℤ → SshCall)
    (hread : ∀ result, (read channel result).ledger = [.use (.channel channel)])
    (results : List ℤ) :
    ∀ e ∈ ledgerOf (results.map (read channel)), e = .use (.channel channel) := by
  intro e he
  obtain ⟨call, hcall, he⟩ := List.mem_flatMap.mp he
  obtain ⟨result, -, rfl⟩ := List.mem_map.mp hcall
  rw [hread] at he
  exact List.mem_singleton.mp he

/-- Calls on a channel, from its opening to its end. -/
theorem channel_replays (hsession : client.session ≠ nullptr) {channel : Pointer}
    (hchannel : channel ≠ nullptr) (calls : List SshCall)
    (hcalls : ∀ e ∈ ledgerOf calls, e = .use (.channel channel) ∨
      e = .use (.session client.session)) (timeout : ℤ) :
    Replays client.held ([.sessionSetTimeout client.session timeout,
      .channelOpenSession client.session channel] ++ calls ++ [.channelFree channel])
      client.held := by
  have htimeout : Replays client.held [.sessionSetTimeout client.session timeout] client.held :=
    Replays.uses (by simpa [ledgerOf_cons, SshCall.ledger] using SshClient.isLive_session hsession)
  have hscope := SshClient.held_scope hsession (.channel channel) (by simp) (by simp) _ hcalls
  refine htimeout.cons ?_
  simpa [Replays, ledgerOf_cons, ledgerOf_append, SshCall.ledger, acquireOf, hchannel] using hscope

/-- A command frees its channel, leaves the session and offers no password. -/
theorem execute_keeps (command : Bytes) (os : ExecuteAnswers) :
    (client.execute command os).client = client ∧
      Replays client.held (client.execute command os).calls client.held ∧
      ∀ call ∈ (client.execute command os).calls, call.offersPassword = false := by
  by_cases hsession : client.session = nullptr
  · rw [SshClient.execute, if_pos hsession]
    exact ⟨rfl, Replays.nil, by simp⟩
  rw [SshClient.execute, if_neg hsession]
  by_cases hchannel : os.channel = nullptr
  · rw [if_pos hchannel]
    refine ⟨rfl, Replays.uses ?_, by simp [SshCall.offersPassword]⟩
    simpa [ledgerOf_cons, SshCall.ledger, acquireOf, hchannel] using
      SshClient.isLive_session hsession
  rw [if_neg hchannel]
  by_cases hrc : os.execRc ≠ 0
  · rw [if_pos hrc]
    refine ⟨rfl, ?_, by simp [SshCall.offersPassword]⟩
    refine channel_replays client hsession hchannel
      [.channelExec os.channel (cString command), .sessionLastError client.session] ?_ _
    simp [ledgerOf_cons, SshCall.ledger]
  · rw [if_neg hrc]
    have hout := reads_use os.channel .channelRead (fun _ => rfl) (readStream [] os.stdoutReads).2
    have herr := reads_use os.channel .channelReadStderr (fun _ => rfl)
      (readStream [] os.stderrReads).2
    have huses : ∀ e ∈ ledgerOf ([.channelExec os.channel (cString command)] ++
        (readStream [] os.stdoutReads).2.map (.channelRead os.channel) ++
        (readStream [] os.stderrReads).2.map (.channelReadStderr os.channel) ++
        [.channelClose os.channel, .channelGetExitStatus os.channel]),
        e = .use (.channel os.channel) := by
      simp only [ledgerOf_append, List.mem_append]
      rintro e (((he | he) | he) | he)
      · simpa [ledgerOf_cons, SshCall.ledger] using he
      · exact hout e he
      · exact herr e he
      · simpa [ledgerOf_cons, SshCall.ledger] using he
    have hreplays := channel_replays client hsession hchannel _ (fun e he => .inl (huses e he))
      (toInt32 client.config.commandTimeout)
    refine ⟨rfl, by simpa using hreplays, ?_⟩
    simp only [List.forall_mem_append, List.forall_mem_map]
    simp [SshCall.offersPassword]

/-- Without a session nothing is called. -/
theorem execute_without_session (hsession : client.session = nullptr) (command : Bytes)
    (os : ExecuteAnswers) :
    client.execute command os = ⟨{ error := "no authenticated SSH session" }, client, []⟩ := by
  rw [SshClient.execute, if_pos hsession]

end Members

/-! ### Runs -/

/-- What holds between the calls of a client. -/
structure ClientRun.Inv (config : SshConfig) (s : ClientRun) : Prop where
  config_eq : s.client.config = config
  idle_of_no_session : s.client.session = nullptr → s.client.Idle
  replays : Replays [] s.calls s.client.held
  guarded : Guarded SshCall.offersPassword (JustifiedOffer config) s.calls

theorem connectAndAuthenticate_config (env : Environment) (flag : Option Bool)
    (client : SshClient) (os : AuthAnswers) :
    (client.connectAndAuthenticate env flag os).client.config = client.config := by
  have hite {c : Prop} [Decidable c] {yes no : Invocation Bool}
      (hyes : yes.client.config = client.config) (hno : no.client.config = client.config) :
      (if c then yes else no).client.config = client.config := by
    split <;> assumption
  have hverify (session : Pointer) (socket : Socket) : (verifyAndAuthenticate env
      { client with session := session, socketHandle := socket } os).client.config =
        client.config :=
    hite rfl (hite rfl rfl)
  have hsession (socket : Socket) : (openSession env
      { client with socketHandle := socket } os).client.config = client.config :=
    hite rfl (hite rfl (hite rfl (hverify os.session socket)))
  exact hite rfl (hite rfl (hsession _))

namespace ClientRun

theorem inv_start (flag : Option Bool) (config : SshConfig) : (start flag config).Inv config where
  config_eq := rfl
  idle_of_no_session _ := ⟨rfl, rfl⟩
  replays := rfl
  guarded := Guarded.nil

theorem Inv.step {env : Environment} {config : SshConfig} {s t : ClientRun} {call : ClientCall}
    (h : s.Inv config) (hstep : ClientRun.step env s call = some t) : t.Inv config := by
  cases call with
  | connect os =>
      by_cases hsession : s.client.session ≠ nullptr
      · simp [ClientRun.step, hsession] at hstep
      have hidle := h.idle_of_no_session (not_not.mp hsession)
      have hsettles := connectAndAuthenticate_settles env s.flag s.client os hidle
      have hreplays := h.replays
      -- Nothing is held, so the connect starts from an empty ledger.
      rw [SshClient.held_of_idle hidle] at hreplays
      rw [ClientRun.step, if_neg hsession] at hstep
      obtain rfl := Option.some.inj hstep
      refine ⟨?_, fun hnone => ?_, hreplays.append hsettles.replays, ?_⟩
      · exact (connectAndAuthenticate_config env s.flag s.client os).trans h.config_eq
      · cases hresult : (s.client.connectAndAuthenticate env s.flag os).result with
        | true => exact absurd hnone (hsettles.granted hresult)
        | false => exact (hsettles.failed hresult).1
      · refine h.guarded.append JustifiedOffer.append ?_
        rw [← h.config_eq]
        exact connectAndAuthenticate_guarded env s.flag s.client os
  | execute command os =>
      obtain ⟨hclient, hreplays, hoffer⟩ := execute_keeps s.client command os
      obtain rfl := Option.some.inj hstep
      constructor
      · exact (congrArg SshClient.config hclient).trans h.config_eq
      · intro hnone
        rw [hclient] at hnone ⊢
        exact h.idle_of_no_session hnone
      · rw [hclient]
        exact h.replays.append hreplays
      · exact h.guarded.append_of_not_critical hoffer
  | disconnect =>
      obtain rfl := Option.some.inj hstep
      exact ⟨h.config_eq, fun _ => SshClient.disconnect_idle _,
        h.replays.append (SshClient.disconnect_replays _),
        h.guarded.append_of_not_critical (disconnect_no_offer _)⟩

theorem Inv.of_reachable {env : Environment} {flag : Option Bool} {config : SshConfig}
    {s : ClientRun} (h : Reachable (ClientRun.step env) (start flag config) s) : s.Inv config :=
  h.invariant (inv_start flag config) fun _ _ _ => Inv.step

/-- The contract of the client. In every run, ended by the destructor, the
password is offered only when justified, the trace of handles is balanced, every
acquisition has its release, and what is released is live and has nothing left
that depends on it; a connect returns true exactly when the offer is accepted,
and when it returns false nothing is held and there is an error; without a
session a command calls nothing and fails. -/
theorem client_contract (env : Environment) (flag : Option Bool) (config : SshConfig) :
    (∀ s, Reachable (ClientRun.step env) (start flag config) s →
      Guarded SshCall.offersPassword (JustifiedOffer config) s.destroyed ∧
      Ledger.Balanced (ledgerOf s.destroyed) ∧
      (∀ resource, Ledger.acquisitions resource (ledgerOf s.destroyed) =
        Ledger.releases resource (ledgerOf s.destroyed)) ∧
      ∀ before resource after, ledgerOf s.destroyed = before ++ .release resource :: after →
        ∃ live, run Ledger.step [] before = some live ∧
          Ledger.IsLive live resource ∧ ∀ x ∈ live, x.2 ≠ some resource) ∧
    (∀ s, Reachable (ClientRun.step env) (start flag config) s → s.client.session = nullptr →
      ∀ os, let invocation := s.client.connectAndAuthenticate env s.flag os
        (invocation.result = true ↔ Authenticated invocation.calls) ∧
        (invocation.result = false → invocation.client.session = nullptr ∧
          invocation.client.socketHandle = kInvalidSocket ∧ invocation.client.lastError ≠ [])) ∧
    (∀ s, Reachable (ClientRun.step env) (start flag config) s → s.client.session = nullptr →
      ∀ command os, let invocation := s.client.execute command os
        invocation.calls = [] ∧ invocation.client = s.client ∧ invocation.result.ok = false ∧
          invocation.result.error ≠ []) := by
  refine ⟨fun s hs => ?_, fun s hs hnone os => ?_, fun s hs hnone command os => ?_⟩
  · have hinv := Inv.of_reachable hs
    have hbalanced : Ledger.Balanced (ledgerOf s.destroyed) :=
      hinv.replays.append (SshClient.disconnect_replays s.client)
    refine ⟨hinv.guarded.append_of_not_critical (disconnect_no_offer s.client), hbalanced,
      hbalanced.acquisitions_eq_releases, ?_⟩
    intro before resource after hsplit
    rw [Ledger.Balanced, hsplit] at hbalanced
    exact Ledger.nothing_depends_of_release hbalanced
  · have hidle := (Inv.of_reachable hs).idle_of_no_session hnone
    have hsettles := connectAndAuthenticate_settles env s.flag s.client os hidle
    refine ⟨hsettles.granted_iff, fun hfalse => ?_⟩
    obtain ⟨⟨hsession, hsocket⟩, herror⟩ := hsettles.failed hfalse
    exact ⟨hsession, hsocket, herror⟩
  · rw [execute_without_session s.client hnone command os]
    refine ⟨rfl, rfl, rfl, ?_⟩
    show bytes "no authenticated SSH session" ≠ []
    decide

end ClientRun

end DeviceDiscovery.Ssh
