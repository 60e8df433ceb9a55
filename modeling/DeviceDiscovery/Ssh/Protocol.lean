import DeviceDiscovery.Scanner.SocketLedger
import DeviceDiscovery.Ssh.ClientContract

/-!
The order of the calls (`ssh/ssh_client.cpp`).

libssh2 has to be called in an order: a session is made on a connected socket in
blocking mode and shakes hands under a timeout; the password follows the host
key; channels are opened one at a time on an authenticated session, read up to
the end of stdout and then of stderr, closed, asked for the status and freed; a
session is disconnected before it is freed, and its socket is closed last. The
order is an automaton (`Phase.step`), and it accepts the calls of every client
(`client_protocol`).
-/

namespace DeviceDiscovery.Ssh

open Foundation DeviceDiscovery.Platform DeviceDiscovery.Scanner

/-! ### The automaton -/

/-- The known-hosts object, by what was done with it last. -/
inductive KnownHostsPhase where
  | made
  | loaded
  | checked
  deriving DecidableEq, Repr

inductive ChannelPhase where
  | opened
  | executed
  | refused
  | readingStdout
  | readingStderr
  | drained
  | closed
  | answered
  deriving DecidableEq, Repr

inductive SessionPhase where
  | made
  | blocking
  | bounded
  | shaken
  | identified
  | checking (knownHosts : Pointer) (phase : KnownHostsPhase)
  | authenticated
  | commanding
  | unopened
  | channel (channel : Pointer) (phase : ChannelPhase)
  | failed
  | disconnected
  deriving DecidableEq, Repr

inductive Phase where
  | idle
  | connecting (handle : Socket)
  | switched (handle : Socket)
  | session (handle : Socket) (session : Pointer) (phase : SessionPhase)
  | closing (handle : Socket)
  deriving DecidableEq, Repr

/-- A call on a channel that is open. -/
def ChannelPhase.step (c : Pointer) (phase : ChannelPhase) (call : SshCall) : Option ChannelPhase :=
  match phase, call with
  | .opened, .channelExec c' _ => if c' = c then some .executed else none
  | .executed, .channelRead c' result | .readingStdout, .channelRead c' result =>
      if c' = c then some (if 0 < result then .readingStdout else .readingStderr) else none
  | .readingStderr, .channelReadStderr c' result =>
      if c' = c then some (if 0 < result then .readingStderr else .drained) else none
  | .drained, .channelClose c' => if c' = c then some .closed else none
  | .closed, .channelGetExitStatus c' => if c' = c then some .answered else none
  | _, _ => none

def KnownHostsPhase.step (k : Pointer) (phase : KnownHostsPhase) (call : SshCall) :
    Option KnownHostsPhase :=
  match phase, call with
  | .made, .knownhostReadfile k' _ => if k' = k then some .loaded else none
  | .loaded, .knownhostCheckp k' _ _ _ _ _ => if k' = k then some .checked else none
  | _, _ => none

/-- A session may be left when something failed, once the host key is known, and
when it is authenticated. -/
def SessionPhase.leaves : SessionPhase → Bool
  | identified | authenticated | failed => true
  | _ => false

/-- A call on the session `p`, or on what depends on it. -/
def SessionPhase.step (handle : Socket) (p : Pointer) (phase : SessionPhase) (call : SshCall) :
    Option SessionPhase :=
  match phase, call with
  | .made, .sessionSetBlocking p' mode => if p' = p ∧ mode = 1 then some .blocking else none
  | .blocking, .sessionSetTimeout p' _ => if p' = p then some .bounded else none
  | .bounded, .sessionHandshake p' handle' rc =>
      if p' = p ∧ handle' = handle then some (if rc = 0 then .shaken else .failed) else none
  | .shaken, .sessionHostkey p' => if p' = p then some .identified else none
  | .identified, .knownhostInit p' k =>
      if p' = p then some (if k = nullptr then .identified else .checking k .made) else none
  | .checking k .checked, .knownhostFree k' => if k' = k then some .identified else none
  | .checking k phase, call => (phase.step k call).map (.checking k)
  | .identified, .userauthPassword p' _ _ rc =>
      if p' = p then some (if rc = 0 then .authenticated else .failed) else none
  | .authenticated, .sessionSetTimeout p' _ => if p' = p then some .commanding else none
  | .commanding, .channelOpenSession p' c =>
      if p' = p then some (if c = nullptr then .unopened else .channel c .opened) else none
  | .unopened, .sessionLastError p' => if p' = p then some .authenticated else none
  | .channel c .executed, .sessionLastError p' =>
      if p' = p then some (.channel c .refused) else none
  | .channel c .refused, .channelFree c' | .channel c .answered, .channelFree c' =>
      if c' = c then some .authenticated else none
  | .channel c phase, call => (phase.step c call).map (.channel c)
  | .failed, .sessionLastError p' => if p' = p then some .failed else none
  | phase, .sessionDisconnect p' _ =>
      if p' = p ∧ phase.leaves then some .disconnected else none
  | _, _ => none

/-- The phase that a call leads to, if it is in order. -/
def Phase.step (phase : Phase) (call : SshCall) : Option Phase :=
  match phase, call with
  | .idle, .libssh2Init _ => some .idle
  | .idle, .winsock (.socket handle) => some (.connecting handle)
  | .connecting handle, .winsock (.call handle' _) =>
      if handle' = handle then some (.connecting handle) else none
  | .connecting handle, .ioctlsocket handle' rc =>
      if handle' = handle then some (if rc = 0 then .switched handle else .closing handle)
      else none
  | .switched handle, .sessionInit p handle' =>
      if handle' = handle then
        some (if p = nullptr then .closing handle else .session handle p .made)
      else none
  | .session handle p .disconnected, .sessionFree p' =>
      if p' = p then some (.closing handle) else none
  | .session handle p phase, call => (phase.step handle p call).map (.session handle p)
  | .connecting handle, .winsock (.closesocket handle')
  | .closing handle, .winsock (.closesocket handle') =>
      if handle' = handle then some .idle else none
  | _, _ => none

/-- The calls lead from one phase to the other. -/
def Accepts (before : Phase) (calls : List SshCall) (after : Phase) : Prop :=
  run Phase.step before calls = some after

namespace Accepts

variable {before middle after : Phase} {calls rest : List SshCall}

theorem nil : Accepts before [] before := rfl

theorem append (h : Accepts before calls middle) (hrest : Accepts middle rest after) :
    Accepts before (calls ++ rest) after := by
  rw [Accepts, run_append, h]
  exact hrest

theorem cons {call : SshCall} (h : before.step call = some middle)
    (hrest : Accepts middle rest after) : Accepts before (call :: rest) after := by
  rw [Accepts, run_cons, h]
  exact hrest

end Accepts

/-! ### The parts of a client -/

/-- The phase in which a function of the client leaves it. -/
def SshClient.phase (client : SshClient) : Phase :=
  if client.session = nullptr then .idle
  else .session client.socketHandle client.session .authenticated

/-- A client between two calls: nothing is held, or a session on a socket. -/
def SshClient.Settled (client : SshClient) : Prop :=
  client.Idle ∨ client.session ≠ nullptr ∧ client.socketHandle ≠ kInvalidSocket

theorem SshClient.phase_of_idle {client : SshClient} (h : client.Idle) : client.phase = .idle :=
  if_pos h.1

theorem SshClient.phase_of_session {client : SshClient} (h : client.session ≠ nullptr) :
    client.phase = .session client.socketHandle client.session .authenticated :=
  if_neg h

section Parts

variable {client : SshClient} {handle : Socket} {session : Pointer}

theorem closeSocket_accepted (hhandle : handle ≠ kInvalidSocket) :
    Accepts (.closing handle) ((closeSocket handle).map .winsock) .idle := by
  have hclose : closeSocket handle = [.closesocket handle] := if_pos hhandle
  rw [hclose]
  exact .cons (by simp [Phase.step]) .nil

/-- A session is left, and then its socket. -/
theorem leave_accepted {phase : SessionPhase} (hleaves : phase.leaves = true)
    (hsession : client.session ≠ nullptr) (hhandle : client.socketHandle ≠ kInvalidSocket) :
    Accepts (.session client.socketHandle client.session phase) client.disconnect.calls .idle := by
  have hdisconnect (reason : Bytes) :
      Phase.step (.session client.socketHandle client.session phase)
        (.sessionDisconnect client.session reason) =
          some (.session client.socketHandle client.session .disconnected) := by
    cases phase with
    | identified | authenticated | failed =>
        simp [Phase.step, SessionPhase.step, SessionPhase.leaves]
    | _ => cases hleaves
  have hcalls : client.disconnect.calls =
      [.sessionDisconnect client.session "device-discovery finished",
        .sessionFree client.session] ++ (closeSocket client.socketHandle).map .winsock := by
    rw [SshClient.disconnect, if_pos hsession]
  have hfree : Phase.step (.session client.socketHandle client.session .disconnected)
      (.sessionFree client.session) = some (.closing client.socketHandle) := by
    simp [Phase.step]
  rw [hcalls]
  exact (Accepts.cons (hdisconnect _) (.cons hfree .nil)).append (closeSocket_accepted hhandle)

theorem disconnect_accepted (h : client.Settled) :
    Accepts client.phase client.disconnect.calls .idle := by
  rcases h with hidle | ⟨hsession, hhandle⟩
  · have hnothing : client.disconnect.calls = [] := by
      simp [SshClient.disconnect, closeSocket, hidle.1, hidle.2]
    rw [hnothing, SshClient.phase_of_idle hidle]
    exact .nil
  · rw [SshClient.phase_of_session hsession]
    exact leave_accepted rfl hsession hhandle

end Parts

/-! ### Connecting -/

/-- An invocation takes the phase `before` to the one it leaves its client in. -/
structure Ends (before : Phase) (invocation : Invocation Bool) : Prop where
  accepted : Accepts before invocation.calls invocation.client.phase
  settled : invocation.client.Settled

namespace Ends

variable {before middle : Phase} {invocation : Invocation Bool} {calls : List SshCall}

theorem after (h : Ends middle invocation) (hcalls : Accepts before calls middle) :
    Ends before (invocation.after calls) :=
  ⟨hcalls.append h.accepted, h.settled⟩

/-- A failure leaves nothing. -/
theorem fail {client : SshClient} {error : Bytes}
    (h : Accepts before (calls ++ client.disconnect.calls) .idle) :
    Ends before (client.fail error calls) := by
  have hidle : (client.fail error calls).client.Idle := SshClient.disconnect_idle _
  refine ⟨?_, .inl hidle⟩
  rw [SshClient.phase_of_idle hidle]
  exact h

theorem refuse {client : SshClient} (hidle : client.Idle) {error : Bytes}
    (h : Accepts before calls .idle) :
    Ends before ⟨false, { client with lastError := error }, calls⟩ := by
  have hidle' : { client with lastError := error : SshClient }.Idle := hidle
  refine ⟨?_, .inl hidle'⟩
  rw [SshClient.phase_of_idle hidle']
  exact h

end Ends

section Connect

variable (env : Environment) {client : SshClient} {os : AuthAnswers}

/-- The calls on one handle between `socket` and what follows the connection. -/
theorem connecting_accepted (handle : Socket) (functions : List SocketCall) :
    Accepts .idle ((Scanner.session handle functions).map .winsock) (.connecting handle) := by
  have hcalls : Accepts (.connecting handle)
      ((functions.map (SocketEvent.call handle)).map .winsock) (.connecting handle) := by
    induction functions with
    | nil => exact .nil
    | cons function rest ih => exact .cons (by simp [Phase.step]) ih
  exact .cons rfl hcalls

theorem tcpConnect_accepted {attempt : Attempt} (h : attempt.Outcome) :
    (attempt.result = .connected → attempt.outSocket ≠ kInvalidSocket ∧
      Accepts .idle (attempt.calls.map .winsock) (.connecting attempt.outSocket)) ∧
    (attempt.result ≠ .connected → Accepts .idle (attempt.calls.map .winsock) .idle) := by
  cases h with
  | nothing => exact ⟨(fun h => nomatch h), fun _ => .nil⟩
  | kept handle functions hvalid =>
      exact ⟨fun _ => ⟨hvalid, connecting_accepted handle functions⟩, fun h => absurd rfl h⟩
  | closed result handle functions hvalid hfailed =>
      refine ⟨fun h => absurd h hfailed, fun _ => ?_⟩
      rw [Attempt.closed, closeSocket_of_valid hvalid, List.map_append]
      exact (connecting_accepted handle functions).append (.cons (by simp [Phase.step]) .nil)

variable (client os) in
theorem checkHostKey_accepted (handle : Socket) :
    Accepts (.session handle client.session .shaken) (checkHostKey env client os).2
      (.session handle client.session .identified) := by
  have hidentified : Phase.step (.session handle client.session .shaken)
      (.sessionHostkey client.session) = some (.session handle client.session .identified) := by
    simp [Phase.step, SessionPhase.step]
  obtain ⟨-, hcalls | ⟨hnull, hcalls⟩⟩ | ⟨hknown, -, path, key, typeMask, hcalls⟩ :=
    checkHostKey_cases env client os
  · rw [hcalls]
    exact .cons hidentified .nil
  · rw [hcalls]
    exact .cons hidentified (.cons (by simp [Phase.step, SessionPhase.step, hnull]) .nil)
  · have hmade : Phase.step (.session handle client.session .identified)
        (.knownhostInit client.session os.knownHosts) =
          some (.session handle client.session (.checking os.knownHosts .made)) := by
      simp [Phase.step, SessionPhase.step, hknown]
    rw [hcalls]
    refine .cons hidentified (.cons hmade ?_)
    simp [Accepts, run_cons, Phase.step, SessionPhase.step, KnownHostsPhase.step]

theorem verifyAndAuthenticate_ends (hsession : client.session ≠ nullptr)
    (hhandle : client.socketHandle ≠ kInvalidSocket) :
    Ends (.session client.socketHandle client.session .shaken)
      (verifyAndAuthenticate env client os) := by
  have hchecked := checkHostKey_accepted env client os client.socketHandle
  have hoffer (username password : Bytes) {rc : ℤ} {phase : SessionPhase}
      (hrc : phase = if rc = 0 then .authenticated else .failed) :
      Accepts (.session client.socketHandle client.session .shaken)
        ((checkHostKey env client os).2 ++ [.userauthPassword client.session username password rc])
        (.session client.socketHandle client.session phase) :=
    hchecked.append (.cons (by simp [Phase.step, SessionPhase.step, hrc]) .nil)
  refine iteInduction (motive := Ends _) (fun _ => .fail ?_) fun _ =>
    iteInduction (motive := Ends _) (fun hrc => .fail ?_) fun hrc => ?_
  · exact hchecked.append (leave_accepted rfl hsession hhandle)
  · exact (hoffer _ _ (if_neg hrc).symm).append (leave_accepted rfl hsession hhandle)
  · have hphase : ({ client with hostKeyStatus := (checkHostKey env client os).1 } :
        SshClient).phase = .session client.socketHandle client.session .authenticated :=
      if_neg hsession
    refine ⟨?_, .inr ⟨hsession, hhandle⟩⟩
    rw [hphase]
    exact hoffer _ _ (if_pos (not_not.mp hrc)).symm

theorem openSession_ends (hnone : client.session = nullptr)
    (hhandle : client.socketHandle ≠ kInvalidSocket) :
    Ends (.connecting client.socketHandle) (openSession env client os) := by
  have hclose : Accepts (.closing client.socketHandle) client.disconnect.calls .idle := by
    rw [SshClient.disconnect, if_neg (not_not.mpr hnone)]
    exact closeSocket_accepted hhandle
  have hblocking {phase : Phase} (hphase : phase = if os.blockingRc = 0 then
      .switched client.socketHandle else .closing client.socketHandle) :
      Accepts (.connecting client.socketHandle) [.ioctlsocket client.socketHandle os.blockingRc]
        phase :=
    .cons (by simp [Phase.step, hphase]) .nil
  refine iteInduction (motive := Ends _) (fun hrc => .fail ?_) fun hrc =>
    iteInduction (motive := Ends _) (fun hnull => .fail ?_) fun hsession => ?_
  · exact (hblocking (if_neg hrc).symm).append hclose
  · -- No session was made, so there is only the socket to close.
    have hinit : Accepts (.switched client.socketHandle)
        [.sessionInit os.session client.socketHandle] (.closing client.socketHandle) :=
      .cons (by simp [Phase.step, show os.session = nullptr from hnull]) .nil
    have hclosed : Accepts (.closing client.socketHandle)
        { client with session := os.session : SshClient }.disconnect.calls .idle := by
      rw [show os.session = client.session from hnull.trans hnone.symm]
      exact hclose
    exact ((hblocking (if_pos (not_not.mp hrc)).symm).append hinit).append hclosed
  · have hsession' : os.session ≠ nullptr := hsession
    have hshake {phase : SessionPhase} (hphase : phase = if os.handshakeRc = 0 then
        SessionPhase.shaken else .failed) : Accepts (.connecting client.socketHandle)
        (handshakeCalls client os) (.session client.socketHandle os.session phase) := by
      refine (hblocking (if_pos (not_not.mp hrc)).symm).append ?_
      simp [Accepts, run_cons, Phase.step, SessionPhase.step, hsession', hphase]
    refine iteInduction (motive := Ends _) (fun hrc => .fail ?_) fun hrc => ?_
    · have herror : Accepts (.session client.socketHandle os.session .failed)
          [.sessionLastError os.session] (.session client.socketHandle os.session .failed) :=
        .cons (by simp [Phase.step, SessionPhase.step]) .nil
      exact ((hshake (if_neg hrc).symm).append herror).append
        (leave_accepted rfl hsession hhandle)
    · exact (verifyAndAuthenticate_ends env hsession hhandle).after
        (hshake (if_pos (not_not.mp hrc)).symm)

theorem connectAndAuthenticate_ends (flag : Option Bool) (hidle : client.Idle)
    (hos : os.connect.ReportsError) :
    Ends .idle (client.connectAndAuthenticate env flag os) := by
  have hinit : Accepts .idle (ensureLibssh2Initialised flag os.libssh2Init).2 .idle := by
    rcases ensureLibssh2Initialised_calls flag os.libssh2Init with h | h
    · rw [h]
      exact .nil
    · rw [h]
      exact .cons rfl .nil
  obtain ⟨hconnected, hfailed⟩ := tcpConnect_accepted
    (tcpConnect_outcome hos client.config.host client.config.connectTimeout)
  refine iteInduction (motive := Ends .idle) (fun _ => .refuse hidle hinit) fun _ =>
    iteInduction (motive := Ends .idle) (fun hresult => .refuse hidle (hinit.append
      (hfailed hresult))) fun hresult => ?_
  obtain ⟨hvalid, hcalls⟩ := hconnected (not_not.mp hresult)
  let connected : SshClient := { client with
    socketHandle := (tcpConnect os.connect client.config.host
      client.config.connectTimeout).outSocket }
  have hopen : Ends (.connecting connected.socketHandle) (openSession env connected os) :=
    openSession_ends env hidle.1 hvalid
  exact hopen.after (hinit.append hcalls)

end Connect

/-! ### Commands -/

section Commands

variable {client : SshClient} {handle : Socket} {p c : Pointer}

theorem readStdout_accepted {phase : ChannelPhase}
    (hphase : phase = .executed ∨ phase = .readingStdout) (data : Bytes) (reads : StreamReads) :
    Accepts (.session handle p (.channel c phase)) ((readStream data reads).2.map (.channelRead c))
      (.session handle p (.channel c .readingStderr)) := by
  have hstep (result : ℤ) : Phase.step (.session handle p (.channel c phase))
      (.channelRead c result) = some (.session handle p (.channel c
        (if 0 < result then .readingStdout else .readingStderr))) := by
    rcases hphase with rfl | rfl <;> simp [Phase.step, SessionPhase.step, ChannelPhase.step]
  induction reads generalizing data phase with
  | last code stops => exact .cons (by rw [hstep, if_neg (not_lt.mpr stops)]) .nil
  | more chunk rest ih =>
      have hsome : (0 : ℤ) < chunk.data.length :=
        Int.natCast_pos.mpr (List.length_pos_of_ne_nil chunk.some)
      refine .cons (by rw [hstep, if_pos hsome]) (ih (.inr rfl) _ ?_)
      intro result
      simp [Phase.step, SessionPhase.step, ChannelPhase.step]

theorem readStderr_accepted (data : Bytes) (reads : StreamReads) :
    Accepts (.session handle p (.channel c .readingStderr))
      ((readStream data reads).2.map (.channelReadStderr c))
      (.session handle p (.channel c .drained)) := by
  have hstep (result : ℤ) : Phase.step (.session handle p (.channel c .readingStderr))
      (.channelReadStderr c result) = some (.session handle p (.channel c
        (if 0 < result then .readingStderr else .drained))) := by
    simp [Phase.step, SessionPhase.step, ChannelPhase.step]
  induction reads generalizing data with
  | last code stops => exact .cons (by rw [hstep, if_neg (not_lt.mpr stops)]) .nil
  | more chunk rest ih =>
      have hsome : (0 : ℤ) < chunk.data.length :=
        Int.natCast_pos.mpr (List.length_pos_of_ne_nil chunk.some)
      exact .cons (by rw [hstep, if_pos hsome]) (ih _)

/-- A command begins and ends with an authenticated session. -/
theorem execute_accepted (client : SshClient) (command : Bytes) (os : ExecuteAnswers) :
    Accepts client.phase (client.execute command os).calls client.phase := by
  unfold SshClient.execute
  split
  · exact .nil
  rename_i hsession
  rw [SshClient.phase_of_session hsession]
  dsimp only
  split
  · rename_i hnull
    simp [Accepts, run_cons, Phase.step, SessionPhase.step, hnull]
  rename_i hchannel
  have hopen : Accepts (.session client.socketHandle client.session .authenticated)
      ([.sessionSetTimeout client.session (toInt32 client.config.commandTimeout),
        .channelOpenSession client.session os.channel] ++
          [.channelExec os.channel (cString command)])
      (.session client.socketHandle client.session (.channel os.channel .executed)) := by
    simp [Accepts, run_cons, Phase.step, SessionPhase.step, ChannelPhase.step, hchannel]
  split
  · refine hopen.append ?_
    simp [Accepts, run_cons, Phase.step, SessionPhase.step]
  · refine ((hopen.append (readStdout_accepted (.inl rfl) _ _)).append
      (readStderr_accepted _ _)).append ?_
    simp [Accepts, run_cons, Phase.step, SessionPhase.step, ChannelPhase.step]

end Commands

/-! ### The client -/

/-- The answers to a connect are those of a `connect` that reports its errors. -/
def ClientCall.ReportsError : ClientCall → Prop
  | .connect os => os.connect.ReportsError
  | _ => True

/-- Between two calls the client is settled, in the phase that the automaton is in. -/
structure ClientRun.InOrder (s : ClientRun) : Prop where
  accepted : Accepts .idle s.calls s.client.phase
  settled : s.client.Settled

theorem ClientRun.InOrder.step {env : Environment} {s t : ClientRun} {call : ClientCall}
    (h : s.InOrder) (hcall : call.ReportsError) (hstep : ClientRun.step env s call = some t) :
    t.InOrder := by
  cases call with
  | connect os =>
      by_cases hsession : s.client.session ≠ nullptr
      · simp [ClientRun.step, hsession] at hstep
      have hidle : s.client.Idle := by
        rcases h.settled with hidle | ⟨hheld, -⟩
        · exact hidle
        · exact absurd hheld hsession
      have haccepted := h.accepted
      rw [SshClient.phase_of_idle hidle] at haccepted
      have hends := connectAndAuthenticate_ends env s.flag hidle hcall
      rw [ClientRun.step, if_neg hsession] at hstep
      obtain rfl := Option.some.inj hstep
      exact ⟨haccepted.append hends.accepted, hends.settled⟩
  | execute command os =>
      have hclient := (execute_keeps s.client command os).1
      obtain rfl := Option.some.inj hstep
      constructor
      · show Accepts .idle _ (s.client.execute command os).client.phase
        rw [hclient]
        exact h.accepted.append (execute_accepted s.client command os)
      · show (s.client.execute command os).client.Settled
        rw [hclient]
        exact h.settled
  | disconnect =>
      obtain rfl := Option.some.inj hstep
      have hidle := SshClient.disconnect_idle s.client
      constructor
      · show Accepts .idle _ s.client.disconnect.client.phase
        rw [SshClient.phase_of_idle hidle]
        exact h.accepted.append (disconnect_accepted h.settled)
      · exact .inl hidle

theorem ClientRun.inOrder_start (flag : Option Bool) (config : SshConfig) :
    (ClientRun.start flag config).InOrder :=
  ⟨.nil, .inl ⟨rfl, rfl⟩⟩

/-- Whatever is called on a client in whatever order, with all answers of Winsock,
libssh2 and the peer: the calls that it makes, to those of its destructor, are in
the order of the automaton, and they leave nothing open. Between two calls of the
client there is nothing open, or an authenticated session without a channel. -/
theorem client_protocol (env : Environment) (flag : Option Bool) (config : SshConfig)
    (calls : List ClientCall) (hcalls : ∀ call ∈ calls, call.ReportsError) (s : ClientRun)
    (hrun : run (ClientRun.step env) (ClientRun.start flag config) calls = some s) :
    Accepts .idle s.calls s.client.phase ∧ Accepts .idle s.destroyed .idle ∧
      (s.client.Idle ∨ ∃ handle p, s.client.phase = .session handle p .authenticated) := by
  have hkept : ∀ calls s, run (ClientRun.step env) (ClientRun.start flag config) calls = some s →
      (∀ call ∈ calls, call.ReportsError) → s.InOrder := by
    apply run_induction
    · exact fun _ => ClientRun.inOrder_start flag config
    · intro as t a u _ ih hstep hreports
      have ht := ih fun call hcall => hreports call (List.mem_append_left _ hcall)
      exact ht.step (hreports a (by simp)) hstep
  have hs := hkept calls s hrun hcalls
  refine ⟨hs.accepted, hs.accepted.append (disconnect_accepted hs.settled), ?_⟩
  rcases hs.settled with hidle | ⟨hsession, -⟩
  · exact .inl hidle
  · exact .inr ⟨_, _, SshClient.phase_of_session hsession⟩

/-- A connect that is granted, a command whose output is cut short, and a disconnect. -/
def sampleClientCalls : List ClientCall := [
  .connect ⟨0, ⟨true, 7, true, 0, 0, 0, 0, 0⟩, 0, 0, 1, 0, ⟨0, []⟩, none, nullptr, 0, 0⟩,
  .execute "ifconfig" ⟨2, ⟨0, []⟩, 0, ⟨0, []⟩, .last (-7) (by decide), .last (-7) (by decide), 0⟩,
  .disconnect]

theorem client_protocol_sample :
    ∃ s, run (ClientRun.step ⟨fun _ => none, fun _ => none⟩)
        (ClientRun.start none { host := "10.0.0.1" }) sampleClientCalls = some s ∧
      s.calls.length = 22 ∧ Accepts .idle s.destroyed .idle := by
  have hreports : ∀ call ∈ sampleClientCalls, call.ReportsError := by
    simp [sampleClientCalls, ClientCall.ReportsError, ConnectAnswers.ReportsError]
  obtain ⟨s, hrun⟩ := Option.isSome_iff_exists.mp (show (run (ClientRun.step
    ⟨fun _ => none, fun _ => none⟩) (ClientRun.start none { host := "10.0.0.1" })
      sampleClientCalls).isSome by decide)
  refine ⟨s, hrun, ?_, (client_protocol _ none _ sampleClientCalls hreports s hrun).2.1⟩
  have hlength : (run (ClientRun.step ⟨fun _ => none, fun _ => none⟩)
      (ClientRun.start none { host := "10.0.0.1" }) sampleClientCalls).map
        (fun s => s.calls.length) = some 22 := by
    decide
  rw [hrun] at hlength
  exact Option.some.inj hlength

end DeviceDiscovery.Ssh
