import DeviceDiscovery.Scanner.PortScanner

/-!
The SSH banner probe (`scanner/ssh_detector.cpp`).
-/

namespace DeviceDiscovery.Scanner

open Foundation DeviceDiscovery.Platform

def kMaxBannerBytes : ℕ := 512

inductive SshProbeStatus where
  | sshDetected
  | notSsh
  | noBanner
  | portClosed
  | timeout
  | unreachable
  | error
  deriving DecidableEq, Repr

structure SshProbeResult where
  ip : Bytes
  status : SshProbeStatus := .error
  banner : Bytes := []
  deriving DecidableEq, Repr

def SshProbeResult.isSsh (r : SshProbeResult) : Bool := r.status == .sshDetected

def isSshIdentification (line : Bytes) : Bool := (bytes "SSH-").isPrefixOf line

/-- A printable byte stays, any other becomes a question mark. -/
def sanitizeByte (c : UInt8) : UInt8 := if 0x20 ≤ c ∧ c < 0x7f then c else '?'

/-- The loop of `sanitize_banner` stops at the first end of line. -/
def isLineEnd (c : UInt8) : Bool := c == '\r' || c == '\n'

def sanitizeBanner (raw : Bytes) : Bytes :=
  ((raw.takeWhile fun c => !isLineEnd c).map sanitizeByte).rdropWhile fun c => c == (' ' : UInt8)

/-! ### Reading the banner -/

/-- What one turn of the read loop observes: the clock in nanoseconds, the
result of the poll, and the bytes `recv` stored, none of them when it reports
the end of the stream or an error. -/
structure BannerTurn where
  now : ℤ
  pollRc : ℤ
  received : Bytes
  deriving DecidableEq, Repr

/-- `duration_cast` of a count of nanoseconds to milliseconds. -/
def toMilliseconds (nanoseconds : ℤ) : ℤ := nanoseconds.tdiv 1000000

/-- The read loop. When the turns are used up the deadline has passed. -/
def readLoop (handle : Socket) (deadline : ℤ) (buffer : Bytes) :
    List BannerTurn → Bytes × List SocketEvent
  | [] => (buffer, [])
  | turn :: turns =>
      if turn.now ≥ deadline then (buffer, [])
      else
        let poll := waitForSocket handle false (toMilliseconds (deadline - turn.now))
        if turn.pollRc ≤ 0 then (buffer, [poll])
        else
          let calls := [poll, .call handle .recv]
          if turn.received = [] then (buffer, calls)
          else
            let buffer := buffer ++ turn.received
            if ('\n' : UInt8) ∈ buffer ∨ buffer.length ≥ kMaxBannerBytes then (buffer, calls)
            else
              let rest := readLoop handle deadline buffer turns
              (rest.1, calls ++ rest.2)

/-- The end of `read_ssh_banner`: what the bytes read mean. -/
def classifyBanner (ip buffer : Bytes) : SshProbeResult :=
  if buffer = [] then { ip := ip, status := .noBanner }
  else
    let banner := sanitizeBanner buffer
    let status : SshProbeStatus := if isSshIdentification banner then .sshDetected else .notSsh
    { ip := ip, status := status, banner := banner }

/-- The answers to a banner read: the clock at its start and the turns. -/
structure BannerAnswers where
  start : ℤ
  turns : List BannerTurn
  deriving DecidableEq, Repr

def readSshBanner (os : BannerAnswers) (handle : Socket) (ip : Bytes) (timeout : ℤ) :
    SshProbeResult × List SocketEvent :=
  let deadline := deadlineOf os.start timeout
  let buffer := readLoop handle deadline [] os.turns
  (classifyBanner ip buffer.1, buffer.2)

/-! ### Probing one address -/

structure ProbeAnswers where
  connect : ConnectAnswers
  banner : BannerAnswers
  deriving DecidableEq, Repr

def probeSsh (os : ProbeAnswers) (ip : Bytes) (connectTimeout bannerTimeout : ℤ) :
    SshProbeResult × List SocketEvent :=
  let attempt := tcpConnect os.connect ip connectTimeout
  match attempt.result with
  | .connected =>
      let result := readSshBanner os.banner attempt.outSocket ip bannerTimeout
      (result.1, attempt.calls ++ result.2 ++ closeSocket attempt.outSocket)
  | .refused => ({ ip := ip, status := .portClosed }, attempt.calls)
  | .timedOut => ({ ip := ip, status := .timeout }, attempt.calls)
  | .unreachable => ({ ip := ip, status := .unreachable }, attempt.calls)
  | .error => ({ ip := ip, status := .error }, attempt.calls)

/-! ### What a detected server sent -/

/-- Only a byte that is shown unchanged gives anything but a question mark. -/
theorem eq_of_sanitizeByte {c d : UInt8} (h : sanitizeByte c = d) (hd : d ≠ '?') : c = d := by
  unfold sanitizeByte at h
  split at h
  · exact h
  · exact absurd h.symm hd

theorem eq_of_map_sanitizeByte {raw text : Bytes} (h : raw.map sanitizeByte = text)
    (htext : ∀ c ∈ text, c ≠ '?') : raw = text := by
  induction raw generalizing text with
  | nil => simpa using h
  | cons c raw ih =>
      obtain rfl : sanitizeByte c :: raw.map sanitizeByte = text := h
      have hc := eq_of_sanitizeByte rfl (htext (sanitizeByte c) (by simp))
      have hraw := ih rfl fun d hd => htext d (by simp [hd])
      rw [← hc, ← hraw]

/-- Sanitising cannot make an identification out of other bytes. -/
theorem isSshIdentification_of_sanitizeBanner {raw : Bytes}
    (h : isSshIdentification (sanitizeBanner raw) = true) : isSshIdentification raw = true := by
  have hprefix : bytes "SSH-" <+: sanitizeBanner raw := List.isPrefixOf_iff_prefix.mp h
  obtain ⟨rest, hrest⟩ := hprefix.trans (List.rdropWhile_prefix _ _)
  obtain ⟨front, back, hsplit, hfront, -⟩ := List.map_eq_append_iff.mp hrest.symm
  have hmark : ∀ c ∈ bytes "SSH-", c ≠ '?' := forall_mem_of_all (by decide)
  have hid := eq_of_map_sanitizeByte hfront hmark
  apply List.isPrefixOf_iff_prefix.mpr
  rw [← hid]
  calc front <+: front ++ back := List.prefix_append front back
    _ = raw.takeWhile fun c => !isLineEnd c := hsplit.symm
    _ <+: raw := List.takeWhile_prefix _

/-- A probe that detects a server has connected to its own address and read
bytes that begin with `SSH-`. -/
theorem probeSsh_detected {os : ProbeAnswers} {ip : Bytes} {connectTimeout bannerTimeout : ℤ}
    (h : (probeSsh os ip connectTimeout bannerTimeout).1.isSsh = true) :
    let attempt := tcpConnect os.connect ip connectTimeout
    (probeSsh os ip connectTimeout bannerTimeout).1.ip = ip ∧
      attempt.result = .connected ∧
      isSshIdentification (readLoop attempt.outSocket
        (deadlineOf os.banner.start bannerTimeout) [] os.banner.turns).1 = true := by
  extract_lets attempt
  unfold probeSsh at h ⊢
  cases hresult : attempt.result with
  | connected =>
      simp only [attempt] at hresult
      simp only [hresult, readSshBanner, SshProbeResult.isSsh] at h ⊢
      revert h
      generalize (readLoop _ _ [] _).1 = buffer
      intro h
      unfold classifyBanner at h ⊢
      split at h
      · simp at h
      · rename_i hbuffer
        rw [if_neg hbuffer]
        refine ⟨rfl, trivial, ?_⟩
        by_cases hid : isSshIdentification (sanitizeBanner buffer) = true
        · exact isSshIdentification_of_sanitizeBanner hid
        · simp [hid] at h
  | refused | timedOut | unreachable | error =>
      simp only [attempt] at hresult
      simp [hresult, SshProbeResult.isSsh] at h

end DeviceDiscovery.Scanner
