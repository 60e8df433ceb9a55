import DeviceDiscovery.Scanner.BannerStream

/-!
Servers that send other lines first.

RFC 4253 section 4.2 lets a server send any number of lines before the one that
identifies it, as long as none of them begins with `SSH-`. `read_ssh_banner`
collects until it sees a newline and classifies the first line of what it has, so
it sees the identification of a server exactly when no other line comes first.
-/

namespace DeviceDiscovery.Scanner

open Foundation DeviceDiscovery.Platform

/-- What a server sends: lines that do not begin with `SSH-`, the line that
identifies it, and its end with whatever follows. -/
structure ServerStream where
  preamble : List Bytes
  identification : Bytes
  ending : Bytes
  plain : ∀ line ∈ preamble, ('\n' : UInt8) ∉ line ∧ isSshIdentification line = false
  identifies : isSshIdentification identification = true
  oneLine : ('\n' : UInt8) ∉ identification
  ended : ending.head?.all (· == ('\n' : UInt8)) = true
  short : (unlines ('\n' : UInt8) preamble ++ (identification ++ ending.take 1)).length ≤ 512

namespace ServerStream

variable (stream : ServerStream)

def bytes : Bytes :=
  unlines ('\n' : UInt8) stream.preamble ++ (stream.identification ++ stream.ending)

/-- The server is detected, and shown as it identifies itself. -/
def Identified (result : SshProbeResult) : Prop :=
  result.status = .sshDetected ∧ result.banner = sanitizeBanner stream.identification

/-- The stream begins with `SSH-` exactly when no other line comes first. -/
theorem isSshIdentification_bytes_iff :
    isSshIdentification stream.bytes = true ↔ stream.preamble = [] := by
  have hline : ('\n' : UInt8) ∉ Foundation.bytes "SSH-" := by decide
  simp only [isSshIdentification, List.isPrefixOf_iff_prefix]
  cases hpreamble : stream.preamble with
  | nil =>
      have hid : Foundation.bytes "SSH-" <+: stream.identification :=
        List.isPrefixOf_iff_prefix.mp stream.identifies
      rw [bytes, hpreamble, unlines_nil, List.nil_append]
      exact iff_of_true (hid.trans (List.prefix_append _ _)) rfl
  | cons line lines =>
      have hplain := (stream.plain line (by simp [hpreamble])).2
      rw [bytes, hpreamble, unlines_cons, List.append_assoc, List.cons_append,
        prefix_append_cons_iff hline, ← List.isPrefixOf_iff_prefix]
      refine iff_of_false ?_ (List.cons_ne_nil line lines)
      rw [Bool.not_eq_true]
      exact hplain

/-- Without other lines the bytes up to any place behind the cap are shown as the
identification is. -/
theorem sanitizeBanner_take_bytes (hnone : stream.preamble = []) {k : ℕ} (hk : 512 ≤ k) :
    sanitizeBanner (stream.bytes.take k) = sanitizeBanner stream.identification := by
  have hshort := stream.short
  have hended := stream.ended
  rw [hnone, unlines_nil, List.nil_append, List.length_append] at hshort
  rw [bytes, hnone, unlines_nil, List.nil_append, List.take_append,
    List.take_of_length_le (by omega)]
  cases hending : stream.ending with
  | nil => rw [List.take_nil, List.append_nil]
  | cons c rest =>
      rw [hending, List.take_succ_cons, List.take_zero, List.length_singleton] at hshort
      rw [hending] at hended
      have hc : c = ('\n' : UInt8) := by simpa using hended
      obtain ⟨m, hm⟩ : ∃ m, k - stream.identification.length = m + 1 :=
        Nat.exists_eq_add_one.mpr (by omega)
      rw [hm, List.take_succ_cons]
      exact sanitizeBanner_line (by rw [hc]; decide) _ _

end ServerStream

/-- However its stream is cut, a server is identified exactly when it sends no
other line first. -/
theorem identified_iff (stream : ServerStream) (os : BannerAnswers) (handle : Socket) (ip : Bytes)
    (timeout : ℤ) (h : Delivers (deadlineOf os.start timeout) stream.bytes os.turns) :
    stream.Identified (readSshBanner os handle ip timeout).1 ↔ stream.preamble = [] := by
  obtain ⟨k, hk, -, hresult⟩ := readSshBanner_of_delivers h handle ip
  have hcap : kMaxBannerBytes = 512 := rfl
  have hfour : isSshIdentification (stream.bytes.take k) = isSshIdentification stream.bytes := by
    rw [Bool.eq_iff_iff, isSshIdentification_iff, isSshIdentification_iff, List.take_take,
      Nat.min_eq_left (by omega)]
  obtain ⟨-, hdetected, -⟩ := classifyBanner_status ip (stream.bytes.take k)
  rw [ServerStream.Identified, hresult, hdetected, hfour, stream.isSshIdentification_bytes_iff,
    classifyBanner_banner]
  refine and_iff_left_of_imp fun hnone => ?_
  exact stream.sanitizeBanner_take_bytes hnone (by omega)

/-- A server that identifies itself at once. -/
def quietServer : ServerStream where
  preamble := []
  identification := "SSH-2.0-OpenSSH_9.6\r"
  ending := "\n"
  plain _ h := nomatch h
  identifies := by decide
  oneLine := by decide
  ended := by decide
  short := by decide

theorem identified_iff_sample : quietServer.Identified
    (readSshBanner ⟨0, [quietServer.bytes].map (deliver 1000000000)⟩ 64 "10.0.0.2" 1000).1 := by
  have hdelivers : Delivers (deadlineOf 0 1000) [quietServer.bytes].flatten
      ([quietServer.bytes].map (deliver 1000000000)) := delivers_second _ (by decide)
  exact (identified_iff quietServer ⟨0, _⟩ 64 "10.0.0.2" 1000 hdelivers).mpr rfl

/-- A server with a line for its users before the identification. -/
def greetingServer : ServerStream where
  preamble := ["Authorised use only\r"]
  identification := "SSH-2.0-OpenSSH_9.6\r"
  ending := "\n"
  plain := by decide
  identifies := by decide
  oneLine := by decide
  ended := by decide
  short := by decide

theorem not_identified_greeting :
    let os : BannerAnswers := ⟨0, [greetingServer.bytes].map (deliver 1000000000)⟩
    Delivers (deadlineOf os.start 1000) greetingServer.bytes os.turns ∧
      ¬greetingServer.Identified (readSshBanner os 64 "10.0.0.2" 1000).1 := by
  have hdelivers : Delivers (deadlineOf 0 1000) [greetingServer.bytes].flatten
      ([greetingServer.bytes].map (deliver 1000000000)) := delivers_second _ (by decide)
  refine ⟨hdelivers, fun h => ?_⟩
  have hstatus : (readSshBanner ⟨0, [greetingServer.bytes].map (deliver 1000000000)⟩ 64
      "10.0.0.2" 1000).1.status = .notSsh := by decide
  cases hstatus.symm.trans h.1

end DeviceDiscovery.Scanner
