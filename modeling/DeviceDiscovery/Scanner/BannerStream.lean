import DeviceDiscovery.Scanner.SshDetector
import DeviceDiscovery.Foundation.Words

/-!
The banner as a function of the stream.

The peer sends a stream of bytes, and `recv` cuts it into pieces. The read loop
stops after the piece in which it sees a newline or reaches the cap, so where it
stops depends on the cut; but the piece is at most 128 bytes long, and what is
read means what the first `k` bytes of the stream mean, for some `k` from the cap
up to 127 bytes behind it (`readSshBanner_of_delivers`).
-/

namespace DeviceDiscovery.Scanner

open Foundation DeviceDiscovery.Platform

/-! ### Streams -/

/-- The size of the array that `recv` gets. -/
def chunkSize : ℕ := 128

/-- The next turn adds nothing: it comes too late, the poll fails, or the stream
has been closed or broken. -/
def Ended (deadline : ℤ) (turns : List BannerTurn) : Prop :=
  ∀ turn ∈ turns.head?, turn.now ≥ deadline ∨ turn.pollRc ≤ 0 ∨ turn.received = []

/-- The turns deliver the stream in pieces of 1 to 128 bytes before the deadline. -/
inductive Delivers (deadline : ℤ) : Bytes → List BannerTurn → Prop
  | ended {turns : List BannerTurn} (h : Ended deadline turns) : Delivers deadline [] turns
  | piece {turn : BannerTurn} {turns : List BannerTurn} {rest : Bytes}
      (hnow : turn.now < deadline) (hpoll : 0 < turn.pollRc) (hsome : turn.received ≠ [])
      (hsize : turn.received.length ≤ chunkSize) (hrest : Delivers deadline rest turns) :
      Delivers deadline (turn.received ++ rest) (turn :: turns)

/-- A turn just before the deadline that delivers `piece`. -/
def deliver (deadline : ℤ) (piece : Bytes) : BannerTurn := ⟨deadline - 1, 1, piece⟩

@[simp] theorem received_deliver (deadline : ℤ) (piece : Bytes) :
    (deliver deadline piece).received = piece := rfl

/-- Any cut into pieces of the right size is a way to deliver the stream. -/
theorem delivers_map {deadline : ℤ} (pieces : List Bytes)
    (h : ∀ piece ∈ pieces, piece ≠ [] ∧ piece.length ≤ chunkSize) :
    Delivers deadline pieces.flatten (pieces.map (deliver deadline)) := by
  induction pieces with
  | nil => exact .ended fun turn hturn => nomatch hturn
  | cons piece pieces ih =>
      obtain ⟨hsome, hsize⟩ := h piece (by simp)
      have hnow : (deliver deadline piece).now < deadline := Int.sub_one_lt_of_le (Int.le_refl _)
      exact .piece hnow Int.one_pos hsome hsize (ih fun p hp => h p (by simp [hp]))

section ReadLoop

variable {deadline : ℤ} {handle : Socket} {buffer : Bytes}

theorem readLoop_ended {turns : List BannerTurn} (h : Ended deadline turns) :
    (readLoop handle deadline buffer turns).1 = buffer := by
  cases turns with
  | nil => rfl
  | cons turn turns =>
      have hturn := h turn (by simp)
      simp only [readLoop]
      split
      · rfl
      split
      · rfl
      split
      · rfl
      · rename_i hnow hpoll hsome
        obtain hlate | hfailed | hnone := hturn
        · exact absurd hlate hnow
        · exact absurd hfailed hpoll
        · exact absurd hnone hsome

/-- One turn that delivers a piece. -/
theorem readLoop_piece {turn : BannerTurn} {turns : List BannerTurn} (hnow : turn.now < deadline)
    (hpoll : 0 < turn.pollRc) (hsome : turn.received ≠ []) :
    (readLoop handle deadline buffer (turn :: turns)).1 =
      if ('\n' : UInt8) ∈ buffer ++ turn.received ∨
          (buffer ++ turn.received).length ≥ kMaxBannerBytes then buffer ++ turn.received
      else (readLoop handle deadline (buffer ++ turn.received) turns).1 := by
  simp only [readLoop]
  rw [if_neg (by omega), if_neg (by omega), if_neg hsome]
  split <;> rfl

/-- The loop has read the stream up to its end, or a piece past the first newline
or the cap. -/
theorem readLoop_delivers {s : Bytes} {turns : List BannerTurn} (h : Delivers deadline s turns)
    (hline : ('\n' : UInt8) ∉ buffer) (hbuffer : buffer.length < kMaxBannerBytes) :
    ∃ n, (readLoop handle deadline buffer turns).1 = buffer ++ s.take n ∧
      buffer.length + n < kMaxBannerBytes + chunkSize ∧
      (n = s.length ∨ ('\n' : UInt8) ∈ s.take n ∨ kMaxBannerBytes ≤ buffer.length + n) := by
  have hchunk : chunkSize = 128 := rfl
  induction h generalizing buffer with
  | ended hended =>
      refine ⟨0, ?_, by omega, .inl rfl⟩
      rw [readLoop_ended hended, List.take_zero, List.append_nil]
  | @piece turn turns rest hnow hpoll hsome hsize hrest ih =>
      rw [readLoop_piece hnow hpoll hsome]
      split
      · rename_i hstop
        have htake : (turn.received ++ rest).take turn.received.length = turn.received :=
          List.take_left
        refine ⟨turn.received.length, by rw [htake], by omega, .inr ?_⟩
        rw [htake]
        obtain hnewline | hcap := hstop
        · exact .inl ((List.mem_append.mp hnewline).resolve_left hline)
        · rw [List.length_append] at hcap
          exact .inr hcap
      · rename_i hgoes
        rw [not_or] at hgoes
        obtain ⟨n, hread, hbound, hend⟩ := ih hgoes.1 (by omega)
        rw [List.length_append] at hbound hend
        have htake : (turn.received ++ rest).take (turn.received.length + n) =
            turn.received ++ rest.take n := List.take_length_add_append n
        refine ⟨turn.received.length + n, ?_, by omega, ?_⟩
        · rw [hread, htake, List.append_assoc]
        · rw [htake, List.length_append]
          obtain hall | hnewline | hcap := hend
          · exact .inl (by omega)
          · exact .inr (.inl (List.mem_append_right _ hnewline))
          · exact .inr (.inr (by omega))

end ReadLoop

/-! ### The text of a banner -/

/-- What is shown of a line does not depend on what stands behind its end. -/
theorem sanitizeBanner_line {c : UInt8} (hend : isLineEnd c = true) (s t : Bytes) :
    sanitizeBanner (s ++ c :: t) = sanitizeBanner s := by
  have hstop : ((c :: t).takeWhile fun c => !isLineEnd c) = [] :=
    List.takeWhile_cons_of_neg (by simp [hend])
  rw [sanitizeBanner, List.takeWhile_append, hstop, sanitizeBanner]
  split
  · rename_i hlength
    rw [List.append_nil, (List.takeWhile_prefix fun c => !isLineEnd c).eq_of_length hlength]
  · rfl

/-- Nothing behind the first end of line is shown. -/
theorem sanitizeBanner_append {s : Bytes} {c : UInt8} (hc : c ∈ s) (hend : isLineEnd c = true)
    (t : Bytes) : sanitizeBanner (s ++ t) = sanitizeBanner s := by
  obtain ⟨front, back, rfl⟩ := List.append_of_mem hc
  rw [List.append_assoc, List.cons_append, sanitizeBanner_line hend, sanitizeBanner_line hend]

theorem printable_sanitizeByte (c : UInt8) : 0x20 ≤ sanitizeByte c ∧ sanitizeByte c ≤ 0x7e := by
  unfold sanitizeByte
  split
  · rename_i hprintable
    obtain ⟨hlow, hhigh⟩ := hprintable
    refine ⟨hlow, UInt8.le_iff_toNat_le.mpr ?_⟩
    exact Nat.le_of_lt_succ (UInt8.lt_iff_toNat_lt.mp hhigh)
  · decide

theorem sanitizeByte_of_printable {c : UInt8} (hlow : 0x20 ≤ c) (hhigh : c ≤ 0x7e) :
    sanitizeByte c = c := by
  have hlt : c < 0x7f :=
    UInt8.lt_iff_toNat_lt.mpr (Nat.lt_succ_of_le (UInt8.le_iff_toNat_le.mp hhigh))
  rw [sanitizeByte, if_pos ⟨hlow, hlt⟩]

theorem printable_sanitizeBanner {raw : Bytes} :
    ∀ c ∈ sanitizeBanner raw, 0x20 ≤ c ∧ c ≤ 0x7e := by
  intro c hc
  obtain ⟨d, -, rfl⟩ := List.mem_map.mp ((List.rdropWhile_prefix _ _).subset hc)
  exact printable_sanitizeByte d

theorem getLast?_sanitizeBanner (raw : Bytes) :
    (sanitizeBanner raw).getLast? ≠ some (' ' : UInt8) := by
  intro hlast
  obtain ⟨init, hinit⟩ := List.getLast?_eq_some_iff.mp hlast
  have hstable : (sanitizeBanner raw).rdropWhile (fun c => c == (' ' : UInt8)) =
      sanitizeBanner raw := List.rdropWhile_idempotent _ _
  rw [hinit, List.rdropWhile_concat_pos _ _ _ (by decide)] at hstable
  have hle := (List.rdropWhile_prefix (fun c => c == (' ' : UInt8)) init).length_le
  rw [hstable, List.length_append, List.length_singleton] at hle
  omega

theorem sanitizeBanner_sanitizeBanner (raw : Bytes) :
    sanitizeBanner (sanitizeBanner raw) = sanitizeBanner raw := by
  have hline : (sanitizeBanner raw).takeWhile (fun c => !isLineEnd c) = sanitizeBanner raw := by
    rw [List.takeWhile_eq_self_iff]
    intro c hc
    have hlow := (printable_sanitizeBanner c hc).1
    rw [Bool.not_eq_true', Bool.eq_false_iff]
    intro hend
    simp only [isLineEnd, Bool.or_eq_true, beq_iff_eq] at hend
    obtain rfl | rfl := hend <;> exact absurd hlow (by decide)
  have hbytes : (sanitizeBanner raw).map sanitizeByte = sanitizeBanner raw := by
    conv_rhs => rw [← List.map_id (sanitizeBanner raw)]
    apply List.map_congr_left
    intro c hc
    obtain ⟨hlow, hhigh⟩ := printable_sanitizeBanner c hc
    exact sanitizeByte_of_printable hlow hhigh
  conv_lhs => rw [sanitizeBanner, hline, hbytes]
  exact List.rdropWhile_idempotent _ _

theorem isSshIdentification_iff {text : Bytes} :
    isSshIdentification text = true ↔ text.take 4 = bytes "SSH-" := by
  rw [isSshIdentification, List.isPrefixOf_iff_prefix, List.prefix_iff_eq_take, eq_comm]
  rfl

/-- The text that is shown identifies as SSH exactly when the bytes do. -/
theorem isSshIdentification_sanitizeBanner_iff {raw : Bytes} :
    isSshIdentification (sanitizeBanner raw) = true ↔ isSshIdentification raw = true := by
  constructor
  · exact isSshIdentification_of_sanitizeBanner
  · intro h
    obtain ⟨rest, rfl⟩ := List.isPrefixOf_iff_prefix.mp h
    have hplain : ∀ c ∈ bytes "SSH-", (!isLineEnd c) = true := forall_mem_of_all (by decide)
    have hbytes : (bytes "SSH-").map sanitizeByte = bytes "SSH-" := by decide
    apply List.isPrefixOf_iff_prefix.mpr
    rw [sanitizeBanner, List.takeWhile_append_of_pos hplain, List.map_append, hbytes]
    exact prefix_rdropWhile_append (by decide) _

/-! ### Any cut of the stream -/

theorem classifyBanner_congr {ip buffer buffer' : Bytes} (hnil : buffer = [] ↔ buffer' = [])
    (hshown : sanitizeBanner buffer = sanitizeBanner buffer') :
    classifyBanner ip buffer = classifyBanner ip buffer' := by
  unfold classifyBanner
  by_cases h : buffer = []
  · rw [if_pos h, if_pos (hnil.mp h)]
  · rw [if_neg h, if_neg (mt hnil.mpr h), hshown]

/-- Wherever the loop stops, the result is that of the first `k` bytes. -/
theorem readSshBanner_of_delivers {os : BannerAnswers} {timeout : ℤ} {s : Bytes}
    (h : Delivers (deadlineOf os.start timeout) s os.turns) (handle : Socket) (ip : Bytes) :
    ∃ k, kMaxBannerBytes ≤ k ∧ k < kMaxBannerBytes + chunkSize ∧
      (readSshBanner os handle ip timeout).1 = classifyBanner ip (s.take k) := by
  have hempty : ([] : Bytes).length < kMaxBannerBytes := by decide
  obtain ⟨n, hread, hbound, hend⟩ := readLoop_delivers h List.not_mem_nil hempty
  rw [List.nil_append] at hread
  rw [List.length_nil, Nat.zero_add] at hbound hend
  refine ⟨max n kMaxBannerBytes, Nat.le_max_right _ _, ?_, ?_⟩
  · rw [Nat.max_lt]
    exact ⟨hbound, by decide⟩
  rw [readSshBanner, hread]
  obtain hall | hnewline | hcap := hend
  · -- The whole stream has been read.
    rw [List.take_of_length_le (by omega), List.take_of_length_le (by omega)]
  · -- What stands behind the first end of line is not shown.
    have hsplit : s.take (max n kMaxBannerBytes) =
        s.take n ++ (s.drop n).take (max n kMaxBannerBytes - n) := by
      rw [← List.take_add]
      congr 1
      omega
    rw [hsplit]
    apply classifyBanner_congr
    · have hne := List.ne_nil_of_mem hnewline
      simp [hne]
    · rw [sanitizeBanner_append hnewline (by decide)]
  · rw [Nat.max_eq_left hcap]

theorem classifyBanner_status (ip buffer : Bytes) :
    ((classifyBanner ip buffer).status = .noBanner ↔ buffer = []) ∧
      ((classifyBanner ip buffer).status = .sshDetected ↔ isSshIdentification buffer = true) ∧
      ((classifyBanner ip buffer).status = .notSsh ↔
        buffer ≠ [] ∧ isSshIdentification buffer = false) := by
  unfold classifyBanner
  by_cases hnil : buffer = []
  · subst hnil
    simp [isSshIdentification, bytes]
    decide
  · rw [if_neg hnil]
    by_cases hssh : isSshIdentification buffer = true
    · simp [hnil, hssh, isSshIdentification_sanitizeBanner_iff.mpr hssh]
    · have hshown := mt isSshIdentification_sanitizeBanner_iff.mp hssh
      simp [hnil, hssh, hshown]

theorem classifyBanner_banner (ip buffer : Bytes) :
    (classifyBanner ip buffer).banner = sanitizeBanner buffer := by
  unfold classifyBanner
  split
  · rename_i hnil
    rw [hnil]
    rfl
  · rfl

/-- A line that ends before the cap, or a stream that does. -/
def EndsBeforeCap (s : Bytes) : Prop :=
  ('\n' : UInt8) ∈ s.take kMaxBannerBytes ∨ s.length < kMaxBannerBytes

theorem sanitizeBanner_take {s : Bytes} (h : EndsBeforeCap s) {k : ℕ} (hk : kMaxBannerBytes ≤ k) :
    sanitizeBanner (s.take k) = sanitizeBanner s := by
  obtain hnewline | hshort := h
  · have hmem : ('\n' : UInt8) ∈ s.take k := (List.take_subset_take_left s hk) hnewline
    conv_rhs => rw [← List.take_append_drop k s]
    rw [sanitizeBanner_append hmem (by decide)]
  · rw [List.take_of_length_le (by omega)]

/-- What the read makes of a stream, however `recv` cuts it. -/
theorem readSshBanner_of_stream (os : BannerAnswers) (handle : Socket) (ip : Bytes) (timeout : ℤ)
    (s : Bytes) (h : Delivers (deadlineOf os.start timeout) s os.turns) :
    let result := (readSshBanner os handle ip timeout).1
    (result.status = .noBanner ↔ s = []) ∧
      (result.status = .sshDetected ↔ s.take 4 = bytes "SSH-") ∧
      (result.status = .notSsh ↔ s ≠ [] ∧ s.take 4 ≠ bytes "SSH-") ∧
      (EndsBeforeCap s → result.banner = sanitizeBanner s ∧
        (∀ c ∈ result.banner, 0x20 ≤ c ∧ c ≤ 0x7e) ∧
        result.banner.getLast? ≠ some (' ' : UInt8) ∧
        sanitizeBanner result.banner = result.banner) := by
  obtain ⟨k, hk, -, hresult⟩ := readSshBanner_of_delivers h handle ip
  have hcap : kMaxBannerBytes = 512 := rfl
  have hnil : s.take k = [] ↔ s = [] := by
    rw [List.take_eq_nil_iff]
    exact ⟨fun h => h.resolve_left (by omega), .inr⟩
  have hssh : isSshIdentification (s.take k) = true ↔ s.take 4 = bytes "SSH-" := by
    rw [isSshIdentification_iff, List.take_take, Nat.min_eq_left (by omega)]
  obtain ⟨hnone, hdetected, hother⟩ := classifyBanner_status ip (s.take k)
  rw [hresult]
  refine ⟨hnone.trans hnil, hdetected.trans hssh, hother.trans ?_, fun hends => ?_⟩
  · rw [ne_eq, hnil, ← Bool.not_eq_true, hssh]
  · rw [classifyBanner_banner, sanitizeBanner_take hends hk]
    exact ⟨rfl, printable_sanitizeBanner, getLast?_sanitizeBanner s,
      sanitizeBanner_sanitizeBanner s⟩

/-- A cut that is delivered within the second that a read beginning at 0 may take. -/
theorem delivers_second (pieces : List Bytes)
    (h : ∀ piece ∈ pieces, piece ≠ [] ∧ piece.length ≤ chunkSize) :
    Delivers (deadlineOf 0 1000) pieces.flatten (pieces.map (deliver 1000000000)) := by
  have hdeadline : deadlineOf 0 1000 = 1000000000 := by decide
  rw [hdeadline]
  exact delivers_map pieces h

/-- A banner that arrives in two pieces. -/
theorem readSshBanner_of_stream_sample :
    (readSshBanner ⟨0, ["SS", "H-2.0\r\nx"].map (deliver 1000000000)⟩ 64 "10.0.0.2" 1000).1.status =
      .sshDetected := by
  have hdelivers : Delivers (deadlineOf 0 1000) (["SS", "H-2.0\r\nx"] : List Bytes).flatten
      (["SS", "H-2.0\r\nx"].map (deliver 1000000000)) := delivers_second _ (by decide)
  exact ((readSshBanner_of_stream ⟨0, _⟩ 64 "10.0.0.2" 1000 _ hdelivers).2.1).mpr (by decide)

/-! ### The cap -/

/-- The calls of `recv` that stored bytes: each turn before the last makes one, and
the last one makes one or none. -/
def successfulRecvs (os : BannerAnswers) (handle : Socket) (ip : Bytes) (timeout : ℤ) : ℕ :=
  let calls := (readSshBanner os handle ip timeout).2
  (os.turns.take (calls.count (.call handle .recv))).countP fun turn => turn.received ≠ []

/-- Each call that stores bytes brings the buffer closer to the cap. -/
theorem countP_recv_le {deadline : ℤ} {handle : Socket} {buffer : Bytes}
    (hbuffer : buffer.length < kMaxBannerBytes) (turns : List BannerTurn) :
    (turns.take ((readLoop handle deadline buffer turns).2.count (.call handle .recv))).countP
        (fun turn => turn.received ≠ []) ≤ kMaxBannerBytes - buffer.length := by
  induction turns generalizing buffer with
  | nil => simp
  | cons turn turns ih =>
      simp only [readLoop]
      split
      · simp
      split
      · simp [waitForSocket]
      split
      · rename_i hnone
        simp [waitForSocket, hnone]
      · rename_i hsome
        have hlength : 1 ≤ turn.received.length := List.length_pos_of_ne_nil hsome
        split
        · simp [waitForSocket, hsome]
          omega
        · rename_i hgoes
          rw [not_or] at hgoes
          have hshort : (buffer ++ turn.received).length < kMaxBannerBytes := by omega
          have hrest := ih hshort
          rw [List.length_append] at hgoes hrest
          simp [waitForSocket, hsome] at hrest ⊢
          omega

theorem successfulRecvs_le (os : BannerAnswers) (handle : Socket) (ip : Bytes) (timeout : ℤ) :
    successfulRecvs os handle ip timeout ≤ kMaxBannerBytes :=
  countP_recv_le (by decide) os.turns

/-- What the first line of a stream has between the cap and the furthest place
where the loop can stop. -/
def overrun (s : Bytes) : Bytes :=
  ((s.take (kMaxBannerBytes + chunkSize - 1)).takeWhile fun c => !isLineEnd c).drop kMaxBannerBytes

/-- The cap as a reader of the constant has it: no more calls than bytes, the same
banner for every cut, and a banner within the cap. The clock does not go back behind
the start of the read. -/
def Capped (start timeout : ℤ) (handle : Socket) (ip s : Bytes) : Prop :=
  ∀ turns turns', (∀ turn ∈ turns ++ turns', start ≤ turn.now) →
    Delivers (deadlineOf start timeout) s turns →
    Delivers (deadlineOf start timeout) s turns' →
      successfulRecvs ⟨start, turns⟩ handle ip timeout ≤ 512 ∧
      (readSshBanner ⟨start, turns⟩ handle ip timeout).1.banner =
        (readSshBanner ⟨start, turns'⟩ handle ip timeout).1.banner ∧
      (readSshBanner ⟨start, turns⟩ handle ip timeout).1.banner.length ≤ kMaxBannerBytes

/-- The first line of what has been read. -/
theorem sanitizeBanner_take_eq {s : Bytes} {k : ℕ} (hk : k < kMaxBannerBytes + chunkSize) :
    sanitizeBanner (s.take k) =
      ((((s.take (kMaxBannerBytes + chunkSize - 1)).takeWhile fun c => !isLineEnd c).take k).map
        sanitizeByte).rdropWhile fun c => c == (' ' : UInt8) := by
  rw [sanitizeBanner, List.take_takeWhile, List.take_take, Nat.min_eq_left (by omega)]

/-- Blanks behind the cap are cut off with the blanks before it. -/
theorem sanitizeBanner_take_of_overrun {s : Bytes} (h : ∀ c ∈ overrun s, c = (' ' : UInt8)) {k : ℕ}
    (hk : kMaxBannerBytes ≤ k) (hbound : k < kMaxBannerBytes + chunkSize) :
    sanitizeBanner (s.take k) = sanitizeBanner (s.take kMaxBannerBytes) := by
  rw [sanitizeBanner_take_eq hbound, sanitizeBanner_take_eq (k := kMaxBannerBytes) (by decide)]
  generalize hline : (s.take (kMaxBannerBytes + chunkSize - 1)).takeWhile
    (fun c => !isLineEnd c) = line
  have hsplit : line.take k =
      line.take kMaxBannerBytes ++ (line.drop kMaxBannerBytes).take (k - kMaxBannerBytes) := by
    rw [← List.take_add, Nat.add_sub_cancel' hk]
  rw [hsplit, List.map_append]
  apply rdropWhile_append_of_forall
  intro c hc
  obtain ⟨d, hd, rfl⟩ := List.mem_map.mp hc
  have hover : overrun s = line.drop kMaxBannerBytes := by
    rw [overrun, hline]
  have hblank : d = (' ' : UInt8) := h d (hover ▸ List.mem_of_mem_take hd)
  rw [hblank]
  decide

theorem length_sanitizeBanner_le (raw : Bytes) : (sanitizeBanner raw).length ≤ raw.length := by
  calc (sanitizeBanner raw).length
      ≤ ((raw.takeWhile fun c => !isLineEnd c).map sanitizeByte).length :=
        (List.rdropWhile_prefix _ _).length_le
    _ = (raw.takeWhile fun c => !isLineEnd c).length := List.length_map _
    _ ≤ raw.length := (List.takeWhile_prefix _).length_le

/-! ### A cut that overruns the cap -/

/-- Pieces that do not fill the buffer are read one after the other. -/
theorem readLoop_pieces {deadline : ℤ} {handle : Socket} {buffer : Bytes} {pieces : List Bytes}
    (hsome : ∀ piece ∈ pieces, piece ≠ []) (hline : ('\n' : UInt8) ∉ buffer ++ pieces.flatten)
    (hcap : (buffer ++ pieces.flatten).length < kMaxBannerBytes) (turns : List BannerTurn) :
    (readLoop handle deadline buffer (pieces.map (deliver deadline) ++ turns)).1 =
      (readLoop handle deadline (buffer ++ pieces.flatten) turns).1 := by
  induction pieces generalizing buffer with
  | nil => rw [List.flatten_nil, List.append_nil, List.map_nil, List.nil_append]
  | cons piece pieces ih =>
      rw [List.flatten_cons, ← List.append_assoc] at hline hcap ⊢
      have hnow : (deliver deadline piece).now < deadline := Int.sub_one_lt_of_le (Int.le_refl _)
      rw [List.map_cons, List.cons_append, readLoop_piece hnow Int.one_pos (hsome piece (by simp)),
        if_neg]
      · exact ih (fun p hp => hsome p (by simp [hp])) hline hcap
      · rintro (hnewline | hfull)
        · exact hline (List.mem_append_left _ hnewline)
        · rw [List.length_append] at hcap
          rw [received_deliver] at hfull
          omega

/-- Byte by byte up to the last place before the cap, and then as much as `recv`
can take. -/
def lateCut (s : Bytes) : List Bytes :=
  (s.take (kMaxBannerBytes - 1)).map (fun c => [c]) ++
    (s.drop (kMaxBannerBytes - 1)).take chunkSize ::
      (s.drop (kMaxBannerBytes + chunkSize - 1)).map fun c => [c]

theorem flatten_map_singleton (s : Bytes) : (s.map fun c => [c]).flatten = s :=
  List.flatMap_singleton' s

theorem flatten_lateCut (s : Bytes) : (lateCut s).flatten = s := by
  have hlast : s.drop (kMaxBannerBytes + chunkSize - 1) =
      (s.drop (kMaxBannerBytes - 1)).drop chunkSize := by
    rw [List.drop_drop]
    rfl
  rw [lateCut, List.flatten_append, List.flatten_cons, flatten_map_singleton,
    flatten_map_singleton, hlast, List.take_append_drop, List.take_append_drop]

theorem delivers_lateCut {deadline : ℤ} {s : Bytes} (hs : kMaxBannerBytes ≤ s.length) :
    Delivers deadline s ((lateCut s).map (deliver deadline)) := by
  have hcap : kMaxBannerBytes = 512 := rfl
  have hchunk : chunkSize = 128 := rfl
  have hsingle (t : Bytes) : ∀ piece ∈ t.map fun c => [c],
      piece ≠ [] ∧ piece.length ≤ chunkSize := by
    intro piece hpiece
    obtain ⟨c, -, rfl⟩ := List.mem_map.mp hpiece
    exact ⟨List.cons_ne_nil c [], show 1 ≤ 128 by omega⟩
  have hpieces : ∀ piece ∈ lateCut s, piece ≠ [] ∧ piece.length ≤ chunkSize := by
    intro piece hpiece
    obtain hfirst | hrest := List.mem_append.mp hpiece
    · exact hsingle _ piece hfirst
    · obtain rfl | hlast := List.mem_cons.mp hrest
      · refine ⟨?_, List.length_take_le _ _⟩
        rw [← List.length_pos_iff_ne_nil, List.length_take, List.length_drop]
        omega
      · exact hsingle _ piece hlast
  have h : Delivers deadline (lateCut s).flatten ((lateCut s).map (deliver deadline)) :=
    delivers_map (lateCut s) hpieces
  rwa [flatten_lateCut] at h

/-- A cut that is read as far as the loop can read. -/
theorem readLoop_lateCut {deadline : ℤ} {handle : Socket} {s : Bytes}
    (hline : ('\n' : UInt8) ∉ s.take (kMaxBannerBytes - 1)) (hs : kMaxBannerBytes ≤ s.length) :
    (readLoop handle deadline [] ((lateCut s).map (deliver deadline))).1 =
      s.take (kMaxBannerBytes + chunkSize - 1) := by
  have hcap : kMaxBannerBytes = 512 := rfl
  have hchunk : chunkSize = 128 := rfl
  have hnow : (deliver deadline ((s.drop (kMaxBannerBytes - 1)).take chunkSize)).now < deadline :=
    Int.sub_one_lt_of_le (Int.le_refl _)
  have hpiece : (s.drop (kMaxBannerBytes - 1)).take chunkSize ≠ [] := by
    rw [← List.length_pos_iff_ne_nil, List.length_take, List.length_drop]
    omega
  have htake : s.take (kMaxBannerBytes - 1) ++ (s.drop (kMaxBannerBytes - 1)).take chunkSize =
      s.take (kMaxBannerBytes + chunkSize - 1) := List.take_add.symm
  rw [lateCut, List.map_append, readLoop_pieces, List.nil_append, flatten_map_singleton,
    List.map_cons, readLoop_piece hnow Int.one_pos hpiece, if_pos]
  · rw [received_deliver, htake]
  · right
    rw [received_deliver, htake, List.length_take]
    omega
  · intro piece hmem
    obtain ⟨c, -, rfl⟩ := List.mem_map.mp hmem
    exact List.cons_ne_nil c []
  · rwa [List.nil_append, flatten_map_singleton]
  · rw [List.nil_append, flatten_map_singleton, List.length_take]
    omega

/-- A line that overruns the cap is shown behind the cap by some cut, if there is time
to read it. -/
theorem overrun_of_capped {start timeout : ℤ} {handle : Socket} {ip s : Bytes}
    (htime : start < deadlineOf start timeout) (h : Capped start timeout handle ip s) :
    ∀ c ∈ overrun s, c = (' ' : UInt8) := by
  intro c hc
  have hcap : kMaxBannerBytes = 512 := rfl
  have hchunk : chunkSize = 128 := rfl
  have hover := List.length_pos_of_mem hc
  rw [overrun, List.length_drop] at hover
  have hshown := List.takeWhile_prefix (fun c => !isLineEnd c)
    (l := s.take (kMaxBannerBytes + chunkSize - 1))
  have hlength : kMaxBannerBytes ≤ s.length := by
    have hle := hshown.length_le
    rw [List.length_take] at hle
    omega
  have hline : ('\n' : UInt8) ∉ s.take (kMaxBannerBytes - 1) := by
    intro hmem
    have hfirst : s.take (kMaxBannerBytes - 1) <+:
        (s.take (kMaxBannerBytes + chunkSize - 1)).takeWhile fun c => !isLineEnd c := by
      have hstart : s.take (kMaxBannerBytes - 1) <+: s := List.take_prefix _ _
      refine List.prefix_of_prefix_length_le hstart (hshown.trans (List.take_prefix _ _)) ?_
      rw [List.length_take]
      omega
    have hplain := List.mem_takeWhile_imp (hfirst.subset hmem)
    exact absurd hplain (by decide)
  have hdelivers : Delivers (deadlineOf start timeout) s
      ((lateCut s).map (deliver (deadlineOf start timeout))) := delivers_lateCut hlength
  have hclock : ∀ turn ∈ (lateCut s).map (deliver (deadlineOf start timeout)) ++
      (lateCut s).map (deliver (deadlineOf start timeout)), start ≤ turn.now := by
    intro turn hturn
    obtain ⟨piece, -, rfl⟩ := List.mem_map.mp (or_self_iff.mp (List.mem_append.mp hturn))
    exact Int.le_sub_one_of_lt htime
  obtain ⟨-, -, hshort⟩ := h _ _ hclock hdelivers hdelivers
  rw [readSshBanner, readLoop_lateCut hline hlength, classifyBanner_banner, sanitizeBanner,
    length_rdropWhile_le_iff, ← List.map_drop] at hshort
  have hblank := hshort _ (List.mem_map_of_mem hc)
  exact eq_of_sanitizeByte (beq_iff_eq.mp hblank) (by decide)

/-- Nothing is delivered before a deadline that has passed. -/
theorem eq_nil_of_delivers {start deadline : ℤ} {s : Bytes} {turns : List BannerTurn}
    (hpast : deadline ≤ start) (hclock : ∀ turn ∈ turns, start ≤ turn.now)
    (h : Delivers deadline s turns) : s = [] := by
  cases h with
  | ended hended => rfl
  | @piece turn turns rest hnow hpoll hsome hsize hrest =>
      have hstart := hclock turn List.mem_cons_self
      omega

theorem capped_of_overrun {start timeout : ℤ} {handle : Socket} {ip s : Bytes}
    (hover : ∀ c ∈ overrun s, c = (' ' : UInt8)) : Capped start timeout handle ip s := by
  intro turns turns' _ hturns hturns'
  have hbanner (turns : List BannerTurn) (h : Delivers (deadlineOf start timeout) s turns) :
      (readSshBanner ⟨start, turns⟩ handle ip timeout).1.banner =
        sanitizeBanner (s.take kMaxBannerBytes) := by
    have hos : Delivers (deadlineOf (⟨start, turns⟩ : BannerAnswers).start timeout) s turns := h
    obtain ⟨k, hk, hbound, hresult⟩ := readSshBanner_of_delivers hos handle ip
    rw [hresult, classifyBanner_banner, sanitizeBanner_take_of_overrun hover hk hbound]
  refine ⟨successfulRecvs_le _ _ _ _, ?_, ?_⟩
  · rw [hbanner turns hturns, hbanner turns' hturns']
  · rw [hbanner turns hturns]
    calc (sanitizeBanner (s.take kMaxBannerBytes)).length
        ≤ (s.take kMaxBannerBytes).length := length_sanitizeBanner_le _
      _ ≤ kMaxBannerBytes := List.length_take_le _ _

/-- The cap holds exactly when the first line has nothing but blanks behind it, as
far as the loop can read, or when the deadline is not after the start and nothing is
read at all. -/
theorem capped_iff (start timeout : ℤ) (handle : Socket) (ip s : Bytes) :
    Capped start timeout handle ip s ↔
      deadlineOf start timeout ≤ start ∨ ∀ c ∈ overrun s, c = (' ' : UInt8) := by
  constructor
  · intro h
    rcases le_or_gt (deadlineOf start timeout) start with hpast | htime
    · exact .inl hpast
    · exact .inr (overrun_of_capped htime h)
  · rintro (hpast | hover)
    · intro turns turns' hclock hturns hturns'
      have hempty : s = [] := eq_nil_of_delivers hpast
        (fun turn hturn => hclock turn (List.mem_append_left _ hturn)) hturns
      have hover : ∀ c ∈ overrun s, c = (' ' : UInt8) := by
        rw [hempty]
        exact fun c hc => nomatch hc
      exact capped_of_overrun hover turns turns' hclock hturns hturns'
    · exact capped_of_overrun hover

/-- A line of 600 bytes. -/
theorem not_capped : ¬Capped 0 1000 64 "10.0.0.2" (List.replicate 600 'A') := by
  intro h
  have hover : overrun (List.replicate 600 'A') = List.replicate 88 'A' := by
    rw [overrun, List.take_replicate, List.takeWhile_replicate, if_pos (by decide),
      List.drop_replicate]
    rfl
  have hblank := overrun_of_capped (by decide) h ('A' : UInt8) (by rw [hover]; simp)
  exact absurd hblank (by decide)

end DeviceDiscovery.Scanner
