import DeviceDiscovery.Main.Run
import DeviceDiscovery.Ssh.ClientContract
import Mathlib.Data.List.Forall2

/-!
What becomes of a time given on the command line.

The number is read by `strtoll`, kept in milliseconds, added to the clock in
nanoseconds, and narrowed to 32 bits for `WSAPoll` and for
`libssh2_session_set_timeout`. Each of the five options uses some of these
conversions, and each of them keeps the time up to a bound of its own.
-/

namespace DeviceDiscovery.Main

open Foundation DeviceDiscovery.Platform DeviceDiscovery.Network DeviceDiscovery.Scanner
  DeviceDiscovery.Ssh

/-! ### The number -/

/-- The text is a decimal numeral: white space, perhaps a plus sign, and digits. -/
def DenotesDecimal (text : Bytes) (v : ℕ) : Prop :=
  ∃ space sign digits, text = space ++ (sign ++ digits) ∧ IsGap isSpace space ∧
    (sign = [] ∨ sign = bytes "+") ∧ digits ≠ [] ∧ (∀ c ∈ digits, isDigit c = true) ∧
    decimalValue digits = v

/-- The first digit is neither white space nor a sign. -/
theorem head_of_isDigit {digits : Bytes} (hsome : digits ≠ [])
    (hdigits : ∀ c ∈ digits, isDigit c = true) :
    ∃ c rest, digits = c :: rest ∧ isSpace c = false ∧ c ≠ '-' ∧ c ≠ '+' := by
  cases digits with
  | nil => exact absurd rfl hsome
  | cons c rest =>
      have hc := hdigits c (by simp)
      refine ⟨c, rest, rfl, isSpace_eq_false_of_isDigit hc, ?_, ?_⟩
      · rintro rfl
        cases hc
      · rintro rfl
        cases hc

theorem strtoll_of_denotesDecimal {text : Bytes} {v : ℕ} (h : DenotesDecimal text v) :
    strtoll text = (min llongMax v, []) ∧ text ≠ [] := by
  obtain ⟨space, sign, digits, rfl, hspace, hsign, hsome, hdigits, rfl⟩ := h
  obtain ⟨c, rest, hcons, hc, hminus, hplus⟩ := head_of_isDigit hsome hdigits
  have htake : digits.takeWhile isDigit = digits := List.takeWhile_eq_self_iff.mpr hdigits
  have hdrop : digits.dropWhile isDigit = [] := List.dropWhile_eq_nil_iff.mpr hdigits
  have hvalue : max llongMin (min llongMax (decimalValue digits : ℤ)) =
      min llongMax (decimalValue digits : ℤ) := by
    have hmax : llongMax = 2 ^ 63 - 1 := rfl
    have hmin : llongMin = -2 ^ 63 := rfl
    omega
  refine ⟨?_, by simp [hsome]⟩
  rcases hsign with rfl | rfl
  · have hstart : (space ++ ([] ++ digits)).dropWhile isSpace = digits := by
      rw [List.nil_append, List.dropWhile_append_of_pos hspace, hcons,
        List.dropWhile_cons_of_neg (by simp [hc])]
    have hhead : digits.head? = some c := by
      rw [hcons]
      rfl
    simp only [strtoll, hstart, hhead, Option.some.injEq, hminus, hplus, decide_false,
      Bool.false_eq_true, or_false, if_false, htake, hdrop, hsome, hvalue]
  · have hplusText : bytes "+" ++ digits = ('+' : UInt8) :: digits := rfl
    have hstart : (space ++ (bytes "+" ++ digits)).dropWhile isSpace =
        ('+' : UInt8) :: digits := by
      rw [List.dropWhile_append_of_pos hspace, hplusText, List.dropWhile_cons_of_neg (by decide)]
    have hsign : ('+' : UInt8) ≠ '-' := by decide
    simp only [strtoll, hstart, List.head?_cons, List.tail_cons, Option.some.injEq, hsign,
      decide_false, Bool.false_eq_true, or_true, if_true, if_false, htake, hdrop, hsome, hvalue]

theorem denotesDecimal_of_strtoll {text : Bytes} (hmoved : (strtoll text).2 ≠ text)
    (hend : (strtoll text).2 = []) (hpositive : 0 < (strtoll text).1) :
    ∃ v, DenotesDecimal text v := by
  have hspace : IsGap isSpace (text.takeWhile isSpace) := fun c hc => List.mem_takeWhile_imp hc
  have htext : text = text.takeWhile isSpace ++ text.dropWhile isSpace :=
    List.takeWhile_append_dropWhile.symm
  unfold strtoll at hmoved hend hpositive
  dsimp only at hmoved hend hpositive
  generalize text.dropWhile isSpace = start at htext hmoved hend hpositive
  -- The digits are what follows the sign, all of them.
  have hnumeral (digits : Bytes) (hsome : digits.takeWhile isDigit ≠ [])
      (hend : digits.dropWhile isDigit = []) : digits ≠ [] ∧ ∀ c ∈ digits, isDigit c = true := by
    refine ⟨?_, List.dropWhile_eq_nil_iff.mp hend⟩
    rintro rfl
    exact hsome rfl
  by_cases hminus : start.head? = some ('-' : UInt8)
  · -- A number with a minus sign is not positive.
    simp only [hminus, decide_true, true_or, if_true] at hmoved hend hpositive
    split at hpositive
    · exact absurd hpositive (lt_irrefl 0)
    · have hmin : llongMin = -2 ^ 63 := rfl
      omega
  · simp only [hminus, decide_false, Bool.false_eq_true, false_or, if_false] at hmoved hend
    by_cases hplus : start.head? = some ('+' : UInt8)
    · rw [if_pos hplus] at hmoved hend
      split at hend
      · rename_i hnone
        exact absurd (if_pos hnone ▸ rfl) hmoved
      · rename_i hsome
        obtain ⟨hdigits, hall⟩ := hnumeral start.tail hsome hend
        have hstart : start = bytes "+" ++ start.tail := by
          rw [← List.cons_head?_tail hplus]
          rfl
        exact ⟨_, _, bytes "+", start.tail, by rw [← hstart]; exact htext, hspace, .inr rfl,
          hdigits, hall, rfl⟩
    · rw [if_neg hplus] at hmoved hend
      split at hend
      · rename_i hnone
        exact absurd (if_pos hnone ▸ rfl) hmoved
      · rename_i hsome
        obtain ⟨hdigits, hall⟩ := hnumeral start hsome hend
        exact ⟨_, _, [], start, htext, hspace, .inl rfl, hdigits, hall, rfl⟩

theorem parsePositive_of_denotesDecimal {text : Bytes} {v : ℕ} (h : DenotesDecimal text v) :
    parsePositive text = if 0 < v then some (min llongMax v) else none := by
  have hmax : llongMax = 2 ^ 63 - 1 := rfl
  obtain ⟨hread, hsome⟩ := strtoll_of_denotesDecimal h
  unfold parsePositive
  dsimp only
  rw [hread]
  by_cases hpositive : 0 < v
  · rw [if_pos hpositive, if_neg]
    simp only [not_or, not_not, not_le]
    exact ⟨hsome.symm, trivial, by omega⟩
  · rw [if_neg hpositive, if_pos]
    exact .inr (.inr (by omega))

/-- The texts that are accepted for a positive number, and what they are read as:
the number that is written, or the largest there is. -/
theorem parsePositive_eq_some_iff {text : Bytes} {s : ℤ} :
    parsePositive text = some s ↔ ∃ v : ℕ, DenotesDecimal text v ∧ 0 < v ∧ s = min llongMax v := by
  constructor
  · intro h
    have hread := h
    unfold parsePositive at hread
    dsimp only at hread
    split at hread
    · cases hread
    rename_i haccepted
    simp only [not_or, not_not, not_le] at haccepted
    obtain ⟨hmoved, hend, hpositive⟩ := haccepted
    obtain ⟨v, hdenotes⟩ := denotesDecimal_of_strtoll hmoved hend hpositive
    rw [parsePositive_of_denotesDecimal hdenotes] at h
    split at h
    · rename_i hv
      exact ⟨v, hdenotes, hv, (Option.some.inj h).symm⟩
    · cases h
  · rintro ⟨v, hdenotes, hpositive, rfl⟩
    rw [parsePositive_of_denotesDecimal hdenotes, if_pos hpositive]

/-! ### The options -/

inductive TimeoutOption where
  | timeout
  | bannerTimeout
  | authTimeout
  | commandTimeout
  | layer2Window

namespace TimeoutOption

def name : TimeoutOption → Bytes
  | timeout => "--timeout"
  | bannerTimeout => "--banner-timeout"
  | authTimeout => "--auth-timeout"
  | commandTimeout => "--command-timeout"
  | layer2Window => "--layer2-window"

def store : TimeoutOption → ℤ → Options → Options
  | timeout, value, options => { options with connectTimeout := value }
  | bannerTimeout, value, options => { options with bannerTimeout := value }
  | authTimeout, value, options => { options with authTimeout := value }
  | commandTimeout, value, options => { options with commandTimeout := value }
  | layer2Window, value, options => { options with layer2Window := value }

end TimeoutOption

/-- The two arguments are taken together, and the number goes into the options. -/
theorem parseOptions_timeout (o : TimeoutOption) {text : Bytes} {s : ℤ}
    (h : parsePositive text = some s) (rest : List Bytes) (options : Options) :
    parseOptions (o.name :: text :: rest) options = parseOptions rest (o.store s options) := by
  have hargument : argumentOf o.name = nextMs o.name o.store := by
    cases o <;> rfl
  rw [parseOptions_valued hargument, h]
  rfl

/-! ### Conversions -/

theorem toInt32_eq (v : ℤ) : toInt32 v =
    if v % 4294967296 < 2147483648 then v % 4294967296 else v % 4294967296 - 4294967296 := by
  rw [toInt32, BitVec.toInt_ofInt, Int.bmod_def]
  rfl

theorem toInt32_eq_self {v : ℤ} (h : 0 ≤ v) (hlt : v < 2147483648) : toInt32 v = v := by
  rw [toInt32_eq]
  split <;> omega

/-- Narrowing keeps a time positive and does not lengthen it while its low half is
positive. -/
theorem toInt32_within_iff {v : ℤ} (h : 0 < v) :
    (1 ≤ toInt32 v ∧ toInt32 v ≤ v) ↔ 1 ≤ v % 4294967296 ∧ v % 4294967296 < 2147483648 := by
  rw [toInt32_eq]
  split <;> omega

/-- A 64-bit result without overflow. -/
def InRange (x : ℤ) : Prop := llongMin ≤ x ∧ x ≤ llongMax

instance (x : ℤ) : Decidable (InRange x) := inferInstanceAs (Decidable (_ ∧ _))

/-- The time in nanoseconds and the point it ends at are computed without overflow. -/
def DeadlineFits (start v : ℤ) : Prop := InRange (v * 1000000) ∧ InRange (start + v * 1000000)

instance (start v : ℤ) : Decidable (DeadlineFits start v) := inferInstanceAs (Decidable (_ ∧ _))

theorem toInt64_eq_self {v : ℤ} (h : InRange v) : toInt64 v = v := by
  have hmin : llongMin = -2 ^ 63 := rfl
  have hmax : llongMax = 2 ^ 63 - 1 := rfl
  obtain ⟨hlow, hhigh⟩ := h
  rw [toInt64, BitVec.toInt_ofInt]
  exact Int.bmod_eq_of_le_mul_two (by push_cast; omega) (by push_cast; omega)

/-- A deadline that fits is the time `v` milliseconds later. -/
theorem deadlineOf_eq {start v : ℤ} (h : DeadlineFits start v) :
    deadlineOf start v = start + v * 1000000 := by
  rw [deadlineOf, toInt64_eq_self h.1, toInt64_eq_self h.2]

/-! ### Polls -/

/-- A timeout that neither outlasts the remaining milliseconds nor is over at once
while there are some, nor lasts for ever. -/
def PollWithin (remaining t : ℤ) : Prop := 0 ≤ t ∧ t ≤ remaining ∧ (1 ≤ remaining → t ≠ 0)

theorem pollWithin_iff {v t : ℤ} (h : 0 < v) : PollWithin v t ↔ 1 ≤ t ∧ t ≤ v := by
  unfold PollWithin
  omega

def pollTimeout? : SocketEvent → Option ℤ
  | .call _ (.poll _ t) => some t
  | _ => none

/-- The polls are those of the first turns of a loop, in order, and each is within
what then remains until the deadline. -/
def PollsWithin (deadline : ℤ) (clock : List ℤ) (calls : List SocketEvent) : Prop :=
  ∃ reached, reached <+: clock ∧ (∀ now ∈ reached, now < deadline) ∧
    List.Forall₂ (fun now t => PollWithin ((deadline - now).tdiv 1000000) t) reached
      (calls.filterMap pollTimeout?)

namespace PollsWithin

variable {deadline now : ℤ} {clock : List ℤ} {calls : List SocketEvent}

theorem nil : PollsWithin deadline clock [] :=
  ⟨[], List.nil_prefix, (fun _ h => nomatch h), .nil⟩

theorem poll (hnow : now < deadline) {handle : Socket} {forWrite : Bool} {t : ℤ}
    (ht : PollWithin ((deadline - now).tdiv 1000000) t) (h : PollsWithin deadline clock calls) :
    PollsWithin deadline (now :: clock) (.call handle (.poll forWrite t) :: calls) := by
  obtain ⟨reached, hprefix, hbefore, hpolls⟩ := h
  exact ⟨now :: reached, (List.prefix_cons_inj now).mpr hprefix,
    List.forall_mem_cons.mpr ⟨hnow, hbefore⟩, .cons ht hpolls⟩

/-- A call that is not a poll takes no turn. -/
theorem other {call : SocketEvent} (hcall : pollTimeout? call = none)
    (h : PollsWithin deadline clock calls) : PollsWithin deadline clock (call :: calls) := by
  obtain ⟨reached, hprefix, hbefore, hpolls⟩ := h
  exact ⟨reached, hprefix, hbefore, by rwa [List.filterMap_cons_none hcall]⟩

/-- Calls that are not polls, before and after a loop, make no difference. -/
theorem around {before after : List SocketEvent}
    (hbefore : ∀ call ∈ before, pollTimeout? call = none)
    (hafter : ∀ call ∈ after, pollTimeout? call = none) (h : PollsWithin deadline clock calls) :
    PollsWithin deadline clock (before ++ calls ++ after) := by
  obtain ⟨reached, hprefix, hearly, hpolls⟩ := h
  refine ⟨reached, hprefix, hearly, ?_⟩
  rw [List.filterMap_append, List.filterMap_append, List.filterMap_eq_nil_iff.mpr hbefore,
    List.filterMap_eq_nil_iff.mpr hafter, List.nil_append, List.append_nil]
  exact hpolls

end PollsWithin

theorem pollTimeout?_closeSocket (handle : Socket) :
    ∀ call ∈ closeSocket handle, pollTimeout? call = none := by
  intro call hcall
  unfold closeSocket at hcall
  split at hcall
  · rw [List.mem_singleton.mp hcall]
    rfl
  · cases hcall

theorem remaining_nonneg {deadline now : ℤ} (h : now < deadline) :
    0 ≤ (deadline - now).tdiv 1000000 := by
  rw [Int.tdiv_eq_ediv_of_nonneg (by omega)]
  omega

/-- The banner read keeps to its deadline while the time fits a poll. -/
theorem readLoop_pollsWithin (handle : Socket) {deadline v : ℤ} (hv : v < 2147483648)
    (buffer : Bytes) {turns : List BannerTurn}
    (hclock : ∀ turn ∈ turns, deadline ≤ turn.now + v * 1000000) :
    PollsWithin deadline (turns.map BannerTurn.now)
      (readLoop handle deadline buffer turns).2 := by
  induction turns generalizing buffer with
  | nil => exact .nil
  | cons turn turns ih =>
      have hturn := hclock turn (by simp)
      have hrest := fun buffer => ih buffer fun t ht => hclock t (by simp [ht])
      rw [readLoop]
      split
      · exact .nil
      rename_i hnow
      have hnow : turn.now < deadline := not_le.mp hnow
      have hnonneg := remaining_nonneg hnow
      have hpoll : PollWithin ((deadline - turn.now).tdiv 1000000)
          (toInt32 (if toMilliseconds (deadline - turn.now) < 0 then 0
            else toMilliseconds (deadline - turn.now))) := by
        have hlt : (deadline - turn.now).tdiv 1000000 < 2147483648 := by
          rw [Int.tdiv_eq_ediv_of_nonneg (by omega)]
          omega
        rw [toMilliseconds, if_neg (not_lt.mpr hnonneg), toInt32_eq_self hnonneg hlt]
        exact ⟨hnonneg, le_refl _, by omega⟩
      have hrecv : pollTimeout? (.call handle .recv) = none := rfl
      dsimp only
      split
      · exact .poll hnow hpoll .nil
      split
      · exact .poll hnow hpoll (.other hrecv .nil)
      split
      · exact .poll hnow hpoll (.other hrecv .nil)
      · exact .poll hnow hpoll (.other hrecv (hrest _))

/-- A turn of the capture polls for a slice of the time that is left. -/
theorem captureTurn_pollsWithin (handle : Socket) {deadline : ℤ} {turn : CaptureTurn}
    (hnow : turn.now < deadline) {clock : List ℤ} {rest : List SocketEvent}
    (hrest : PollsWithin deadline clock rest) :
    PollsWithin deadline (turn.now :: clock) (turn.calls handle deadline ++ rest) := by
  have hnonneg := remaining_nonneg hnow
  have hpoll : PollWithin ((deadline - turn.now).tdiv 1000000)
      (toInt32 (if min ((deadline - turn.now).tdiv 1000000) kCapturePollSlice < 0 then 0
        else min ((deadline - turn.now).tdiv 1000000) kCapturePollSlice)) := by
    have hslice : kCapturePollSlice = 200 := rfl
    rw [if_neg (by omega), toInt32_eq_self (by omega) (by omega)]
    exact ⟨by omega, by omega, by omega⟩
  have hrecv : pollTimeout? (.call handle .recv) = none := rfl
  rw [CaptureTurn.calls, if_neg (not_le.mpr hnow)]
  dsimp only
  split
  · exact .poll hnow hpoll hrest
  · exact .poll hnow hpoll (.other hrecv hrest)

/-- So the capture keeps to any deadline. -/
theorem captureLoop_pollsWithin (iface : NetworkInterface) (handle : Socket) (deadline : ℤ)
    (observations : List L2Observation) (turns : List CaptureTurn) :
    PollsWithin deadline (turns.map CaptureTurn.now)
      (captureLoop iface handle deadline observations turns).2 := by
  induction turns generalizing observations with
  | nil => exact .nil
  | cons turn turns ih =>
      rw [captureLoop_cons]
      by_cases hnow : turn.now < deadline
      · split
        · simpa using captureTurn_pollsWithin handle hnow .nil
        · exact captureTurn_pollsWithin handle hnow (ih _)
      · have hends : turn.Ends deadline := .inl (not_lt.mp hnow)
        rw [if_pos hends, CaptureTurn.calls, if_pos (not_lt.mp hnow)]
        exact .nil

theorem captureLinkTraffic_pollsWithin (formatMessage : ℤ → Option Bytes) (os : CaptureAnswers)
    (iface : NetworkInterface) (listenWindow : ℤ) (result : L2DiscoveryResult) :
    PollsWithin (deadlineOf os.start listenWindow) (os.turns.map CaptureTurn.now)
      (captureLinkTraffic formatMessage os iface listenWindow result).2 := by
  have hclose := pollTimeout?_closeSocket os.socket
  have hcalls {calls : List SocketEvent} (h : ∀ call ∈ calls, pollTimeout? call = none) :
      PollsWithin (deadlineOf os.start listenWindow) (os.turns.map CaptureTurn.now)
        (calls ++ closeSocket os.socket) := by
    simpa using PollsWithin.nil.around h hclose
  have hopened : ∀ call ∈ ([.socket os.socket] : List SocketEvent), pollTimeout? call = none := by
    simp [pollTimeout?]
  have hbound : ∀ call ∈ ([.socket os.socket] ++ [.call os.socket .bind] : List SocketEvent),
      pollTimeout? call = none := by
    simp [pollTimeout?]
  have hset : ∀ call ∈ ([.socket os.socket] ++ [.call os.socket .bind] ++
      [.call os.socket .wsaIoctl] : List SocketEvent), pollTimeout? call = none := by
    simp [pollTimeout?]
  unfold captureLinkTraffic
  dsimp only
  split
  · exact .nil
  split
  · exact .nil
  split
  · exact hcalls hopened
  split
  · exact hcalls hbound
  split
  · exact hcalls hset
  · exact (captureLoop_pollsWithin iface os.socket _ result.observations os.turns).around hset
      hclose

/-! ### Times that are passed as they are -/

/-- The polls are within `v` milliseconds. -/
def PollsKeep (v : ℤ) (calls : List SocketEvent) : Prop :=
  ∀ call ∈ calls, ∀ t, pollTimeout? call = some t → PollWithin v t

/-- The timeouts of a call are within `v` milliseconds: that of a poll, and that of a
session, where zero would mean that there is none. -/
def KeepsTime (v : ℤ) : SshCall → Prop
  | .winsock event => ∀ t, pollTimeout? event = some t → PollWithin v t
  | .sessionSetTimeout _ t => 1 ≤ t ∧ t ≤ v
  | _ => True

theorem pollsKeep_silent {v : ℤ} {calls : List SocketEvent}
    (h : ∀ call ∈ calls, pollTimeout? call = none) : PollsKeep v calls := by
  intro call hcall t ht
  cases (h call hcall).symm.trans ht

theorem disconnect_keepsTime (v : ℤ) (client : SshClient) :
    ∀ call ∈ client.disconnect.calls, KeepsTime v call := by
  have hclose := pollsKeep_silent (v := v) (pollTimeout?_closeSocket client.socketHandle)
  refine List.forall_mem_append.mpr ⟨?_, List.forall_mem_map.mpr hclose⟩
  split <;> simp [KeepsTime]

theorem fail_keepsTime {v : ℤ} (client : SshClient) (error : Bytes) {calls : List SshCall}
    (h : ∀ call ∈ calls, KeepsTime v call) :
    ∀ call ∈ (client.fail error calls).calls, KeepsTime v call :=
  List.forall_mem_append.mpr ⟨h, disconnect_keepsTime v _⟩

theorem keepsTime_ite {τ : Type} {v : ℤ} {c : Prop} [Decidable c] {yes no : Invocation τ}
    (hyes : ∀ call ∈ yes.calls, KeepsTime v call) (hno : ∀ call ∈ no.calls, KeepsTime v call) :
    ∀ call ∈ (if c then yes else no).calls, KeepsTime v call := by
  split
  · exact hyes
  · exact hno

theorem verifyAndAuthenticate_keepsTime (v : ℤ) (env : Environment) (client : SshClient)
    (os : AuthAnswers) :
    ∀ call ∈ (verifyAndAuthenticate env client os).calls, KeepsTime v call := by
  have hchecked : ∀ call ∈ (checkHostKey env client os).2, KeepsTime v call := by
    obtain ⟨-, hcalls | ⟨-, hcalls⟩⟩ | ⟨-, -, path, key, typeMask, hcalls⟩ :=
      checkHostKey_cases env client os
    all_goals
      rw [hcalls]
      simp [KeepsTime]
  have hoffered (username password : Bytes) : ∀ call ∈ (checkHostKey env client os).2 ++
      [.userauthPassword client.session username password os.userauthRc], KeepsTime v call :=
    List.forall_mem_append.mpr ⟨hchecked, by simp [KeepsTime]⟩
  refine keepsTime_ite (fail_keepsTime _ _ hchecked) ?_
  exact keepsTime_ite (fail_keepsTime _ _ (hoffered _ _)) (hoffered _ _)

section Narrowed

variable {v : ℤ} (hv : 0 < v) (hnarrow : 1 ≤ toInt32 v ∧ toInt32 v ≤ v)

include hv hnarrow

theorem tcpConnect_pollsKeep (os : ConnectAnswers) (ip : Bytes) :
    PollsKeep v (tcpConnect os ip v).calls := by
  have hclose := pollsKeep_silent (v := v) (pollTimeout?_closeSocket os.socket)
  have hopened : PollsKeep v [.socket os.socket, .call os.socket .ioctlsocket] :=
    pollsKeep_silent (by simp [pollTimeout?])
  have hconnect : PollsKeep v ([.socket os.socket, .call os.socket .ioctlsocket] ++
      [.call os.socket .connect]) :=
    pollsKeep_silent (by simp [pollTimeout?])
  have hpoll : PollsKeep v ([.socket os.socket, .call os.socket .ioctlsocket] ++
      [.call os.socket .connect] ++ [waitForSocket os.socket true v]) := by
    refine List.forall_mem_append.mpr ⟨hconnect, ?_⟩
    rw [List.forall_mem_singleton, waitForSocket, if_neg (by omega)]
    intro t ht
    rw [← Option.some.inj ht]
    exact (pollWithin_iff hv).mpr hnarrow
  have hsilent : PollsKeep v [.call os.socket .getsockopt] :=
    pollsKeep_silent (by simp [pollTimeout?])
  have hgetsockopt := List.forall_mem_append.mpr ⟨hpoll, hsilent⟩
  have hite {c : Prop} [Decidable c] {yes no : Attempt} (hyes : PollsKeep v yes.calls)
      (hno : PollsKeep v no.calls) : PollsKeep v (if c then yes else no).calls := by
    split
    · exact hyes
    · exact hno
  have hnothing : PollsKeep v [] := fun _ h => nomatch h
  refine hite hnothing (hite hnothing (hite hnothing ?_))
  refine hite (List.forall_mem_append.mpr ⟨hopened, hclose⟩) (hite hconnect ?_)
  refine hite (List.forall_mem_append.mpr ⟨hconnect, hclose⟩) ?_
  refine hite (List.forall_mem_append.mpr ⟨hpoll, hclose⟩) ?_
  refine hite (List.forall_mem_append.mpr ⟨hpoll, hclose⟩) ?_
  refine hite (List.forall_mem_append.mpr ⟨hgetsockopt, hclose⟩) ?_
  exact hite (List.forall_mem_append.mpr ⟨hgetsockopt, hclose⟩) hgetsockopt

omit hv in
theorem openSession_keepsTime (env : Environment) {client : SshClient}
    (hconfig : client.config.authTimeout = v) (os : AuthAnswers) :
    ∀ call ∈ (openSession env client os).calls, KeepsTime v call := by
  have htimeout : 1 ≤ toInt32 client.config.authTimeout ∧
      toInt32 client.config.authTimeout ≤ v := by
    rw [hconfig]
    exact hnarrow
  refine keepsTime_ite (fail_keepsTime _ _ (by simp [KeepsTime]))
    (keepsTime_ite (fail_keepsTime _ _ ?_) ?_)
  · simp [KeepsTime]
  · have hhandshake : ∀ call ∈ handshakeCalls client os, KeepsTime v call := by
      simp [handshakeCalls, KeepsTime, htimeout]
    refine keepsTime_ite (fail_keepsTime _ _ ?_) ?_
    · exact List.forall_mem_append.mpr ⟨hhandshake, by simp [KeepsTime]⟩
    · exact List.forall_mem_append.mpr
        ⟨hhandshake, verifyAndAuthenticate_keepsTime v env _ os⟩

theorem connectAndAuthenticate_keepsTime (env : Environment) (flag : Option Bool)
    {client : SshClient} (hconnect : client.config.connectTimeout = v)
    (hauth : client.config.authTimeout = v) (os : AuthAnswers) :
    ∀ call ∈ (client.connectAndAuthenticate env flag os).calls, KeepsTime v call := by
  have hflag : ∀ call ∈ (ensureLibssh2Initialised flag os.libssh2Init).2, KeepsTime v call := by
    rcases ensureLibssh2Initialised_calls flag os.libssh2Init with h | h <;> simp [h, KeepsTime]
  have hattempt : ∀ call ∈ (tcpConnect os.connect client.config.host
      client.config.connectTimeout).calls.map .winsock, KeepsTime v call := by
    rw [hconnect]
    exact List.forall_mem_map.mpr (tcpConnect_pollsKeep hv hnarrow os.connect client.config.host)
  have hstarted := List.forall_mem_append.mpr ⟨hflag, hattempt⟩
  unfold SshClient.connectAndAuthenticate
  dsimp only
  split
  · exact hflag
  split
  · exact hstarted
  · refine List.forall_mem_append.mpr ⟨hstarted, ?_⟩
    apply openSession_keepsTime hnarrow env
    exact hauth

omit hv in
theorem execute_keepsTime {client : SshClient} (hconfig : client.config.commandTimeout = v)
    (command : Bytes) (os : ExecuteAnswers) :
    ∀ call ∈ (client.execute command os).calls, KeepsTime v call := by
  have htimeout : 1 ≤ toInt32 client.config.commandTimeout ∧
      toInt32 client.config.commandTimeout ≤ v := by
    rw [hconfig]
    exact hnarrow
  unfold SshClient.execute
  split
  · simp
  dsimp only
  split
  · simp [KeepsTime, htimeout]
  split
  · simp [KeepsTime, htimeout]
  · simp only [List.forall_mem_append, List.forall_mem_map]
    simp [KeepsTime, htimeout]

end Narrowed

/-! ### What is kept of a time -/

/-- What an option is given for: the stored time is `v`, the deadlines that are made of
it at the time `start` are computed without overflow, and the timeouts that are made
of it are within `v` and within what remains of it. -/
def Kept (o : TimeoutOption) (v start : ℤ) (options : Options) : Prop :=
  match o with
  | .timeout => options.connectTimeout = v ∧
      ∀ os ip, PollsKeep v (tcpConnect os ip options.connectTimeout).calls
  | .bannerTimeout => options.bannerTimeout = v ∧ DeadlineFits start v ∧
      ∀ turns handle ip, (∀ turn ∈ turns, start ≤ turn.now) →
        PollsWithin (start + v * 1000000) (turns.map BannerTurn.now)
          (readSshBanner ⟨start, turns⟩ handle ip options.bannerTimeout).2
  | .authTimeout => options.authTimeout = v ∧ ∀ env flag password device os,
      ∀ call ∈ (SshClient.connectAndAuthenticate env flag
        { config := sshConfigOf options password device } os).calls, KeepsTime v call
  | .commandTimeout => options.commandTimeout = v ∧ ∀ (client : SshClient) command os,
      client.config.commandTimeout = options.commandTimeout →
        ∀ call ∈ (client.execute command os).calls, KeepsTime v call
  | .layer2Window => options.layer2Window = v ∧ DeadlineFits start v ∧
      ∀ formatMessage os iface result, os.start = start →
        PollsWithin (start + v * 1000000) (os.turns.map CaptureTurn.now)
          (captureLinkTraffic formatMessage os iface options.layer2Window result).2

/-- The times that an option keeps. A time that is narrowed as it is may lose whole
multiples of 2^32 and no more; one whose remainder is narrowed may be any part of
itself, and has to fit; one that is polled in slices only makes a deadline. -/
def Fits (o : TimeoutOption) (v start : ℤ) : Prop :=
  match o with
  | .timeout | .authTimeout | .commandTimeout =>
      v ≤ llongMax ∧ 1 ≤ v % 4294967296 ∧ v % 4294967296 < 2147483648
  | .bannerTimeout => v < 2147483648 ∧ InRange (start + v * 1000000)
  | .layer2Window => DeadlineFits start v

/-- A connection attempt that has to wait. -/
def pollingConnect : ConnectAnswers := ⟨true, 7, true, -1, wsaeWouldBlock, 0, 0, 0⟩

theorem pollingConnect_polls (v : ℤ) :
    waitForSocket 7 true v ∈ (tcpConnect pollingConnect "10.0.0.1" v).calls := by
  have haddress : inetPton "10.0.0.1" ≠ none := by decide
  have hsocket : (7 : Socket) ≠ kInvalidSocket := by decide
  simp [tcpConnect, pollingConnect, haddress, hsocket, Attempt.closed]

theorem narrowed_of_poll {v : ℤ} (hv : 0 < v) (h : ∀ t, pollTimeout? (waitForSocket 7 true v) =
    some t → PollWithin v t) : 1 ≤ v % 4294967296 ∧ v % 4294967296 < 2147483648 := by
  have hpoll : PollWithin v (toInt32 (if v < 0 then 0 else v)) := h _ rfl
  rw [if_neg (by omega), pollWithin_iff hv] at hpoll
  exact (toInt32_within_iff hv).mp hpoll

/-- A poll with 2^31 milliseconds to go would last for ever. -/
theorem lt_of_pollsWithin {start v : ℤ} (hfits : DeadlineFits start v) (h : ∀ turns handle ip,
    (∀ turn ∈ turns, start ≤ turn.now) →
      PollsWithin (start + v * 1000000) (turns.map BannerTurn.now)
        (readSshBanner ⟨start, turns⟩ handle ip v).2) : v < 2147483648 := by
  by_contra hlarge
  -- A turn when exactly that much time is left.
  let turn : BannerTurn := ⟨start + v * 1000000 - 2147483648 * 1000000, 0, []⟩
  have hclock : ∀ t ∈ [turn], start ≤ t.now := by
    intro t ht
    rw [List.mem_singleton.mp ht]
    show start ≤ start + v * 1000000 - 2147483648 * 1000000
    omega
  obtain ⟨reached, hprefix, -, hpolls⟩ := h [turn] 7 "10.0.0.1" hclock
  have hnow : ¬turn.now ≥ start + v * 1000000 := by
    show ¬start + v * 1000000 - 2147483648 * 1000000 ≥ start + v * 1000000
    omega
  have hremaining : start + v * 1000000 - turn.now = 2147483648 * 1000000 := by
    show start + v * 1000000 - (start + v * 1000000 - 2147483648 * 1000000) = _
    omega
  have hcalls : (readSshBanner ⟨start, [turn]⟩ 7 "10.0.0.1" v).2 =
      [.call 7 (.poll false (-2147483648))] := by
    show (readLoop 7 (deadlineOf start v) [] [turn]).2 = _
    rw [deadlineOf_eq hfits, readLoop, if_neg hnow, if_pos (le_refl 0), hremaining]
    decide
  rw [hcalls] at hpolls
  cases hpolls with
  | cons hpoll _ => exact absurd hpoll.1 (by decide)

section Options

variable {v : ℤ} (hv : 0 < v) (start : ℤ) (options : Options)

include hv

theorem kept_timeout_iff : Kept .timeout v start
    (TimeoutOption.timeout.store (min llongMax v) options) ↔ Fits .timeout v start := by
  constructor
  · rintro ⟨hstored, hpolls⟩
    have hstored : min llongMax v = v := hstored
    have hpoll := hpolls pollingConnect "10.0.0.1" _ (pollingConnect_polls _)
    rw [show (TimeoutOption.timeout.store (min llongMax v) options).connectTimeout = v from
      hstored] at hpoll
    exact ⟨min_eq_right_iff.mp hstored, narrowed_of_poll hv hpoll⟩
  · rintro ⟨hfits, hnarrow⟩
    have hstored : min llongMax v = v := min_eq_right hfits
    refine ⟨hstored, fun os ip => ?_⟩
    show PollsKeep v (tcpConnect os ip (min llongMax v)).calls
    rw [hstored]
    exact tcpConnect_pollsKeep hv ((toInt32_within_iff hv).mpr hnarrow) os ip

theorem kept_authTimeout_iff : Kept .authTimeout v start
    (TimeoutOption.authTimeout.store (min llongMax v) options) ↔ Fits .authTimeout v start := by
  constructor
  · rintro ⟨hstored, hcalls⟩
    have hstored : min llongMax v = v := hstored
    let os : AuthAnswers := ⟨0, pollingConnect, 0, 0, 0, 0, ⟨0, []⟩, none, nullptr, 0, 0⟩
    have hpoll := hcalls ⟨fun _ => none, fun _ => none⟩ (some true) [] ⟨"10.0.0.1", .error, []⟩ os
      (.winsock (waitForSocket 7 true (min llongMax v))) ?_
    · rw [hstored] at hpoll
      exact ⟨min_eq_right_iff.mp hstored, narrowed_of_poll hv hpoll⟩
    · have hmem : SshCall.winsock (waitForSocket 7 true (min llongMax v)) ∈
          (tcpConnect pollingConnect "10.0.0.1" (min llongMax v)).calls.map .winsock :=
        List.mem_map_of_mem (pollingConnect_polls _)
      -- The poll is made whatever becomes of the attempt.
      unfold SshClient.connectAndAuthenticate
      dsimp only
      split
      · rename_i hflag
        cases hflag
      split
      · exact hmem
      · exact List.mem_append_left _ hmem
  · rintro ⟨hfits, hnarrow⟩
    have hstored : min llongMax v = v := min_eq_right hfits
    exact ⟨hstored, fun env flag password device os => connectAndAuthenticate_keepsTime hv
      ((toInt32_within_iff hv).mpr hnarrow) env flag hstored hstored os⟩

theorem kept_commandTimeout_iff : Kept .commandTimeout v start
    (TimeoutOption.commandTimeout.store (min llongMax v) options) ↔
      Fits .commandTimeout v start := by
  constructor
  · rintro ⟨hstored, hcalls⟩
    have hstored : min llongMax v = v := hstored
    have hcall := hcalls { config := { commandTimeout := min llongMax v }, session := 1 } []
      ⟨nullptr, ⟨0, []⟩, 0, ⟨0, []⟩, .last 0 (le_refl 0), .last 0 (le_refl 0), 0⟩ rfl
      (.sessionSetTimeout 1 (toInt32 (min llongMax v))) (by simp [SshClient.execute, nullptr])
    rw [hstored] at hcall
    exact ⟨min_eq_right_iff.mp hstored, (toInt32_within_iff hv).mp hcall⟩
  · rintro ⟨hfits, hnarrow⟩
    have hstored : min llongMax v = v := min_eq_right hfits
    exact ⟨hstored, fun client command os hconfig => execute_keepsTime
      ((toInt32_within_iff hv).mpr hnarrow) (hconfig.trans hstored) command os⟩

theorem kept_bannerTimeout_iff : Kept .bannerTimeout v start
    (TimeoutOption.bannerTimeout.store (min llongMax v) options) ↔
      Fits .bannerTimeout v start := by
  have hmin : llongMin = -2 ^ 63 := rfl
  have hmax : llongMax = 2 ^ 63 - 1 := rfl
  constructor
  · rintro ⟨hstored, hdeadline, hpolls⟩
    have hstored : min llongMax v = v := hstored
    rw [show (TimeoutOption.bannerTimeout.store (min llongMax v) options).bannerTimeout = v from
      hstored] at hpolls
    exact ⟨lt_of_pollsWithin hdeadline hpolls, hdeadline.2⟩
  · rintro ⟨hlt, hdeadline⟩
    -- A time that fits a poll fits 64 bits, in nanoseconds too.
    have hstored : min llongMax v = v := min_eq_right (by omega)
    have hfits : DeadlineFits start v := ⟨⟨by omega, by omega⟩, hdeadline⟩
    refine ⟨hstored, hfits, fun turns handle ip hclock => ?_⟩
    show PollsWithin _ _ (readLoop handle (deadlineOf start (min llongMax v)) [] turns).2
    rw [hstored, deadlineOf_eq hfits]
    refine readLoop_pollsWithin handle hlt [] fun turn hturn => ?_
    have hnow := hclock turn hturn
    show start + v * 1000000 ≤ turn.now + v * 1000000
    omega

omit hv in
theorem kept_layer2Window_iff : Kept .layer2Window v start
    (TimeoutOption.layer2Window.store (min llongMax v) options) ↔
      Fits .layer2Window v start := by
  have hmin : llongMin = -2 ^ 63 := rfl
  have hmax : llongMax = 2 ^ 63 - 1 := rfl
  constructor
  · exact fun h => h.2.1
  · intro hdeadline
    have hfits : v * 1000000 ≤ llongMax := hdeadline.1.2
    have hstored : min llongMax v = v := min_eq_right (by omega)
    refine ⟨hstored, hdeadline, fun formatMessage os iface result hstart => ?_⟩
    show PollsWithin _ _ (captureLinkTraffic formatMessage os iface (min llongMax v) result).2
    rw [hstored, ← deadlineOf_eq hdeadline, ← hstart]
    exact captureLinkTraffic_pollsWithin formatMessage os iface v result

end Options

/-- A time that is accepted for one of the options is stored, and it is kept through the
conversions exactly when it fits the option. -/
theorem timeout_kept_iff (o : TimeoutOption) {text : Bytes} {s : ℤ}
    (haccepted : parsePositive text = some s) {v : ℕ} (hdenotes : DenotesDecimal text v)
    (start : ℤ) (options : Options) :
    (∀ rest, parseOptions (o.name :: text :: rest) options =
      parseOptions rest (o.store s options)) ∧
      (Kept o v start (o.store s options) ↔ Fits o v start) := by
  refine ⟨fun rest => parseOptions_timeout o haccepted rest options, ?_⟩
  rw [parsePositive_of_denotesDecimal hdenotes] at haccepted
  split at haccepted
  · rename_i hpositive
    have hv : 0 < (v : ℤ) := by omega
    rw [← Option.some.inj haccepted]
    cases o with
    | timeout => exact kept_timeout_iff hv start options
    | bannerTimeout => exact kept_bannerTimeout_iff hv start options
    | authTimeout => exact kept_authTimeout_iff hv start options
    | commandTimeout => exact kept_commandTimeout_iff hv start options
    | layer2Window => exact kept_layer2Window_iff start options
  · cases haccepted

theorem denotesDecimal_digits {digits : Bytes} (hsome : digits ≠ [])
    (hdigits : ∀ c ∈ digits, isDigit c = true) :
    DenotesDecimal digits (decimalValue digits) :=
  ⟨[], [], digits, rfl, (fun _ h => nomatch h), .inl rfl, hsome, hdigits, rfl⟩

theorem timeout_kept_iff_sample :
    Kept .timeout (750 : ℕ) 0 (TimeoutOption.timeout.store 750 {}) := by
  have haccepted : parsePositive (bytes "750") = some 750 := by decide
  have hdenotes : DenotesDecimal (bytes "750") 750 :=
    denotesDecimal_digits (by decide) (forall_mem_of_all (by decide))
  exact (timeout_kept_iff .timeout haccepted hdenotes 0 {}).2.mpr
    ⟨by decide, by decide, by decide⟩

/-- With `--timeout 4294967296` a connection attempt does not wait at all, and with
2147483648 it may wait for ever. The same numbers for a session, and the two ways in
which a number is too large for a deadline. -/
theorem timeout_lost :
    let text := bytes "4294967296"
    let options := TimeoutOption.timeout.store 4294967296 {}
    parseOptions ["--timeout", text] {} = .ok options ∧ DenotesDecimal text 4294967296 ∧
      waitForSocket 7 true options.connectTimeout = .call 7 (.poll true 0) ∧
      ¬Kept .timeout 4294967296 0 options ∧
      waitForSocket 7 true 2147483648 = .call 7 (.poll true (-2147483648)) ∧
      toInt32 (sshConfigOf (TimeoutOption.authTimeout.store 4294967296 {}) []
        ⟨[], .error, []⟩).authTimeout = 0 ∧
      parsePositive "9223372036854775808" = some 9223372036854775807 ∧
      ¬DeadlineFits 0 9223372036855 := by
  refine ⟨by decide, denotesDecimal_digits (by decide) (forall_mem_of_all (by decide)), by decide,
    fun h => ?_, by decide, by decide, by decide, by decide⟩
  have hpoll : PollWithin 4294967296 0 := h.2 pollingConnect "10.0.0.1" _
    (pollingConnect_polls 4294967296) 0 rfl
  exact hpoll.2.2 (by decide) rfl

end DeviceDiscovery.Main
