import DeviceDiscovery.Main.ProbedAddresses

/-!
What becomes of the advice to run elevated.

A capture that Windows denies leaves the reason, with the advice, in the result of
layer-2 discovery. One observation, which can then only be from the neighbour
cache, is enough for the reason to be dropped: the run either finds a device or
ends with the other diagnostic, about hosts that could not be reached.
-/

namespace DeviceDiscovery.Main

open Foundation DeviceDiscovery.Platform DeviceDiscovery.Network DeviceDiscovery.Scanner

/-! ### The refusal -/

/-- Windows denies the capture, at the socket or at the switch to promiscuous
mode. -/
inductive Denied (os : CaptureAnswers) (iface : NetworkInterface) : Prop where
  | socket (ready : os.winsockReady = true) (invalid : os.socket = kInvalidSocket)
      (code : os.socketError = wsaeAcces)
  | ioctl (ready : os.winsockReady = true) (valid : os.socket ≠ kInvalidSocket)
      (address : inetPton iface.ipv4 ≠ none) (bound : os.bindRc = 0)
      (failed : os.ioctlFailed = true) (code : os.ioctlError = wsaeAcces)

/-- The reason for a denied capture, with the advice. -/
def refusalText (formatMessage : ℤ → Option Bytes) (os : CaptureAnswers)
    (iface : NetworkInterface) : Bytes :=
  let attempt : Bytes := if os.socket = kInvalidSocket then
      "cannot open a promiscuous capture socket on "
    else "cannot enable promiscuous mode on "
  attempt ++ iface.name ++ bytes ": " ++ socketErrorText formatMessage wsaeAcces ++
    elevationAdvice

theorem captureLinkTraffic_of_denied (formatMessage : ℤ → Option Bytes) {os : CaptureAnswers}
    {iface : NetworkInterface} (h : Denied os iface) (listenWindow : ℤ)
    (result : L2DiscoveryResult) :
    (captureLinkTraffic formatMessage os iface listenWindow result).1 =
      { result with permissionDenied := true, error := refusalText formatMessage os iface } := by
  cases h with
  | socket ready invalid code =>
      simp [captureLinkTraffic, refusalText, ready, invalid, code]
  | ioctl ready valid address bound failed code =>
      simp [captureLinkTraffic, refusalText, ready, valid, address, bound, failed, code]

theorem Denied.not_isOpen {os : CaptureAnswers} {iface : NetworkInterface}
    (h : Denied os iface) : ¬os.IsOpen iface := by
  rintro ⟨-, hsocket, -, -, hioctl⟩
  cases h with
  | socket _ invalid _ => exact hsocket invalid
  | ioctl _ _ _ _ failed _ => cases hioctl.symm.trans failed

section Stage

variable (options : Options) (world : World) {iface : NetworkInterface}

/-- After a denied capture only the neighbour cache is left. -/
theorem linkHosts_of_denied (h : Denied world.link.capture iface) :
    linkHosts options world iface = [] ↔ ∀ x, IsWanted iface x → ¬InCache world iface x := by
  have hsilent (x : Address) : ¬InTraffic options world iface x := by
    rintro ⟨packet, hpacket, -⟩
    rw [CaptureAnswers.packets, if_neg h.not_isOpen] at hpacket
    cases hpacket
  rw [List.eq_nil_iff_forall_not_mem]
  constructor
  · intro hnone x hwanted hcache
    exact hnone _ ((mem_linkHosts_iff options world iface x).mpr ⟨hwanted, .inl hcache⟩)
  · intro hnone ip hip
    obtain ⟨x, rfl⟩ := exists_of_mem_ips world.link iface options.layer2Window
      world.env.formatMessage hip
    obtain ⟨hwanted, hcache | htraffic⟩ := (mem_linkHosts_iff options world iface x).mp hip
    · exact hnone x hwanted hcache
    · exact hsilent x htraffic

/-- The diagnostic of a stage B that found no device after a denied capture. -/
theorem diagnostic_of_denied (h : Denied world.link.capture iface)
    (hnone : linkDevices options world iface = []) :
    (stageBLayer2 options world iface).diagnostic =
      if linkHosts options world iface = [] then
        refusalText world.env.formatMessage world.link.capture iface
      else unreachableText iface (discoverLinkLayerHosts world.env.formatMessage world.link iface
        options.layer2Window).observations := by
  have hadvice : refusalText world.env.formatMessage world.link.capture iface ≠ [] := by
    simp [refusalText, show elevationAdvice ≠ [] by decide]
  have hdevices := stageBLayer2_devices options world iface
  rw [hnone] at hdevices
  simp only [linkHosts, List.map_eq_nil_iff] at *
  unfold stageBLayer2 at hdevices ⊢
  dsimp only at hdevices ⊢
  by_cases hempty : (discoverLinkLayerHosts world.env.formatMessage world.link iface
      options.layer2Window).observations = []
  · -- Without an observation stage B passes the reason on.
    have herror : (discoverLinkLayerHosts world.env.formatMessage world.link iface
        options.layer2Window).error =
          refusalText world.env.formatMessage world.link.capture iface := by
      unfold discoverLinkLayerHosts at hempty ⊢
      dsimp only at hempty ⊢
      rw [if_neg (not_not.mpr hempty), captureLinkTraffic_of_denied _ h, if_neg hadvice]
    rw [if_pos hempty, if_pos hempty, herror, if_neg hadvice]
  · -- With an observation and no device it is about unreachable hosts.
    rw [if_neg hempty] at hdevices ⊢
    rw [if_neg hempty, if_pos hdevices]

end Stage

/-! ### The two diagnostics -/

/-- A capital letter of the advice that no address contains. -/
def capital : UInt8 := 'A'

theorem capital_notMem_inetNtop (x : Address) : capital ∉ inetNtop x := by
  intro h
  obtain hdigit | hdot := isDigit_or_eq_dot_of_mem_inetNtop h
  · cases hdigit
  · cases hdot

theorem capital_notMem_formatMac (address : Bytes) : capital ∉ formatMac address := by
  have hbytes : ∀ n < 256, capital ∉ hexByte (UInt8.ofNat n) := by decide +kernel
  intro h
  obtain hglue | ⟨part, hpart, hmem⟩ := mem_intercalate h
  · exact absurd hglue (by decide)
  · obtain ⟨b, -, rfl⟩ := List.mem_map.mp hpart
    refine hbytes b.toNat b.toNat_lt ?_
    rwa [UInt8.ofNat_toNat]

theorem capital_notMem_decimal (n : ℕ) : capital ∉ decimal n := by
  intro h
  cases isDigit_of_mem_decimal h

theorem capital_notMem_macOf (os : LinkAnswers) (iface : NetworkInterface) (x : Address) :
    capital ∉ macOf os iface x := by
  unfold macOf
  split
  · exact List.not_mem_nil
  · exact capital_notMem_formatMac _

/-- The diagnostic about unreachable hosts has the capital only where the
interface's name has it. -/
theorem count_unreachableText {iface : NetworkInterface} {a : Address}
    (hipv4 : iface.ipv4 = inetNtop a) (os : LinkAnswers) (listenWindow : ℤ)
    (formatMessage : ℤ → Option Bytes) :
    (unreachableText iface (discoverLinkLayerHosts formatMessage os iface
      listenWindow).observations).count capital = iface.name.count capital := by
  have hzero : ∀ s ∈ ([bytes "\n         ", bytes " (", bytes ")", bytes "/",
      bytes "the directly connected device was seen on the link but no SSH server ",
      bytes "could be reached at:", bytes "\n       If the address is outside ",
      bytes " the PC has no route to it; add a temporary address on the device's\n",
      bytes "       subnet, e.g. netsh interface ipv4 add address \"",
      bytes "\" <free-ip> <netmask>"] : List Bytes), s.count capital = 0 := by
    decide
  -- The observations add addresses of either kind, in digits and lower case.
  have hobserved : ((discoverLinkLayerHosts formatMessage os iface
      listenWindow).observations.flatMap fun observation =>
        bytes "\n         " ++ observation.ip ++ bytes " (" ++ observation.mac ++
          bytes ")").count capital = 0 := by
    rw [List.count_eq_zero]
    intro hmem
    obtain ⟨observation, hobservation, hmem⟩ := List.mem_flatMap.mp hmem
    rw [observations_eq] at hobservation
    obtain ⟨x, -, rfl⟩ := List.mem_map.mp hobservation
    refine List.count_eq_zero.mp ?_ hmem
    simp [List.count_append, hzero, List.count_eq_zero.mpr (capital_notMem_inetNtop x),
      List.count_eq_zero.mpr (capital_notMem_macOf os iface x)]
  simp [-List.append_assoc, unreachableText, subnetText, List.count_append, hobserved, hzero, hipv4,
    List.count_eq_zero.mpr (capital_notMem_inetNtop a),
    List.count_eq_zero.mpr (capital_notMem_decimal _)]

theorem count_refusalText (formatMessage : ℤ → Option Bytes) (os : CaptureAnswers)
    (iface : NetworkInterface) :
    iface.name.count capital < (refusalText formatMessage os iface).count capital := by
  have hadvice : 0 < elevationAdvice.count capital := by decide
  simp only [refusalText, List.count_append]
  omega

theorem refusalText_notInfix {iface : NetworkInterface} {a : Address}
    (hipv4 : iface.ipv4 = inetNtop a) (os : LinkAnswers) (listenWindow : ℤ)
    (formatMessage : ℤ → Option Bytes) :
    ¬refusalText formatMessage os.capture iface <:+: unreachableText iface
      (discoverLinkLayerHosts formatMessage os iface listenWindow).observations := by
  intro h
  have hle := h.count_le capital
  have hlt := count_refusalText formatMessage os.capture iface
  rw [count_unreachableText hipv4] at hle
  omega

/-! ### The run -/

theorem Selects.adapter {options : Options} {world : World} {password : Bytes}
    {iface : NetworkInterface} (h : Selects options world password iface) :
    ∃ adapter, candidateOfSnapshot (snapshotOfAdapter adapter) = some iface := by
  obtain ⟨candidates, hcandidates, honly⟩ := h.iface
  have hmem : iface ∈ candidates := by
    have hiface : iface ∈ hintedCandidates options candidates := by simp [honly]
    unfold hintedCandidates at hiface
    split at hiface
    · exact hiface
    · exact List.mem_of_mem_filter hiface
  unfold discoverCandidateInterfaces enumerateInterfaces at hcandidates
  cases hadapters : queryAdapterAddresses world.env.formatMessage world.adapters 4 0 with
  | error what =>
      rw [hadapters] at hcandidates
      cases hcandidates
  | ok adapters =>
      rw [hadapters] at hcandidates
      obtain rfl := Except.ok.inj hcandidates
      obtain ⟨snapshot, hsnapshot, hsome⟩ := List.mem_filterMap.mp hmem
      obtain ⟨adapter, -, rfl⟩ := List.mem_map.mp hsnapshot
      exact ⟨adapter, hsome⟩

/-- A run that has a device to ask does not end without one. -/
theorem queryDevice_exitCode (options : Options) (world : World) (password : Bytes)
    (iface : NetworkInterface) (stage : Bytes) (device : SshProbeResult) :
    (queryDevice options world password iface stage device).exitCode ≠ .noDevice := by
  unfold queryDevice
  dsimp only
  split
  · show (if _ then ExitCode.sshAuthFailed else .sshConnectionFailed) ≠ .noDevice
    split <;> decide
  · show (reportOutput _ _ _ _ _ _).exitCode ≠ .noDevice
    unfold reportOutput
    split
    · decide
    · dsimp only
      split
      · exact fun h => nomatch h
      · show (if _ then ExitCode.success else .unexpectedInterfaceCount) ≠ .noDevice
        split <;> decide

theorem chooseDevice_noDevice {options : Options} {iface : NetworkInterface} {found : Stage}
    {outcome : Outcome} (h : chooseDevice options iface found = .error outcome)
    (hcode : outcome.exitCode = .noDevice) :
    found.devices = [] ∧ outcome.stderr =
      bytes "Error: No device discovered on " ++ iface.name ++ bytes ".\n" ++
        (if found.diagnostic = [] then []
          else bytes "       " ++ found.diagnostic ++ bytes "\n") := by
  unfold chooseDevice at h
  split at h
  · rename_i hnone
    rw [← Except.error.inj h]
    exact ⟨hnone, rfl⟩
  · cases h
  · split at h
    · split at h
      · cases h
      · rw [← Except.error.inj h] at hcode
        cases hcode
    · rw [← Except.error.inj h] at hcode
      cases hcode

/-- A run that ends without a device prints the diagnostic of stage B. -/
theorem runOnInterface_noDevice {options : Options} {world : World} {password : Bytes}
    {iface : NetworkInterface}
    (h : (runOnInterface options world password iface).exitCode = .noDevice) :
    linkDevices options world iface = [] ∧
      ∃ logged, (runOnInterface options world password iface).stderr =
        logged ++ bytes "Error: No device discovered on " ++ iface.name ++ bytes ".\n" ++
          (if (stageBLayer2 options world iface).diagnostic = [] then []
            else bytes "       " ++ (stageBLayer2 options world iface).diagnostic ++
              bytes "\n") := by
  obtain ⟨outcome, logged, hchoice, hrun⟩ | ⟨device, logged, -, hrun⟩ :=
    runOnInterface_cases options world password iface
  · rw [hrun] at h ⊢
    obtain ⟨hnone, hstderr⟩ := chooseDevice_noDevice hchoice h
    obtain ⟨hfound, hdevices⟩ | ⟨hsubnet, hdevices⟩ := discoverDevices_devices options world iface
    · exact absurd (hdevices.symm.trans hnone) hfound
    · refine ⟨hdevices.symm.trans hnone, logged, ?_⟩
      -- Stage B was asked, because stage A has found nothing either.
      have hdiagnostic : (discoverDevices options world iface).found.diagnostic =
          (stageBLayer2 options world iface).diagnostic := by
        unfold discoverDevices
        dsimp only
        rw [stageASubnetScan_devices, if_pos hsubnet]
      rw [← hdiagnostic]
      show logged ++ outcome.stderr = _
      rw [hstderr]
      simp only [List.append_assoc]
  · rw [hrun] at h
    exact absurd h (queryDevice_exitCode options world password iface _ device)

/-- When a run that ends without a device after a denied capture gives the advice:
exactly when the neighbour cache shows no other host either. -/
theorem advice_printed_iff (options : Options) (world : World) (password : Bytes)
    (iface : NetworkInterface) (hmock : options.mockIfconfigFile = [])
    (hselects : Selects options world password iface) (hdenied : Denied world.link.capture iface)
    (hend : (tryRun options world).exitCode = .noDevice) :
    let diagnostic := (stageBLayer2 options world iface).diagnostic
    (∃ logged, (tryRun options world).stderr =
      logged ++ bytes "Error: No device discovered on " ++ iface.name ++ bytes ".\n" ++
        bytes "       " ++ diagnostic ++ bytes "\n") ∧
    (refusalText world.env.formatMessage world.link.capture iface <:+: diagnostic ↔
      ∀ x, IsWanted iface x → ¬InCache world iface x) := by
  intro diagnostic
  obtain ⟨adapter, hadapter⟩ := hselects.adapter
  obtain ⟨hipv4, -, -⟩ := interface_of_adapter hadapter
  obtain ⟨password', iface', hselects', hrun⟩ | ⟨hnone, -⟩ := tryRun_cases options world hmock
  · obtain ⟨rfl, rfl⟩ := hselects.unique hselects'
    rw [hrun] at hend ⊢
    obtain ⟨hdevices, logged, hstderr⟩ := runOnInterface_noDevice hend
    have hdiagnostic : diagnostic = _ := diagnostic_of_denied options world hdenied hdevices
    have hsome : diagnostic ≠ [] := by
      intro hempty
      rw [hdiagnostic] at hempty
      split at hempty
      · have hlt := count_refusalText world.env.formatMessage world.link.capture iface
        simp [hempty] at hlt
      · simp [unreachableText, show bytes "could be reached at:" ≠ [] by decide] at hempty
    refine ⟨⟨logged, ?_⟩, ?_⟩
    · rw [hstderr, if_neg hsome]
      simp only [List.append_assoc]
      rfl
    · rw [← linkHosts_of_denied options world hdenied, hdiagnostic]
      by_cases hempty : linkHosts options world iface = []
      · rw [if_pos hempty]
        exact iff_of_true (List.infix_refl _) hempty
      · rw [if_neg hempty]
        exact iff_of_false (refusalText_notInfix hipv4 _ _ _) hempty
  · exact absurd hselects (hnone password iface)

/-- No right to a raw socket, and nobody answers a probe. -/
def deniedWorld (rows : List IpNetRow) : World :=
  linkWorld
    ⟨some rows, ⟨true, kInvalidSocket, wsaeAcces, false, 0, 0, false, 0, 0, []⟩, some rows⟩
    fun _ => .error "no route"

theorem advice_printed_iff_sample :
    let world := deniedWorld []
    refusalText world.env.formatMessage world.link.capture wiredInterface <:+:
      (stageBLayer2 {} world wiredInterface).diagnostic := by
  have hselects : Selects {} (deniedWorld []) "secret" wiredInterface :=
    ⟨by decide, [wiredInterface], by decide, by decide⟩
  refine (advice_printed_iff {} (deniedWorld []) "secret" wiredInterface (by decide) hselects
    (.socket rfl rfl rfl) (by decide)).2.mpr ?_
  rintro x - ⟨row, hrow, -⟩
  cases hrow

/-- One reachable neighbour that runs no SSH server. -/
theorem advice_dropped :
    let world := deniedWorld [⟨3, ofOctets 10 20 30 1, [0, 12, 41, 74, 27, 54], .reachable⟩]
    let outcome := tryRun {} world
    Denied world.link.capture wiredInterface ∧ outcome.exitCode = .noDevice ∧
      contains outcome.stderr "layer-2 discovery needs an elevated process" = false ∧
      contains outcome.stderr "cannot open a promiscuous capture socket" = false := by
  exact ⟨.socket rfl rfl rfl, by decide, by decide +kernel, by decide +kernel⟩

end DeviceDiscovery.Main
