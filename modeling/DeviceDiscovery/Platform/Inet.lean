import DeviceDiscovery.Foundation.Bytes
import Mathlib.Algebra.Group.Nat.Defs

/-!
IPv4 addresses and their text.

The program keeps an address either as a 32-bit number in host byte order or as
dotted-quad text, and passes between the two only through `inet_ntop` and
`inet_pton`. The two functions are the platform's; here they are the documented
conversion: `inetNtop` writes the canonical dotted quad, and `inetPton` accepts
exactly the canonical dotted quads, reading its argument as a C string.
-/

namespace DeviceDiscovery.Platform

open Foundation

/-- An IPv4 address in host byte order (`uint32_t`). -/
abbrev Address := BitVec 32

/-- The address whose four octets, most significant first, are the arguments. -/
def ofOctets (a b c d : UInt8) : Address :=
  BitVec.ofNat 32 (a.toNat * 2 ^ 24 + b.toNat * 2 ^ 16 + c.toNat * 2 ^ 8 + d.toNat)

/-- The octets of an address, most significant first. -/
def octets (x : Address) : List UInt8 :=
  [UInt8.ofNat (x.toNat / 2 ^ 24), UInt8.ofNat (x.toNat / 2 ^ 16),
    UInt8.ofNat (x.toNat / 2 ^ 8), UInt8.ofNat x.toNat]

/-- The canonical numeral of an octet. -/
def octetText (o : UInt8) : Bytes := decimal o.toNat

/-- Reads one canonical octet numeral. -/
def octetOfText (text : Bytes) : Option UInt8 :=
  let v := decimalValue text
  if v < 256 ∧ text = decimal v then some (UInt8.ofNat v) else none

/-- `inet_ntop(AF_INET, htonl(x))`. -/
def inetNtop (x : Address) : Bytes := [('.' : UInt8)].intercalate ((octets x).map octetText)

/-- `ntohl` of what `inet_pton(AF_INET, text.c_str())` stores, when it returns 1. -/
def inetPton (text : Bytes) : Option Address :=
  match (cString text).splitOn ('.' : UInt8) with
  | [a, b, c, d] =>
      match octetOfText a, octetOfText b, octetOfText c, octetOfText d with
      | some a, some b, some c, some d => some (ofOctets a b c d)
      | _, _, _, _ => none
  | _ => none

/-! ### Octets -/

theorem octets_ofOctets (a b c d : UInt8) : octets (ofOctets a b c d) = [a, b, c, d] := by
  have ha := a.toNat_lt
  have hb := b.toNat_lt
  have hc := c.toNat_lt
  have hd := d.toNat_lt
  have hval : (ofOctets a b c d).toNat =
      a.toNat * 2 ^ 24 + b.toNat * 2 ^ 16 + c.toNat * 2 ^ 8 + d.toNat := by
    rw [ofOctets, BitVec.toNat_ofNat, Nat.mod_eq_of_lt (by omega)]
  simp only [octets, hval, List.cons.injEq, and_true, ← UInt8.toNat_inj, UInt8.toNat_ofNat']
  refine ⟨?_, ?_, ?_, ?_⟩ <;> omega

theorem ofOctets_octets (x : Address) :
    ofOctets (UInt8.ofNat (x.toNat / 2 ^ 24)) (UInt8.ofNat (x.toNat / 2 ^ 16))
      (UInt8.ofNat (x.toNat / 2 ^ 8)) (UInt8.ofNat x.toNat) = x := by
  have hx := x.isLt
  apply BitVec.eq_of_toNat_eq
  simp only [ofOctets, BitVec.toNat_ofNat, UInt8.toNat_ofNat']
  omega

theorem octetOfText_eq_some_iff {text : Bytes} {o : UInt8} :
    octetOfText text = some o ↔ text = octetText o := by
  have ho := o.toNat_lt
  constructor
  · intro h
    simp only [octetOfText] at h
    split at h
    · rename_i hcanon
      obtain ⟨hlt, htext⟩ := hcanon
      have hval : o.toNat = decimalValue text := by
        rw [← Option.some.inj h, UInt8.toNat_ofNat']
        exact Nat.mod_eq_of_lt hlt
      rw [octetText, hval]
      exact htext
    · exact absurd h (by simp)
  · rintro rfl
    simp only [octetOfText, octetText, decimalValue_decimal]
    rw [if_pos ⟨ho, trivial⟩, UInt8.ofNat_toNat]

theorem isDigit_of_mem_octetText {o c : UInt8} (h : c ∈ octetText o) : isDigit c = true :=
  isDigit_of_mem_decimal h

/-! ### The two conversions are inverse -/

theorem splitOn_inetNtop (x : Address) :
    (inetNtop x).splitOn ('.' : UInt8) = (octets x).map octetText := by
  apply List.splitOn_intercalate
  · intro part hpart hdot
    obtain ⟨o, -, rfl⟩ := List.mem_map.mp hpart
    exact absurd (isDigit_of_mem_octetText hdot) (by decide)
  · simp [octets]

/-- The symbols of a dotted quad: digits and dots. -/
theorem isDigit_or_eq_dot_of_mem_inetNtop {x : Address} {c : UInt8} (h : c ∈ inetNtop x) :
    isDigit c = true ∨ c = '.' := by
  simp only [inetNtop, octets, List.map_cons, List.map_nil, List.intercalate, List.intersperse,
    List.flatten_cons, List.flatten_nil, List.mem_append, List.mem_singleton, List.append_nil] at h
  rcases h with h | h | h | h | h | h | h
  all_goals first
    | exact .inr h
    | exact .inl (isDigit_of_mem_octetText h)

theorem zero_notMem_inetNtop (x : Address) : 0 ∉ inetNtop x := by
  intro h
  rcases isDigit_or_eq_dot_of_mem_inetNtop h with h | h
  · exact ne_zero_of_isDigit h rfl
  · exact absurd h (by decide)

theorem inetNtop_ne_nil (x : Address) : inetNtop x ≠ [] := by
  intro h
  have hsplit := splitOn_inetNtop x
  rw [h] at hsplit
  simp [octets] at hsplit

/-- `inet_pton` accepts exactly the canonical dotted quads, and stores the
address the text was written from. -/
theorem inetPton_eq_some_iff {text : Bytes} {x : Address} :
    inetPton text = some x ↔ cString text = inetNtop x := by
  constructor
  · intro h
    simp only [inetPton] at h
    split at h
    · rename_i pa pb pc pd hparts
      split at h
      · rename_i a b c d ha hb hc hd
        have hx : octets x = [a, b, c, d] := by
          rw [← Option.some.inj h, octets_ofOctets]
        have hjoin : [('.' : UInt8)].intercalate ((cString text).splitOn ('.' : UInt8)) =
            cString text := List.intercalate_splitOn _
        rw [hparts, octetOfText_eq_some_iff.mp ha, octetOfText_eq_some_iff.mp hb,
          octetOfText_eq_some_iff.mp hc, octetOfText_eq_some_iff.mp hd] at hjoin
        rw [inetNtop, hx]
        exact hjoin.symm
      · exact absurd h (by simp)
    · exact absurd h (by simp)
  · intro h
    have hoctet (o : UInt8) : octetOfText (octetText o) = some o :=
      octetOfText_eq_some_iff.mpr rfl
    simp only [inetPton, h, splitOn_inetNtop, octets, List.map_cons, List.map_nil, hoctet,
      ofOctets_octets]

theorem cString_inetNtop (x : Address) : cString (inetNtop x) = inetNtop x :=
  cString_eq_self (zero_notMem_inetNtop x)

@[simp] theorem inetPton_inetNtop (x : Address) : inetPton (inetNtop x) = some x :=
  inetPton_eq_some_iff.mpr (cString_inetNtop x)

theorem inetNtop_injective : Function.Injective inetNtop := by
  intro x y h
  have hx := inetPton_inetNtop x
  rw [h, inetPton_inetNtop] at hx
  exact (Option.some.inj hx).symm

example : inetNtop (ofOctets 192 168 10 50) = "192.168.10.50" := by decide

end DeviceDiscovery.Platform
