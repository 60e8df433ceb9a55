import DeviceDiscovery.Foundation.Bytes

/-!
JSON texts and what they denote.

The grammar is a relation between a text, a value and the text that is left over.
White space is skipped before every token, escapes are decoded, and a byte from
0x80 on is an ordinary character of a string. A string denotes the bytes of its
UTF-8 encoding.

A text denotes one value at most (`Denotes.unique`). The first byte of a value
tells its kind, so two derivations of one text take the same rule at every step.
-/

namespace Foundation

/-- A number is kept as it is written, and the members of an object in order. -/
inductive Json where
  | null
  | bool (value : Bool)
  | number (lexeme : Bytes)
  | string (text : Bytes)
  | array (items : List Json)
  | object (members : List (Bytes × Json))

namespace Json

def quote : UInt8 := '"'
def backslash : UInt8 := '\\'
def comma : UInt8 := ','
def colon : UInt8 := ':'
def openBracket : UInt8 := '['
def closeBracket : UInt8 := ']'
def openBrace : UInt8 := 0x7b
def closeBrace : UInt8 := 0x7d

def isWhitespace (c : UInt8) : Bool := c == ' ' || c == '\t' || c == '\n' || c == '\r'

def skipSpace (s : Bytes) : Bytes := s.dropWhile isWhitespace

/-! ### Strings -/

/-- A character that stands for itself in a string. -/
def IsPlain (c : UInt8) : Prop := 0x20 ≤ c ∧ c ≠ quote ∧ c ≠ backslash

instance : DecidablePred IsPlain := fun _ => inferInstanceAs (Decidable (_ ∧ _ ∧ _))

/-- The escapes of one letter. -/
def letterEscape (e : UInt8) : Option UInt8 :=
  if e = quote ∨ e = backslash ∨ e = '/' then some e
  else if e = 'b' then some 8
  else if e = 'f' then some 12
  else if e = 'n' then some 10
  else if e = 'r' then some 13
  else if e = 't' then some 9
  else none

def hexDigit (c : UInt8) : Option ℕ :=
  if 48 ≤ c ∧ c ≤ 57 then some (c.toNat - 48)
  else if 65 ≤ c ∧ c ≤ 70 then some (c.toNat - 55)
  else if 97 ≤ c ∧ c ≤ 102 then some (c.toNat - 87)
  else none

/-- The code unit of four digits, and the text after them. -/
def codeUnit : Bytes → Option (ℕ × Bytes)
  | a :: b :: c :: d :: s =>
      match hexDigit a, hexDigit b, hexDigit c, hexDigit d with
      | some a, some b, some c, some d => some (((a * 16 + b) * 16 + c) * 16 + d, s)
      | _, _, _, _ => none
  | _ => none

/-- The UTF-8 encoding of a code point. -/
def utf8 (u : ℕ) : Bytes :=
  if u < 0x80 then [UInt8.ofNat u]
  else if u < 0x800 then [UInt8.ofNat (0xC0 + u / 0x40), UInt8.ofNat (0x80 + u % 0x40)]
  else if u < 0x10000 then
    [UInt8.ofNat (0xE0 + u / 0x1000), UInt8.ofNat (0x80 + u / 0x40 % 0x40),
      UInt8.ofNat (0x80 + u % 0x40)]
  else
    [UInt8.ofNat (0xF0 + u / 0x40000), UInt8.ofNat (0x80 + u / 0x1000 % 0x40),
      UInt8.ofNat (0x80 + u / 0x40 % 0x40), UInt8.ofNat (0x80 + u % 0x40)]

/-- The escape `\uDC00` to `\uDFFF` that has to follow a high surrogate. -/
def lowSurrogate : Bytes → Option (ℕ × Bytes)
  | b :: e :: s =>
      if b = backslash ∧ e = 'u' then
        (codeUnit s).filter fun unit => 0xDC00 ≤ unit.1 ∧ unit.1 < 0xE000
      else none
  | _ => none

/-- The code point of the escape `\u`, alone or with the one that follows it. -/
def codePoint (s : Bytes) : Option (ℕ × Bytes) :=
  match codeUnit s with
  | none => none
  | some (u, rest) =>
      if u < 0xD800 ∨ 0xE000 ≤ u then some (u, rest)
      else if u < 0xDC00 then
        (lowSurrogate rest).map fun low =>
          (0x10000 + (u - 0xD800) * 0x400 + (low.1 - 0xDC00), low.2)
      else none

/-- What the escape after a backslash stands for, and the text after it. -/
def escape : Bytes → Option (Bytes × Bytes)
  | [] => none
  | e :: s =>
      if e = 'u' then (codePoint s).map fun point => (utf8 point.1, point.2)
      else (letterEscape e).map fun c => ([c], s)

/-- The characters of a string up to its closing quote, the bytes they denote, and
the text after the quote. -/
inductive Chars : Bytes → Bytes → Bytes → Prop where
  | close {s rest : Bytes} (h : s = quote :: rest) : Chars s [] rest
  | plain {s tail text rest : Bytes} {c : UInt8} (h : s = c :: tail) (plain : IsPlain c)
      (chars : Chars tail text rest) : Chars s (c :: text) rest
  | escape {s esc tail decoded text rest : Bytes} (h : s = backslash :: esc)
      (decodes : escape esc = some (decoded, tail)) (chars : Chars tail text rest) :
      Chars s (decoded ++ text) rest

/-! ### Numbers -/

def isNumberByte (c : UInt8) : Bool :=
  isDigit c || c == '-' || c == '+' || c == '.' || c == 'e' || c == 'E'

def IsDigits (s : Bytes) : Prop := s ≠ [] ∧ ∀ c ∈ s, isDigit c = true

/-- A number: sign, integer, fraction and exponent. -/
structure Number where
  sign : Bytes
  whole : Bytes
  fraction : Bytes
  exponent : Bytes
  sign_ok : sign = [] ∨ sign = bytes "-"
  whole_ok : IsDigits whole ∧ (whole.head? = some ('0' : UInt8) → whole.length = 1)
  fraction_ok : fraction = [] ∨ ∃ digits, IsDigits digits ∧ fraction = bytes "." ++ digits
  exponent_ok : exponent = [] ∨ ∃ mark ∈ [bytes "e", bytes "E", bytes "e-", bytes "E-",
    bytes "e+", bytes "E+"], ∃ digits, IsDigits digits ∧ exponent = mark ++ digits

def Number.text (n : Number) : Bytes := n.sign ++ n.whole ++ n.fraction ++ n.exponent

/-! ### Values -/

/-- A value, the items of an array after its opening bracket, one member of an
object, and the members of an object after its opening brace. -/
inductive Production where
  | value
  | items
  | member
  | members

open Production in
/-- `Derives p s v rest`: the text `s` begins with a `p` that denotes `v`, and goes
on with `rest`. -/
inductive Derives : Production → Bytes → Json → Bytes → Prop where
  | null {s rest} (h : s = bytes "null" ++ rest) : Derives value s .null rest
  | yes {s rest} (h : s = bytes "true" ++ rest) : Derives value s (.bool true) rest
  | no {s rest} (h : s = bytes "false" ++ rest) : Derives value s (.bool false) rest
  | number {s rest} (n : Number) (h : s = n.text ++ rest)
      (ends : rest.head?.all (fun c => !isNumberByte c) = true) :
      Derives value s (.number n.text) rest
  | string {s tail text rest} (h : s = quote :: tail) (chars : Chars tail text rest) :
      Derives value s (.string text) rest
  | noItems {s tail rest} (h : s = openBracket :: tail)
      (close : skipSpace tail = closeBracket :: rest) : Derives value s (.array []) rest
  | array {s tail vs rest} (h : s = openBracket :: tail)
      (list : Derives items tail (.array vs) rest) : Derives value s (.array vs) rest
  | lastItem {s v t rest} (item : Derives value (skipSpace s) v t)
      (close : skipSpace t = closeBracket :: rest) : Derives items s (.array [v]) rest
  | nextItem {s v t tail vs rest} (item : Derives value (skipSpace s) v t)
      (next : skipSpace t = comma :: tail) (list : Derives items tail (.array vs) rest) :
      Derives items s (.array (v :: vs)) rest
  | noMembers {s tail rest} (h : s = openBrace :: tail)
      (close : skipSpace tail = closeBrace :: rest) : Derives value s (.object []) rest
  | object {s tail ms rest} (h : s = openBrace :: tail)
      (list : Derives members tail (.object ms) rest) : Derives value s (.object ms) rest
  | member {s k key t u v rest} (h : skipSpace s = quote :: k) (chars : Chars k key t)
      (mid : skipSpace t = colon :: u) (item : Derives value (skipSpace u) v rest) :
      Derives member s (.object [(key, v)]) rest
  | lastMember {s m t rest} (first : Derives member s (.object [m]) t)
      (close : skipSpace t = closeBrace :: rest) : Derives members s (.object [m]) rest
  | nextMember {s m t tail ms rest} (first : Derives member s (.object [m]) t)
      (next : skipSpace t = comma :: tail) (list : Derives members tail (.object ms) rest) :
      Derives members s (.object (m :: ms)) rest

/-- The text is a JSON text and denotes the value. -/
def Denotes (text : Bytes) (v : Json) : Prop :=
  ∃ rest, Derives .value (skipSpace text) v rest ∧ skipSpace rest = []

/-! ### A text denotes one value at most -/

theorem Chars.unique {s text rest : Bytes} (h : Chars s text rest) {text' rest' : Bytes}
    (h' : Chars s text' rest') : text = text' ∧ rest = rest' := by
  induction h generalizing text' rest' with
  | close hs =>
      cases h' with
      | close hs' =>
          obtain ⟨-, rfl⟩ := List.cons.inj (hs.symm.trans hs')
          exact ⟨rfl, rfl⟩
      | plain hs' plain =>
          obtain ⟨rfl, -⟩ := List.cons.inj (hs.symm.trans hs')
          exact absurd rfl plain.2.1
      | escape hs' =>
          obtain ⟨hc, -⟩ := List.cons.inj (hs.symm.trans hs')
          exact absurd hc (by decide)
  | plain hs plain chars ih =>
      cases h' with
      | close hs' =>
          obtain ⟨rfl, -⟩ := List.cons.inj (hs.symm.trans hs')
          exact absurd rfl plain.2.1
      | plain hs' _ chars' =>
          obtain ⟨rfl, rfl⟩ := List.cons.inj (hs.symm.trans hs')
          obtain ⟨rfl, rfl⟩ := ih chars'
          exact ⟨rfl, rfl⟩
      | escape hs' =>
          obtain ⟨rfl, -⟩ := List.cons.inj (hs.symm.trans hs')
          exact absurd rfl plain.2.2
  | escape hs decodes chars ih =>
      cases h' with
      | close hs' =>
          obtain ⟨hc, -⟩ := List.cons.inj (hs.symm.trans hs')
          exact absurd hc (by decide)
      | plain hs' plain =>
          obtain ⟨rfl, -⟩ := List.cons.inj (hs.symm.trans hs')
          exact absurd rfl plain.2.2
      | escape hs' decodes' chars' =>
          obtain ⟨-, rfl⟩ := List.cons.inj (hs.symm.trans hs')
          obtain ⟨rfl, rfl⟩ := Prod.mk.inj (Option.some.inj (decodes.symm.trans decodes'))
          obtain ⟨rfl, rfl⟩ := ih chars'
          exact ⟨rfl, rfl⟩

theorem Number.isNumberByte_of_mem (n : Number) : ∀ c ∈ n.text, isNumberByte c = true := by
  have hdigits {s : Bytes} (h : IsDigits s) : ∀ c ∈ s, isNumberByte c = true := by
    intro c hc
    simp [isNumberByte, h.2 c hc]
  have hsign : ∀ c ∈ n.sign, isNumberByte c = true := by
    rcases n.sign_ok with h | h <;> rw [h]
    · simp
    · exact forall_mem_of_all (by decide)
  have hfraction : ∀ c ∈ n.fraction, isNumberByte c = true := by
    obtain h | ⟨digits, hd, h⟩ := n.fraction_ok <;> rw [h]
    · simp
    · exact List.forall_mem_append.mpr ⟨forall_mem_of_all (by decide), hdigits hd⟩
  have hexponent : ∀ c ∈ n.exponent, isNumberByte c = true := by
    obtain h | ⟨mark, hmark, digits, hd, h⟩ := n.exponent_ok <;> rw [h]
    · simp
    · refine List.forall_mem_append.mpr ⟨?_, hdigits hd⟩
      have hmarks : ∀ mark ∈ [bytes "e", bytes "E", bytes "e-", bytes "E-", bytes "e+",
        bytes "E+"], mark.all (fun c => decide (isNumberByte c = true)) = true := by decide
      exact forall_mem_of_all (hmarks mark hmark)
  simp only [Number.text, List.forall_mem_append]
  exact ⟨⟨⟨hsign, hdigits n.whole_ok.1⟩, hfraction⟩, hexponent⟩

/-- A number is as long as it can be. -/
theorem Number.takeWhile_text (n : Number) {rest : Bytes}
    (ends : rest.head?.all (fun c => !isNumberByte c) = true) :
    (n.text ++ rest).takeWhile isNumberByte = n.text := by
  rw [List.takeWhile_append_of_pos n.isNumberByte_of_mem]
  cases rest with
  | nil => simp
  | cons c rest =>
      have hc : isNumberByte c = false := by simpa using ends
      rw [List.takeWhile_cons_of_neg (by simp [hc]), List.append_nil]

theorem Number.head?_text (n : Number) (rest : Bytes) :
    ∃ c t, n.text ++ rest = c :: t ∧ (isDigit c = true ∨ c = '-') := by
  obtain ⟨hne, hdigits⟩ := n.whole_ok.1
  cases hwhole : n.whole with
  | nil => exact absurd hwhole hne
  | cons d ds =>
      rcases n.sign_ok with h | h <;> simp only [Number.text, h, hwhole, List.append_assoc]
      · exact ⟨d, _, rfl, .inl (hdigits d (by simp [hwhole]))⟩
      · exact ⟨_, _, rfl, .inr rfl⟩

/-- The kinds of values. -/
inductive Kind where
  | null
  | yes
  | no
  | number
  | string
  | array
  | object

def kind : Json → Kind
  | .null => .null
  | .bool true => .yes
  | .bool false => .no
  | .number _ => .number
  | .string _ => .string
  | .array _ => .array
  | .object _ => .object

/-- The kind of a value by its first byte. -/
def kindOf (c : UInt8) : Option Kind :=
  if isDigit c ∨ c = '-' then some .number
  else if c = 'n' then some .null
  else if c = 't' then some .yes
  else if c = 'f' then some .no
  else if c = quote then some .string
  else if c = openBracket then some .array
  else if c = openBrace then some .object
  else none

theorem Derives.kind {s rest : Bytes} {v : Json} (h : Derives .value s v rest) :
    s.head?.bind kindOf = some v.kind := by
  cases h with
  | null h => rw [h]; rfl
  | yes h => rw [h]; rfl
  | no h => rw [h]; rfl
  | number n h =>
      obtain ⟨c, t, htext, hc⟩ := n.head?_text rest
      rw [h, htext]
      exact if_pos hc
  | string h => rw [h]; rfl
  | noItems h => rw [h]; rfl
  | array h => rw [h]; rfl
  | noMembers h => rw [h]; rfl
  | object h => rw [h]; rfl

/-- A list with items does not start with its closing bracket. -/
theorem Derives.items_not_close {s t rest : Bytes} {v : Json} (h : Derives .items s v rest) :
    skipSpace s ≠ closeBracket :: t := by
  intro hs
  have hkind : (skipSpace s).head?.bind kindOf = none := by
    rw [hs]
    rfl
  cases h with
  | lastItem item => cases hkind.symm.trans item.kind
  | nextItem item => cases hkind.symm.trans item.kind

theorem Derives.members_not_close {s t rest : Bytes} {v : Json}
    (h : Derives .members s v rest) : skipSpace s ≠ closeBrace :: t := by
  intro hs
  have hquote : ∃ k, skipSpace s = quote :: k := by
    cases h with
    | lastMember first => cases first with | member h => exact ⟨_, h⟩
    | nextMember first => cases first with | member h => exact ⟨_, h⟩
  obtain ⟨k, hk⟩ := hquote
  exact absurd (List.head_eq_of_cons_eq (hs.symm.trans hk)) (by decide)

/-- Two values that one text begins with are of one kind. -/
theorem Derives.kind_eq {s rest rest' : Bytes} {v v' : Json} (h : Derives .value s v rest)
    (h' : Derives .value s v' rest') : v.kind = v'.kind :=
  Option.some.inj (h.kind.symm.trans h'.kind)

theorem Derives.unique {p : Production} {s rest : Bytes} {v : Json} (h : Derives p s v rest)
    {v' : Json} {rest' : Bytes} (h' : Derives p s v' rest') : v = v' ∧ rest = rest' := by
  induction h generalizing v' rest' with
  | null hs =>
      have hkind := (Derives.null hs).kind_eq h'
      cases h' with
      | null hs' => exact ⟨rfl, List.append_cancel_left (hs.symm.trans hs')⟩
      | _ => cases hkind
  | yes hs =>
      have hkind := (Derives.yes hs).kind_eq h'
      cases h' with
      | yes hs' => exact ⟨rfl, List.append_cancel_left (hs.symm.trans hs')⟩
      | _ => cases hkind
  | no hs =>
      have hkind := (Derives.no hs).kind_eq h'
      cases h' with
      | no hs' => exact ⟨rfl, List.append_cancel_left (hs.symm.trans hs')⟩
      | _ => cases hkind
  | number n hs ends =>
      have hkind := (Derives.number n hs ends).kind_eq h'
      cases h' with
      | number n' hs' ends' =>
          -- Both are all the number bytes there are.
          have htext : n.text = n'.text := by
            rw [← n.takeWhile_text ends, ← n'.takeWhile_text ends', ← hs, ← hs']
          rw [htext] at hs ⊢
          exact ⟨rfl, List.append_cancel_left (hs.symm.trans hs')⟩
      | _ => cases hkind
  | string hs chars =>
      have hkind := (Derives.string hs chars).kind_eq h'
      cases h' with
      | string hs' chars' =>
          obtain ⟨-, rfl⟩ := List.cons.inj (hs.symm.trans hs')
          obtain ⟨rfl, rfl⟩ := chars.unique chars'
          exact ⟨rfl, rfl⟩
      | _ => cases hkind
  | noItems hs close =>
      have hkind := (Derives.noItems hs close).kind_eq h'
      cases h' with
      | noItems hs' close' =>
          obtain ⟨-, rfl⟩ := List.cons.inj (hs.symm.trans hs')
          exact ⟨rfl, (List.cons.inj (close.symm.trans close')).2⟩
      | array hs' list =>
          obtain ⟨-, rfl⟩ := List.cons.inj (hs.symm.trans hs')
          exact absurd close list.items_not_close
      | _ => cases hkind
  | array hs list ih =>
      have hkind := (Derives.array hs list).kind_eq h'
      cases h' with
      | noItems hs' close =>
          obtain ⟨-, rfl⟩ := List.cons.inj (hs.symm.trans hs')
          exact absurd close list.items_not_close
      | array hs' list' =>
          obtain ⟨-, rfl⟩ := List.cons.inj (hs.symm.trans hs')
          exact ih list'
      | _ => cases hkind
  | lastItem item close ih =>
      -- The byte behind an item tells whether another one follows.
      cases h' with
      | lastItem item' close' =>
          obtain ⟨rfl, rfl⟩ := ih item'
          exact ⟨rfl, (List.cons.inj (close.symm.trans close')).2⟩
      | nextItem item' next' =>
          obtain ⟨rfl, rfl⟩ := ih item'
          exact absurd (List.head_eq_of_cons_eq (close.symm.trans next')) (by decide)
  | nextItem item next list ihitem ihlist =>
      cases h' with
      | lastItem item' close' =>
          obtain ⟨rfl, rfl⟩ := ihitem item'
          exact absurd (List.head_eq_of_cons_eq (next.symm.trans close')) (by decide)
      | nextItem item' next' list' =>
          obtain ⟨rfl, rfl⟩ := ihitem item'
          obtain ⟨-, rfl⟩ := List.cons.inj (next.symm.trans next')
          obtain ⟨hvs, rfl⟩ := ihlist list'
          cases hvs
          exact ⟨rfl, rfl⟩
  | noMembers hs close =>
      have hkind := (Derives.noMembers hs close).kind_eq h'
      cases h' with
      | noMembers hs' close' =>
          obtain ⟨-, rfl⟩ := List.cons.inj (hs.symm.trans hs')
          exact ⟨rfl, (List.cons.inj (close.symm.trans close')).2⟩
      | object hs' list =>
          obtain ⟨-, rfl⟩ := List.cons.inj (hs.symm.trans hs')
          exact absurd close list.members_not_close
      | _ => cases hkind
  | object hs list ih =>
      have hkind := (Derives.object hs list).kind_eq h'
      cases h' with
      | noMembers hs' close =>
          obtain ⟨-, rfl⟩ := List.cons.inj (hs.symm.trans hs')
          exact absurd close list.members_not_close
      | object hs' list' =>
          obtain ⟨-, rfl⟩ := List.cons.inj (hs.symm.trans hs')
          exact ih list'
      | _ => cases hkind
  | member hs chars mid item ih =>
      cases h' with
      | member hs' chars' mid' item' =>
          obtain ⟨-, rfl⟩ := List.cons.inj (hs.symm.trans hs')
          obtain ⟨rfl, rfl⟩ := chars.unique chars'
          obtain ⟨-, rfl⟩ := List.cons.inj (mid.symm.trans mid')
          obtain ⟨rfl, rfl⟩ := ih item'
          exact ⟨rfl, rfl⟩
  | lastMember first close ih =>
      cases h' with
      | lastMember first' close' =>
          obtain ⟨hm, rfl⟩ := ih first'
          exact ⟨hm, (List.cons.inj (close.symm.trans close')).2⟩
      | nextMember first' next' =>
          obtain ⟨-, rfl⟩ := ih first'
          exact absurd (List.head_eq_of_cons_eq (close.symm.trans next')) (by decide)
  | nextMember first next list ihfirst ihlist =>
      cases h' with
      | lastMember first' close' =>
          obtain ⟨-, rfl⟩ := ihfirst first'
          exact absurd (List.head_eq_of_cons_eq (next.symm.trans close')) (by decide)
      | nextMember first' next' list' =>
          obtain ⟨hm, rfl⟩ := ihfirst first'
          obtain ⟨-, rfl⟩ := List.cons.inj (next.symm.trans next')
          obtain ⟨hms, rfl⟩ := ihlist list'
          cases hm
          cases hms
          exact ⟨rfl, rfl⟩

theorem Denotes.unique {text : Bytes} {v w : Json} (hv : Denotes text v) (hw : Denotes text w) :
    v = w := by
  obtain ⟨_, hv, -⟩ := hv
  obtain ⟨_, hw, -⟩ := hw
  exact (hv.unique hw).1

/-! ### Reading a value -/

/-- No object has two members of one key, at any depth. -/
inductive DistinctKeys : Json → Prop where
  | null : DistinctKeys .null
  | bool (value : Bool) : DistinctKeys (.bool value)
  | number (lexeme : Bytes) : DistinctKeys (.number lexeme)
  | string (text : Bytes) : DistinctKeys (.string text)
  | array {items : List Json} (items_ok : ∀ v ∈ items, DistinctKeys v) :
      DistinctKeys (.array items)
  | object {members : List (Bytes × Json)} (nodup : (members.map Prod.fst).Nodup)
      (members_ok : ∀ m ∈ members, DistinctKeys m.2) : DistinctKeys (.object members)

def keys : Json → List Bytes
  | .object members => members.map Prod.fst
  | _ => []

def member? (key : Bytes) : Json → Option Json
  | .object members => members.lookup key
  | _ => none

def text? : Json → Option Bytes
  | .string text => some text
  | _ => none

def items? : Json → Option (List Json)
  | .array items => some items
  | _ => none

/-- The text of a member. -/
def textOf? (key : Bytes) (v : Json) : Option Bytes := (v.member? key).bind text?

/-- The items of a member, each read by `read`. -/
def listOf? {α : Type} (read : Json → Option α) (key : Bytes) (v : Json) : Option (List α) :=
  (v.member? key).bind fun list => list.items?.bind fun items => items.mapM read

/-- Items that were written one by one are read one by one. -/
theorem mapM_map {α : Type} {read : Json → Option α} {write : α → Json}
    (h : ∀ a, read (write a) = some a) (list : List α) :
    (list.map write).mapM read = some list := by
  induction list with
  | nil => rfl
  | cons a list ih =>
      rw [List.map_cons, List.mapM_cons, h a, ih]
      rfl

/-! ### Texts that denote a value -/

theorem skipSpace_cons {c : UInt8} (h : isWhitespace c = true) (s : Bytes) :
    skipSpace (c :: s) = skipSpace s :=
  List.dropWhile_cons_of_pos h

theorem skipSpace_token {c : UInt8} (h : isWhitespace c = false) (s : Bytes) :
    skipSpace (c :: s) = c :: s :=
  List.dropWhile_cons_of_neg (by simp [h])

/-- White space before a list makes no difference. -/
theorem Derives.items_of_space {c : UInt8} (hc : isWhitespace c = true) {s rest : Bytes} {v : Json}
    (h : Derives .items s v rest) : Derives .items (c :: s) v rest := by
  cases h with
  | lastItem item close => exact .lastItem (by rwa [skipSpace_cons hc]) close
  | nextItem item next list => exact .nextItem (by rwa [skipSpace_cons hc]) next list

theorem Derives.member_of_space {c : UInt8} (hc : isWhitespace c = true) {s rest : Bytes} {v : Json}
    (h : Derives .member s v rest) : Derives .member (c :: s) v rest := by
  cases h with
  | member h chars mid item => exact .member ((skipSpace_cons hc _).trans h) chars mid item

theorem Derives.members_of_space {c : UInt8} (hc : isWhitespace c = true) {s rest : Bytes}
    {v : Json} (h : Derives .members s v rest) : Derives .members (c :: s) v rest := by
  cases h with
  | lastMember first close => exact .lastMember (first.member_of_space hc) close
  | nextMember first next list => exact .nextMember (first.member_of_space hc) next list

theorem Chars.of_plain {text : Bytes} (h : ∀ c ∈ text, IsPlain c) (rest : Bytes) :
    Chars (text ++ quote :: rest) text rest := by
  induction text with
  | nil => exact .close rfl
  | cons c text ih => exact .plain rfl (h c (by simp)) (ih fun d hd => h d (by simp [hd]))

/-- A member with a plain key: any indentation, the key, a colon and the value. -/
theorem Derives.of_member {indent key u rest : Bytes} {v : Json}
    (hindent : ∀ c ∈ indent, isWhitespace c = true) (hkey : ∀ c ∈ key, IsPlain c)
    (item : Derives .value (skipSpace u) v rest) :
    Derives .member (indent ++ quote :: (key ++ quote :: colon :: u)) (.object [(key, v)])
      rest := by
  induction indent with
  | nil =>
      exact .member (skipSpace_token (by decide) _) (.of_plain hkey _)
        (skipSpace_token (by decide) u) item
  | cons c indent ih =>
      exact (ih fun d hd => hindent d (by simp [hd])).member_of_space (hindent c (by simp))

/-- The digits of a code unit are told without looking further. -/
theorem codeUnit_append {s t : Bytes} {u : ℕ} (h : codeUnit s = some (u, t)) (rest : Bytes) :
    codeUnit (s ++ rest) = some (u, t ++ rest) := by
  unfold codeUnit at h
  split at h
  · rename_i a b c d s
    simp only [List.cons_append, codeUnit]
    split at h
    · cases h
      rfl
    · cases h
  · cases h

theorem escape_codeUnit {s t : Bytes} {u : ℕ} (h : codeUnit s = some (u, t)) (hu : u < 0x80) :
    escape (('u' : UInt8) :: s) = some ([UInt8.ofNat u], t) := by
  have hpoint : codePoint s = some (u, t) := by
    rw [codePoint, h]
    exact if_pos (.inl (by omega))
  rw [escape, if_pos rfl, hpoint, Option.map_some, utf8, if_pos hu]

end Json

end Foundation
