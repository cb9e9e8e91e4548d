import Mathlib.Algebra.Ring.Nat
import Mediation.Text.Utf8

/-!
# Which octets are texts

The decoder takes one octet at a time and knows of a character that it is inside of only the bits it has read, how many
octets are owed and the range of the next one. It accepts exactly the encodings of texts, and returns the text that was
encoded: no longer forms, surrogates or values beyond the last character get through.
-/

namespace Mediation.Text.Utf8

/-! ### Octets of a character -/

/-- The last `n` octets of a character with the value `v`; each of them holds six bits of it. -/
def tail (v : Nat) : (n : Nat) → List UInt8
  | 0 => []
  | n + 1 => UInt8.ofNat (v / 64 ^ n % 64 + 0x80) :: tail v n

/-- What the first octet of a character has above the bits of its value, if `n + 1` octets follow. -/
def leadMark : (n : Nat) → Nat
  | 0 => 0xc0
  | 1 => 0xe0
  | _ => 0xf0

/-- The first octet of a character with the value `v`, if `n + 1` octets follow. -/
def lead (v n : Nat) : Nat := v / 64 ^ (n + 1) + leadMark n

/-- The values of the characters with `n + 1` octets after the first one. -/
def InRange (v : Nat) : (n : Nat) → Prop
  | 0 => 0x80 ≤ v ∧ v < 0x800
  | 1 => 0x800 ≤ v ∧ v < 0xd800 ∨ 0xe000 ≤ v ∧ v < 0x10000
  | 2 => 0x10000 ≤ v ∧ v < 0x110000
  | _ => False

theorem lt_or_exists_inRange (c : Char) : c.toNat < 0x80 ∨ ∃ n, InRange c.toNat n := by
  have hvalid : c.toNat < 0xd800 ∨ 0xdfff < c.toNat ∧ c.toNat < 0x110000 := c.valid
  by_cases hshort : c.toNat < 0x800
  · by_cases hascii : c.toNat < 0x80
    · exact Or.inl hascii
    · exact Or.inr ⟨0, by rw [InRange]; omega⟩
  · by_cases hplane : c.toNat < 0x10000
    · exact Or.inr ⟨1, by rw [InRange]; omega⟩
    · exact Or.inr ⟨2, by rw [InRange]; omega⟩

section Range

variable {v n : Nat}

theorem isValidChar_of_inRange (h : InRange v n) : v.isValidChar := by
  show v < 0xd800 ∨ 0xdfff < v ∧ v < 0x110000
  match n with
  | 0 | 1 | 2 =>
    simp only [InRange] at h
    omega

theorem le_lead (v n : Nat) : 0x80 ≤ lead v n := by
  have hmark : 0x80 ≤ leadMark n := by
    unfold leadMark
    split <;> decide
  exact Nat.le_trans hmark (Nat.le_add_left _ _)

theorem lead_lt_of_inRange (h : InRange v n) : lead v n < 0x100 := by
  match n with
  | 0 | 1 | 2 =>
    simp only [InRange] at h
    simp only [lead, leadMark]
    omega

end Range

theorem toNat_ofNat_of_isValidChar {v : Nat} (h : v.isValidChar) : (Char.ofNat v).toNat = v := by
  rw [Char.ofNat, dif_pos h]
  rfl

section Encoding

variable {c : Char}

theorem utf8EncodeChar_of_lt (h : c.toNat < 0x80) : String.utf8EncodeChar c = [UInt8.ofNat c.toNat] := by
  have hle : c.val.toNat ≤ 127 := Nat.le_of_lt_succ h
  rw [String.utf8EncodeChar]
  exact if_pos hle

theorem utf8EncodeChar_of_inRange {n : Nat} (h : InRange c.toNat n) :
    String.utf8EncodeChar c = UInt8.ofNat (lead c.toNat n) :: tail c.toNat (n + 1) := by
  have hval : c.val.toNat = c.toNat := rfl
  rw [String.utf8EncodeChar]
  simp only [hval]
  match n with
  | 0 =>
    simp only [InRange] at h
    have hbits : c.toNat / 64 % 32 = c.toNat / 64 := by omega
    rw [if_neg (by omega), if_pos (by omega)]
    simp [tail, lead, leadMark, hbits]
  | 1 =>
    simp only [InRange] at h
    have hbits : c.toNat / 4096 % 16 = c.toNat / 4096 := by omega
    rw [if_neg (by omega), if_neg (by omega), if_pos (by omega)]
    simp [tail, lead, leadMark, hbits]
  | 2 =>
    simp only [InRange] at h
    have hbits : c.toNat / 262144 % 8 = c.toNat / 262144 := by omega
    rw [if_neg (by omega), if_neg (by omega), if_neg (by omega)]
    simp [tail, lead, leadMark, hbits]

end Encoding

theorem length_tail (v n : Nat) : (tail v n).length = n := by
  induction n with
  | zero => rfl
  | succ n ih => rw [tail, List.length_cons, ih]

theorem toNat_ofNat_octet (v n : Nat) : (UInt8.ofNat (v / 64 ^ n % 64 + 0x80)).toNat = v / 64 ^ n % 64 + 0x80 := by
  apply UInt8.toNat_ofNat_of_lt'
  show _ < 256
  omega

theorem cons_tail {b : UInt8} {v n : Nat} (h : b.toNat = v / 64 ^ n % 64 + 0x80) : b :: tail v n = tail v (n + 1) := by
  rw [tail, ← h, UInt8.ofNat_toNat]

/-! ### Unfinished characters -/

namespace Unfinished

/-- A value that begins with the bits that have been read and goes on with an octet in the range. -/
structure Admits (u : Unfinished) (v : Nat) : Prop where
  bits : v / 64 ^ (u.owed + 1) = u.bits
  low : u.low ≤ v / 64 ^ u.owed % 64 + 0x80
  high : v / 64 ^ u.owed % 64 + 0x80 ≤ u.high

/-- The range holds no octet that begins a character. -/
structure Sound (u : Unfinished) : Prop where
  low : 0x80 ≤ u.low
  high : u.high ≤ 0xbf

/-- The unfinished character after one more octet. -/
def take (u : Unfinished) (b : Nat) : Unfinished :=
  ⟨u.first, u.bits * 0x40 + b % 0x40, u.taken + 1, u.owed - 1, 0x80, 0xbf⟩

variable {u : Unfinished} {b v : Nat}

theorem admits_iff :
    u.Admits v ↔ v / 64 ^ (u.owed + 1) = u.bits ∧ u.low ≤ v / 64 ^ u.owed % 64 + 0x80
      ∧ v / 64 ^ u.owed % 64 + 0x80 ≤ u.high :=
  ⟨fun h => ⟨h.bits, h.low, h.high⟩, fun h => ⟨h.1, h.2.1, h.2.2⟩⟩

/-- The next octet of a value that is admitted is in the range and adds six bits to those that have been read. -/
theorem Sound.admits_and_eq_iff (hu : u.Sound) :
    u.Admits v ∧ b = v / 64 ^ u.owed % 64 + 0x80
      ↔ (u.low ≤ b ∧ b ≤ u.high) ∧ v / 64 ^ u.owed = u.bits * 0x40 + b % 0x40 := by
  have hlow := hu.low
  have hhigh := hu.high
  have hdiv : v / 64 ^ (u.owed + 1) = v / 64 ^ u.owed / 64 := by rw [Nat.pow_succ, Nat.div_div_eq_div_mul]
  rw [admits_iff, hdiv]
  omega

theorem sound_take (u : Unfinished) (b : Nat) : (u.take b).Sound := ⟨Nat.le_refl _, Nat.le_refl _⟩

theorem owed_take (howed : u.owed ≠ 0) (b : Nat) : (u.take b).owed + 1 = u.owed :=
  Nat.sub_add_cancel (Nat.one_le_iff_ne_zero.mpr howed)

theorem admits_take_iff (howed : u.owed ≠ 0) : (u.take b).Admits v ↔ v / 64 ^ u.owed = u.bits * 0x40 + b % 0x40 := by
  rw [admits_iff, owed_take howed, take]
  dsimp only
  omega

end Unfinished

section Lead

variable {b : Nat} {u : Unfinished}

theorem sound_of_lead? (h : lead? b = some u) : u.Sound := by
  unfold lead? at h
  repeat' split at h
  all_goals cases h
  all_goals exact ⟨by simp, by simp⟩

/-- The first octet of a longer character admits the characters that begin with it. -/
theorem admits_iff_of_lead? (h : lead? b = some u) (v : Nat) :
    u.Admits v ↔ InRange v u.owed ∧ b = lead v u.owed := by
  rw [Unfinished.admits_iff]
  unfold lead? at h
  repeat' split at h
  all_goals cases h
  all_goals
    simp only [Nat.reduceAdd, Nat.reducePow, Bool.and_eq_true, decide_eq_true_eq, InRange, lead, leadMark] at *
    omega

theorem exists_lead? {v n : Nat} (h : InRange v n) : ∃ u, lead? (lead v n) = some u ∧ u.owed = n := by
  unfold lead?
  match n with
  | 0 =>
    simp only [InRange, lead, leadMark, Nat.reduceAdd, Nat.reducePow, Bool.and_eq_true, decide_eq_true_eq] at h ⊢
    rw [if_pos (by omega)]
    exact ⟨_, rfl, rfl⟩
  | 1 =>
    simp only [InRange, lead, leadMark, Nat.reduceAdd, Nat.reducePow, Bool.and_eq_true, decide_eq_true_eq] at h ⊢
    rw [if_neg (by omega)]
    split
    · exact ⟨_, rfl, rfl⟩
    split
    · exact ⟨_, rfl, rfl⟩
    rw [if_pos (by omega)]
    exact ⟨_, rfl, rfl⟩
  | 2 =>
    simp only [InRange, lead, leadMark, Nat.reduceAdd, Nat.reducePow, Bool.and_eq_true, decide_eq_true_eq] at h ⊢
    rw [if_neg (by omega), if_neg (by omega), if_neg (by omega), if_neg (by omega)]
    split
    · exact ⟨_, rfl, rfl⟩
    split
    · exact ⟨_, rfl, rfl⟩
    rw [if_pos (by omega)]
    exact ⟨_, rfl, rfl⟩

end Lead

/-! ### Steps -/

theorem exists_of_bind_eq_ok {ε α β : Type} {x : Except ε α} {f : α → Except ε β} {y : β} (h : x >>= f = .ok y) :
    ∃ a, x = .ok a ∧ f a = .ok y := by
  cases x with
  | error fault => cases h
  | ok a => exact ⟨a, rfl, h⟩

section Steps

variable {position : Nat} {next : State} {c : Option Char}

theorem step_between_eq_ok_iff {b : Nat} :
    step position b .between = .ok (next, c)
      ↔ b < 0x80 ∧ next = .between ∧ c = some (Char.ofNat b)
        ∨ ¬ b < 0x80 ∧ (∃ u, lead? b = some u ∧ next = .inside u) ∧ c = none := by
  rw [step]
  split
  · rename_i hb
    simp [hb, eq_comm]
  · rename_i hb
    cases lead? b <;> simp [hb, eq_comm]

theorem step_inside_eq_ok_iff {u : Unfinished} {b : Nat} :
    step position b (.inside u) = .ok (next, c)
      ↔ (u.low ≤ b ∧ b ≤ u.high)
        ∧ (u.owed = 0 ∧ next = .between ∧ c = some (Char.ofNat (u.bits * 0x40 + b % 0x40))
          ∨ u.owed ≠ 0 ∧ next = .inside (u.take b) ∧ c = none) := by
  rw [step]
  split
  · rename_i hrange
    rw [and_iff_right (by simpa using hrange)]
    cases howed : u.owed with
    | zero => simp [eq_comm]
    | succ owed => simp [Unfinished.take, howed, eq_comm]
  · rename_i hrange
    refine iff_of_false (fun h => nomatch h) fun h => hrange ?_
    simpa using h.1

theorem decodeFrom_cons_eq_ok_iff {state : State} {b : UInt8} {bs : List UInt8} {text : List Char} :
    decodeFrom position state (b :: bs) = .ok text
      ↔ ∃ next c cs, step position b.toNat state = .ok (next, c) ∧ decodeFrom (position + 1) next bs = .ok cs
        ∧ text = c.toList ++ cs := by
  rw [decodeFrom]
  constructor
  · intro h
    obtain ⟨⟨next, c⟩, hstep, h⟩ := exists_of_bind_eq_ok h
    obtain ⟨cs, hrest, htext⟩ := exists_of_bind_eq_ok h
    exact ⟨next, c, cs, hstep, hrest, (Except.ok.inj htext).symm⟩
  · rintro ⟨next, c, cs, hstep, hrest, rfl⟩
    rw [hstep]
    change (do return c.toList ++ (← decodeFrom (position + 1) next bs)) = _
    rw [hrest]
    rfl

end Steps

/-! ### From inside a character -/

section Inside

variable {u : Unfinished} {position : Nat}

/-- The machine completes every character that is admitted. -/
theorem decodeFrom_tail (hu : u.Sound) {v : Nat} (hv : u.Admits v) {rest : List UInt8} {cs : List Char}
    (hrest : decodeFrom (position + (u.owed + 1)) .between rest = .ok cs) :
    decodeFrom position (.inside u) (tail v (u.owed + 1) ++ rest) = .ok (Char.ofNat v :: cs) := by
  induction howed : u.owed generalizing u position with
  | zero =>
    obtain ⟨hrange, hbits⟩ := hu.admits_and_eq_iff.mp ⟨hv, rfl⟩
    rw [howed, Nat.pow_zero, Nat.div_one] at hrange hbits
    rw [howed] at hrest
    refine decodeFrom_cons_eq_ok_iff.mpr ⟨.between, some (Char.ofNat v), cs, ?_, hrest, rfl⟩
    rw [toNat_ofNat_octet, step_inside_eq_ok_iff, Nat.pow_zero, Nat.div_one, ← hbits]
    exact ⟨hrange, Or.inl ⟨howed, rfl, rfl⟩⟩
  | succ owed ih =>
    have hne : u.owed ≠ 0 := howed ▸ Nat.succ_ne_zero owed
    obtain ⟨hrange, hbits⟩ := hu.admits_and_eq_iff.mp ⟨hv, rfl⟩
    have htake : (u.take (v / 64 ^ u.owed % 64 + 0x80)).owed = owed := congrArg (· - 1) howed
    rw [howed, ← htake, Nat.add_comm _ 1, ← Nat.add_assoc] at hrest
    have hinside := ih (Unfinished.sound_take u _) ((Unfinished.admits_take_iff hne).mpr hbits) hrest htake
    refine decodeFrom_cons_eq_ok_iff.mpr ⟨_, none, _, ?_, hinside, rfl⟩
    rw [toNat_ofNat_octet, step_inside_eq_ok_iff, ← howed]
    exact ⟨hrange, Or.inr ⟨hne, rfl, rfl⟩⟩

/-- The machine completes no other character. -/
theorem exists_of_decodeFrom_inside (hu : u.Sound) {octets : List UInt8} {text : List Char}
    (h : decodeFrom position (.inside u) octets = .ok text) :
    ∃ v rest cs, u.Admits v ∧ octets = tail v (u.owed + 1) ++ rest
      ∧ decodeFrom (position + (u.owed + 1)) .between rest = .ok cs ∧ text = Char.ofNat v :: cs := by
  induction octets generalizing u position text with
  | nil => cases h
  | cons b bs ih =>
    obtain ⟨next, c, cs, hstep, hrest, rfl⟩ := decodeFrom_cons_eq_ok_iff.mp h
    obtain ⟨hrange, ⟨howed, rfl, rfl⟩ | ⟨howed, rfl, rfl⟩⟩ := step_inside_eq_ok_iff.mp hstep
    · have hvalue : (u.bits * 0x40 + b.toNat % 0x40) / 64 ^ u.owed = u.bits * 0x40 + b.toNat % 0x40 := by
        rw [howed, Nat.pow_zero, Nat.div_one]
      obtain ⟨hv, hb⟩ := hu.admits_and_eq_iff.mpr ⟨hrange, hvalue⟩
      refine ⟨_, bs, cs, hv, ?_, howed ▸ hrest, rfl⟩
      rw [← cons_tail hb, howed]
      rfl
    · obtain ⟨v, rest, cs, hadmits, rfl, hafter, rfl⟩ := ih (Unfinished.sound_take u b.toNat) hrest
      obtain ⟨hv, hb⟩ := hu.admits_and_eq_iff.mpr ⟨hrange, (Unfinished.admits_take_iff howed).mp hadmits⟩
      rw [Unfinished.owed_take howed, Nat.add_assoc, Nat.add_comm 1] at hafter
      refine ⟨v, rest, cs, hv, ?_, hafter, rfl⟩
      rw [← cons_tail hb, Unfinished.owed_take howed]
      rfl

end Inside

/-! ### Whole texts -/

section Between

variable {position : Nat}

/-- The machine takes the octets of every character. -/
theorem decodeFrom_utf8EncodeChar (c : Char) {rest : List UInt8} {cs : List Char}
    (hrest : decodeFrom (position + (String.utf8EncodeChar c).length) .between rest = .ok cs) :
    decodeFrom position .between (String.utf8EncodeChar c ++ rest) = .ok (c :: cs) := by
  rcases lt_or_exists_inRange c with hc | ⟨n, hn⟩
  · rw [utf8EncodeChar_of_lt hc] at hrest ⊢
    refine decodeFrom_cons_eq_ok_iff.mpr ⟨.between, some c, cs, ?_, hrest, rfl⟩
    rw [step_between_eq_ok_iff, UInt8.toNat_ofNat_of_lt' (Nat.lt_trans hc (by decide)), Char.ofNat_toNat]
    exact Or.inl ⟨hc, rfl, rfl⟩
  · obtain ⟨u, hu, rfl⟩ := exists_lead? hn
    have hv : u.Admits c.toNat := (admits_iff_of_lead? hu c.toNat).mpr ⟨hn, rfl⟩
    rw [utf8EncodeChar_of_inRange hn] at hrest ⊢
    rw [List.length_cons, length_tail, Nat.add_comm _ 1, ← Nat.add_assoc] at hrest
    have hinside := decodeFrom_tail (sound_of_lead? hu) hv hrest
    rw [Char.ofNat_toNat] at hinside
    refine decodeFrom_cons_eq_ok_iff.mpr ⟨.inside u, none, _, ?_, hinside, rfl⟩
    rw [step_between_eq_ok_iff, UInt8.toNat_ofNat_of_lt' (lead_lt_of_inRange hn)]
    exact Or.inr ⟨Nat.not_lt.mpr (le_lead _ _), ⟨u, hu, rfl⟩, rfl⟩

/-- The machine takes nothing but the octets of a character. -/
theorem exists_of_decodeFrom_between {b : UInt8} {bs : List UInt8} {text : List Char}
    (h : decodeFrom position .between (b :: bs) = .ok text) :
    ∃ behind c rest cs, b :: bs = String.utf8EncodeChar c ++ rest ∧ decodeFrom behind .between rest = .ok cs
      ∧ text = c :: cs := by
  obtain ⟨next, c, cs, hstep, hrest, rfl⟩ := decodeFrom_cons_eq_ok_iff.mp h
  rcases step_between_eq_ok_iff.mp hstep with ⟨hb, rfl, rfl⟩ | ⟨hb, ⟨u, hu, rfl⟩, rfl⟩
  · have hc : (Char.ofNat b.toNat).toNat = b.toNat :=
      toNat_ofNat_of_isValidChar (Or.inl (Nat.lt_trans hb (by decide)))
    refine ⟨_, Char.ofNat b.toNat, bs, cs, ?_, hrest, rfl⟩
    rw [utf8EncodeChar_of_lt (hc.symm ▸ hb), hc, UInt8.ofNat_toNat]
    rfl
  · obtain ⟨v, rest, cs, hv, rfl, hafter, rfl⟩ := exists_of_decodeFrom_inside (sound_of_lead? hu) hrest
    obtain ⟨hrange, hb⟩ := (admits_iff_of_lead? hu v).mp hv
    have hc := toNat_ofNat_of_isValidChar (isValidChar_of_inRange hrange)
    refine ⟨_, Char.ofNat v, rest, cs, ?_, hafter, rfl⟩
    rw [← hc] at hrange
    rw [utf8EncodeChar_of_inRange hrange, hc, ← hb, UInt8.ofNat_toNat]
    rfl

end Between

theorem decodeFrom_between_eq_ok_iff (position : Nat) (octets : List UInt8) (text : List Char) :
    decodeFrom position .between octets = .ok text ↔ octets = text.flatMap String.utf8EncodeChar := by
  constructor
  · intro h
    -- A character may have several octets, so the induction is on their number.
    induction hlength : octets.length using Nat.strongRecOn generalizing position octets text with
    | ind n ih =>
      cases octets with
      | nil =>
        cases h
        rfl
      | cons b bs =>
        obtain ⟨behind, c, rest, cs, hoctets, hrest, rfl⟩ := exists_of_decodeFrom_between h
        have hlt : rest.length < n := by
          have hpos := c.utf8Size_pos
          rw [← hlength, hoctets, List.length_append, String.length_utf8EncodeChar]
          omega
        rw [List.flatMap_cons, ← ih _ hlt _ _ _ hrest rfl, hoctets]
  · rintro rfl
    induction text generalizing position with
    | nil => rfl
    | cons c cs ih => exact decodeFrom_utf8EncodeChar c (ih _)

theorem decode_eq_ok_iff (octets : List UInt8) (text : List Char) :
    decode octets = .ok text ↔ octets = text.flatMap String.utf8EncodeChar :=
  decodeFrom_between_eq_ok_iff 0 octets text

theorem decode_toUTF8 (s : String) : decode s.toUTF8.data.toList = .ok s.toList := by
  rw [decode_eq_ok_iff, String.toUTF8, ← s.utf8Encode_toList, List.utf8Encode, List.data_toByteArray]

theorem exists_decode_eq_ok_iff (octets : List UInt8) :
    (∃ text, decode octets = .ok text) ↔ octets.toByteArray.IsValidUTF8 := by
  constructor
  · rintro ⟨text, htext⟩
    rw [decode_eq_ok_iff] at htext
    exact ⟨text, congrArg List.toByteArray htext⟩
  · rintro ⟨text, htext⟩
    exact ⟨text, (decode_eq_ok_iff octets text).mpr (List.toByteArray_inj.mp htext)⟩

end Mediation.Text.Utf8
