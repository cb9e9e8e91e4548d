import Mathlib.Algebra.Group.Nat.Defs
import Mathlib.Data.List.Basic
import Mathlib.Tactic.Set
import Mathlib.Tactic.SplitIfs
import Mediation.Json.Token
import Mediation.Json.Writer

/-!
# Lexing what was written

The lexemes of a written value are its tokens. A string is scanned unit by unit, and the units of its characters join
to the characters again; an integer is scanned digit by digit up to a character that cannot continue it, and the writer
puts no other behind a value. Floating-point numbers are left out: no finding has one.
-/

namespace Mediation

namespace Text

theorem hexValue?_digitChar : ∀ d < 16, hexValue? (Nat.digitChar d) = some d := by decide

theorem ofHex?_append_singleton (cs : List Char) (c : Char) :
    ofHex? (cs ++ [c]) = (do return (← ofHex? cs) * 16 + (← hexValue? c)) := by
  rw [ofHex?, List.foldl_append]
  rfl

theorem ofHex?_hex (width n : Nat) : ofHex? (hex width n) = some (n % 16 ^ width) := by
  induction width generalizing n with
  | zero => simp [hex, ofHex?, Nat.mod_one]
  | succ width ih =>
    have hdigit : hexValue? (Nat.digitChar (n % 16)) = some (n % 16) :=
      hexValue?_digitChar _ (Nat.mod_lt n (by decide))
    have hvalue : n / 16 % 16 ^ width * 16 + n % 16 = n % 16 ^ (width + 1) := by
      rw [Nat.pow_succ, Nat.mul_comm (16 ^ width), Nat.mod_mul]
      omega
    rw [hex, ofHex?_append_singleton, ih, hdigit]
    change some _ = _
    rw [hvalue]

end Text

namespace Json

/-! ### Strings -/

/-- The 16-bit units of a character. -/
def units (c : Char) : List Nat :=
  if c.toNat < 0x10000 then [c.toNat]
  else [0xd800 + (c.toNat - 0x10000) / 0x400, 0xdc00 + (c.toNat - 0x10000) % 0x400]

/-- Code points leave a gap where the halves of pairs are. -/
theorem toNat_bounds (c : Char) : c.toNat < 0xd800 ∨ 0xdfff < c.toNat ∧ c.toNat < 0x110000 := c.valid

theorem scanString_plain {c : Char} (hquote : c ≠ '"') (hslash : c ≠ '\\') (hcontrol : 0x20 ≤ c.toNat)
    (rest : List Char) : scanString (c :: rest) = consUnit c.toNat (scanString rest) := by
  have hnot : ¬ c.toNat < 0x20 := by omega
  rw [scanString, if_neg hnot]
  all_goals simp_all

theorem scanString_short {c e : Char} (hescaped : escaped? e = some c) (rest : List Char) :
    scanString ('\\' :: e :: rest) = consUnit c.toNat (scanString rest) := by
  have hu : e ≠ 'u' := by
    rintro rfl
    cases hescaped
  rw [scanString]
  · rw [hescaped]
  · rintro a b c d rest rfl
    exact fun _ => hu rfl
  · exact fun h => absurd h hu

theorem scanString_escapeUnit {unit : Nat} (hunit : unit < 16 ^ 4) {rest : List Char} (hrest : rest ≠ []) :
    scanString (escapeUnit unit ++ rest) = consUnit unit (scanString rest) := by
  have hvalue : Text.ofHex? (Text.hex 4 unit) = some unit := by
    rw [Text.ofHex?_hex, Nat.mod_eq_of_lt hunit]
  have hempty : rest.isEmpty = false := by simpa using hrest
  simp only [Text.hex, List.nil_append, List.cons_append] at hvalue
  simp only [escapeUnit, Text.hex, List.nil_append, List.cons_append, scanString, hvalue, hempty]
  rfl

/-- Scanning what stands for a character gives its units. -/
theorem scanString_escapeChar (c : Char) {rest : List Char} (hrest : rest ≠ []) :
    scanString (escapeChar c ++ rest) = (scanString rest).map fun p => (units c ++ p.1, p.2) := by
  have hone : c.toNat < 0x10000 →
      (scanString rest).map (fun p => (units c ++ p.1, p.2)) = consUnit c.toNat (scanString rest) := by
    intro hc
    rw [units, if_pos hc]
    rfl
  have hshort : ∀ e, escaped? e = some c → c.toNat < 0x10000 →
      scanString (['\\', e] ++ rest) = (scanString rest).map fun p => (units c ++ p.1, p.2) :=
    fun e he hc => (scanString_short he rest).trans (hone hc).symm
  rw [escapeChar]
  split_ifs with hself hn hr ht hb hf hprint hsmall
  · rw [Bool.or_eq_true, decide_eq_true_eq, decide_eq_true_eq] at hself
    rcases hself with rfl | rfl
    · exact hshort '"' rfl (by decide)
    · exact hshort '\\' rfl (by decide)
  · exact hshort 'n' (hn ▸ rfl) (hn ▸ by decide)
  · exact hshort 'r' (hr ▸ rfl) (hr ▸ by decide)
  · exact hshort 't' (ht ▸ rfl) (ht ▸ by decide)
  · exact hshort 'b' (hb ▸ rfl) (hb ▸ by decide)
  · exact hshort 'f' (hf ▸ rfl) (hf ▸ by decide)
  · simp only [Bool.or_eq_true, decide_eq_true_eq, not_or] at hself
    simp only [Bool.and_eq_true, decide_eq_true_eq] at hprint
    exact (scanString_plain hself.1 hself.2 hprint.1 rest).trans (hone (by omega)).symm
  · rw [scanString_escapeUnit hsmall hrest, hone hsmall]
  · have hc := toNat_bounds c
    have hhigh : 0xd800 + (c.toNat - 0x10000) / 0x400 < 16 ^ 4 := by omega
    have hlow : 0xdc00 + (c.toNat - 0x10000) % 0x400 < 16 ^ 4 := by omega
    rw [List.append_assoc, scanString_escapeUnit hhigh (by simp [escapeUnit]), scanString_escapeUnit hlow hrest, units,
      if_neg hsmall]
    cases scanString rest <;> rfl

theorem scanString_flatMap_escapeChar (cs rest : List Char) :
    scanString (cs.flatMap escapeChar ++ '"' :: rest) = .ok (cs.flatMap units, rest) := by
  induction cs with
  | nil => rfl
  | cons c cs ih =>
    rw [List.flatMap_cons, List.append_assoc, scanString_escapeChar c (by simp), ih]
    rfl

/-- A unit that is no half of a pair is a character of its own, whatever follows it. -/
theorem joinUnits_cons_of_not_high {unit : Nat} (hunit : isHighUnit unit = false) (rest : List Nat) :
    joinUnits (unit :: rest) = ofUnit unit :: joinUnits rest := by
  cases rest with
  | nil => rfl
  | cons next rest => simp [joinUnits, hunit]

theorem joinUnits_units_append (c : Char) (rest : List Nat) :
    joinUnits (units c ++ rest) = c :: joinUnits rest := by
  have hc := toNat_bounds c
  rw [units]
  split_ifs with hsmall
  · have hhigh : isHighUnit c.toNat = false := by
      simp only [isHighUnit, Bool.and_eq_false_iff, decide_eq_false_iff_not]
      omega
    have hlow : isLowUnit c.toNat = false := by
      simp only [isLowUnit, Bool.and_eq_false_iff, decide_eq_false_iff_not]
      omega
    rw [List.singleton_append, joinUnits_cons_of_not_high hhigh, ofUnit, hhigh, hlow]
    simp
  · set offset := c.toNat - 0x10000 with hoffset
    have hhigh : isHighUnit (0xd800 + offset / 0x400) = true := by
      simp only [isHighUnit, Bool.and_eq_true, decide_eq_true_eq]
      omega
    have hlow : isLowUnit (0xdc00 + offset % 0x400) = true := by
      simp only [isLowUnit, Bool.and_eq_true, decide_eq_true_eq]
      omega
    have hpair : ofPair (0xd800 + offset / 0x400) (0xdc00 + offset % 0x400) = c := by
      have hsum : 0x10000 + (0xd800 + offset / 0x400 - 0xd800) * 0x400 + (0xdc00 + offset % 0x400 - 0xdc00)
          = c.toNat := by
        omega
      rw [ofPair, hsum, Char.ofNat_toNat]
    simp only [List.cons_append, List.nil_append, joinUnits, hhigh, hlow, hpair, Bool.and_self, if_true]

theorem joinUnits_flatMap_units (cs : List Char) : joinUnits (cs.flatMap units) = cs := by
  induction cs with
  | nil => rfl
  | cons c cs ih => rw [List.flatMap_cons, joinUnits_units_append, ih]

/-! ### Integers -/

/-- What may follow a number: nothing that continues it. -/
def EndsNumber (rest : List Char) : Prop :=
  ∀ c ∈ rest.head?, c.isDigit = false ∧ c ≠ '.' ∧ c ≠ 'e' ∧ c ≠ 'E'

theorem spanDigits_append {digits rest : List Char} (hdigits : ∀ c ∈ digits, c.isDigit = true)
    (hrest : EndsNumber rest) : spanDigits (digits ++ rest) = (digits, rest) := by
  have hstop : rest.takeWhile Char.isDigit = [] ∧ rest.dropWhile Char.isDigit = rest := by
    cases rest with
    | nil => exact ⟨rfl, rfl⟩
    | cons c rest =>
      have hc : c.isDigit = false := (hrest c rfl).1
      simp [hc]
  rw [spanDigits, List.takeWhile_append_of_pos hdigits, List.dropWhile_append_of_pos hdigits, hstop.1, hstop.2,
    List.append_nil]

theorem isDigit_of_mem_toDigits {n : Nat} : ∀ c ∈ Nat.toDigits 10 n, c.isDigit = true :=
  fun _ => Nat.isDigit_of_mem_toDigits (by decide) (by decide)

theorem ofDigits_toDigits (n : Nat) : ofDigits (Nat.toDigits 10 n) = n := by
  have hfold : ofDigits (Nat.toDigits 10 n) = Nat.ofDigitChars 10 (Nat.toDigits 10 n) 0 := by
    rw [Nat.ofDigitChars_eq_foldl, ofDigits]
    simp only [Nat.mul_comm]
  rw [hfold, Nat.ofDigitChars_ten_toDigits]

/-- A number is written with a digit in front, which is zero only for zero. -/
theorem exists_toDigits_eq_cons (n : Nat) :
    ∃ d ds, Nat.toDigits 10 n = d :: ds ∧ d.isDigit = true ∧ (d = '0' → n = 0) := by
  induction n using Nat.strongRecOn with
  | ind n ih =>
    rw [Nat.toDigits_eq_if (by decide)]
    split_ifs with hlt
    · exact ⟨n.digitChar, [], rfl, by simpa [Nat.isDigit_digitChar] using hlt, Nat.digitChar_eq_zero.mp⟩
    · obtain ⟨d, ds, hd, hdigit, hzero⟩ := ih (n / 10) (by omega)
      refine ⟨d, ds ++ [(n % 10).digitChar], by rw [hd, List.cons_append], hdigit, fun h => ?_⟩
      have hquotient := hzero h
      omega

theorem toList_toString_negSucc (n : Nat) : (toString (Int.negSucc n)).toList = '-' :: Nat.toDigits 10 (n + 1) := by
  change ("-" ++ Nat.repr (n + 1)).toList = _
  rw [String.toList_append, Nat.toList_repr]
  rfl

theorem scanWhole_toDigits (n : Nat) {rest : List Char} (hrest : EndsNumber rest) :
    scanWhole (Nat.toDigits 10 n ++ rest) = some (Nat.toDigits 10 n, rest) := by
  by_cases hn : n = 0
  · subst hn
    rfl
  · obtain ⟨d, ds, hd, -, hzero⟩ := exists_toDigits_eq_cons n
    have hspan := spanDigits_append (isDigit_of_mem_toDigits (n := n)) hrest
    rw [hd, List.cons_append] at hspan ⊢
    rw [scanWhole, hspan]
    · rfl
    · intro tail h
      exact hn (hzero (List.cons.inj h).1)

theorem scanFraction_of_endsNumber {rest : List Char} (hrest : EndsNumber rest) : scanFraction rest = ([], rest) := by
  rw [scanFraction.eq_def]
  split
  · exact absurd rfl (hrest '.' rfl).2.1
  · rfl

theorem scanExponent_of_endsNumber {rest : List Char} (hrest : EndsNumber rest) : scanExponent rest = none := by
  cases rest with
  | nil => rfl
  | cons c rest =>
    obtain ⟨-, -, he, hE⟩ := hrest c rfl
    rw [scanExponent.eq_def]
    split <;> simp_all

theorem scanUnsigned_toDigits (negative : Bool) (n : Nat) {rest : List Char} (hrest : EndsNumber rest) :
    scanUnsigned negative (Nat.toDigits 10 n ++ rest) = some (.int (if negative then -n else n), rest) := by
  simp only [scanUnsigned, scanWhole_toDigits n hrest, Option.bind_eq_bind, Option.bind_some,
    scanFraction_of_endsNumber hrest, scanExponent_of_endsNumber hrest, List.append_nil, ofDigits_toDigits]
  rfl

theorem scanScalar_of_isDigit {d : Char} (hd : d.isDigit = true) (cs : List Char) :
    scanScalar (d :: cs) = scanUnsigned false (d :: cs) := by
  rw [scanScalar.eq_def]
  split <;> simp_all

theorem scanScalar_neg_of_isDigit {d : Char} (hd : d.isDigit = true) (cs : List Char) :
    scanScalar ('-' :: d :: cs) = scanUnsigned true (d :: cs) := by
  rw [scanScalar.eq_def]
  split <;> simp_all

/-- An integer is scanned as it was written, and nothing behind it is taken. -/
theorem scanScalar_int (value : Int) {rest : List Char} (hrest : EndsNumber rest) :
    scanScalar ((toString value).toList ++ rest) = some (.int value, rest) := by
  cases value with
  | ofNat n =>
    obtain ⟨d, ds, hd, hdigit, -⟩ := exists_toDigits_eq_cons n
    have hscan := scanUnsigned_toDigits false n hrest
    change scanScalar ((Nat.repr n).toList ++ rest) = _
    rw [Nat.toList_repr]
    rw [hd, List.cons_append] at hscan ⊢
    rw [scanScalar_of_isDigit hdigit, hscan]
    rfl
  | negSucc n =>
    obtain ⟨d, ds, hd, hdigit, -⟩ := exists_toDigits_eq_cons (n + 1)
    have hscan := scanUnsigned_toDigits true (n + 1) hrest
    rw [toList_toString_negSucc]
    rw [hd, List.cons_append] at hscan ⊢
    rw [List.cons_append, scanScalar_neg_of_isDigit hdigit, hscan]
    rfl

/-! ### Lexemes -/

theorem lex_blank (line : Nat) (cs : List Char) : lex line (' ' :: cs) = lex line cs := by
  rw [lex]
  rfl

theorem isSpace_eq_false_of {p : Char → Prop} {c : Char} (hc : p c) (hblank : ¬ p ' ') (htab : ¬ p '\t')
    (hreturn : ¬ p '\r') : isSpace c = false := by
  rw [Bool.eq_false_iff]
  intro h
  simp only [isSpace, Bool.or_eq_true, decide_eq_true_eq] at h
  rcases h with (rfl | rfl) | rfl
  · exact hblank hc
  · exact htab hc
  · exact hreturn hc

theorem lex_punctuation {c : Char} {token : Token} (hc : punctuation? c = some token) (line : Nat)
    (cs : List Char) : lex line (c :: cs) = ⟨line, token⟩ :: lex line cs := by
  have hline : c ≠ '\n' := by
    rintro rfl
    cases hc
  have hspace := isSpace_eq_false_of (p := fun c => punctuation? c = some token) hc nofun nofun nofun
  simp [lex, hline, hspace, hc]

theorem lex_writeString (line : Nat) (s : String) (rest : List Char) :
    lex line (writeString s ++ rest) = ⟨line, .str s⟩ :: lex line rest := by
  have hscan := scanString_flatMap_escapeChar s.toList rest
  have hwritten : writeString s ++ rest = '"' :: (s.toList.flatMap escapeChar ++ '"' :: rest) := by
    simp [writeString]
  have hspace : isSpace '"' = false := rfl
  have hpunctuation : punctuation? '"' = none := rfl
  rw [hwritten, lex, if_neg (by decide), hspace, if_neg Bool.false_ne_true, hpunctuation]
  simp only [if_true]
  split
  · rename_i units' rest' h
    rw [hscan] at h
    cases h
    rw [joinUnits_flatMap_units, String.ofList_toList]
  · rename_i h
    rw [hscan] at h
    cases h

/-- Whether a number or a word can begin with a character. -/
def startsScalar (c : Char) : Bool := c ≠ '\n' && !isSpace c && (punctuation? c).isNone && c ≠ '"'

theorem startsScalar_of_isDigit {c : Char} (hc : c.isDigit = true) : startsScalar c = true := by
  have hline : c ≠ '\n' := by
    rintro rfl
    cases hc
  have hspace := isSpace_eq_false_of (p := fun c => c.isDigit = true) hc (by decide) (by decide) (by decide)
  have hquote : c ≠ '"' := by
    rintro rfl
    cases hc
  have hpunctuation : punctuation? c = none := by
    rw [punctuation?.eq_def]
    split <;> simp_all
  simp [startsScalar, hline, hspace, hquote, hpunctuation]

theorem exists_toString_int_eq_cons (value : Int) :
    ∃ c cs, (toString value).toList = c :: cs ∧ startsScalar c = true := by
  cases value with
  | ofNat n =>
    obtain ⟨d, ds, hd, hdigit, -⟩ := exists_toDigits_eq_cons n
    exact ⟨d, ds, Nat.toList_repr.trans hd, startsScalar_of_isDigit hdigit⟩
  | negSucc n => exact ⟨'-', (Nat.repr (n + 1)).toList, String.toList_append, rfl⟩

theorem lex_scalar {c : Char} {cs rest : List Char} {value : Json} (hc : startsScalar c = true)
    (hscan : scanScalar (c :: cs) = some (value, rest)) (line : Nat) :
    lex line (c :: cs) = ⟨line, .scalar value⟩ :: lex line rest := by
  simp only [startsScalar, Bool.and_eq_true, decide_eq_true_eq, Bool.not_eq_true', Option.isNone_iff_eq_none] at hc
  obtain ⟨⟨⟨hline, hspace⟩, hpunctuation⟩, hquote⟩ := hc
  rw [lex, if_neg hline, hspace, if_neg Bool.false_ne_true, hpunctuation]
  simp only [if_neg hquote]
  split
  · rename_i value' rest' h
    rw [hscan] at h
    cases h
    rfl
  · rename_i h
    rw [hscan] at h
    cases h

end Json

end Mediation
