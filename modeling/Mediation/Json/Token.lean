import Mediation.Json.Value

/-!
# JSON tokens

The lexemes of a JSON text and the line on which each begins. A string cannot run over the end of a line,
so the line of its opening quote is also that of every fault inside it. Lexing stops at the first lexeme
that no JSON text can hold.
-/

namespace Mediation.Json

/-- What is wrong with a JSON text. -/
inductive Cause where
  | expectingValue
  | expectingKey
  | expectingColon
  | expectingComma
  | extraData
  | unterminatedString
  | controlCharacter
  | badEscape
  | badUnicodeEscape
  | byteOrderMark
  deriving DecidableEq

def Cause.message : Cause → String
  | .expectingValue => "Expecting value"
  | .expectingKey => "Expecting property name enclosed in double quotes"
  | .expectingColon => "Expecting ':' delimiter"
  | .expectingComma => "Expecting ',' delimiter"
  | .extraData => "Extra data"
  | .unterminatedString => "Unterminated string starting at"
  | .controlCharacter => "Invalid control character at"
  | .badEscape => "Invalid \\escape"
  | .badUnicodeEscape => "Invalid \\uXXXX escape"
  | .byteOrderMark => "Unexpected UTF-8 BOM (decode using utf-8-sig)"

inductive Token where
  | openArr
  | closeArr
  | openObj
  | closeObj
  | comma
  | colon
  | scalar (value : Json)
  | str (text : String)
  | badStr (cause : Cause)
  | other

/-- A token and the line it begins on. -/
structure Lexeme where
  line : Nat
  token : Token

/-! ### Strings -/

/-- The character that a one-letter escape stands for. -/
def escaped? : Char → Option Char
  | '"' => some '"'
  | '\\' => some '\\'
  | '/' => some '/'
  | 'b' => some '\x08'
  | 'f' => some '\x0c'
  | 'n' => some '\n'
  | 'r' => some '\r'
  | 't' => some '\t'
  | _ => none

/-- Whether a unit is the first half of a surrogate pair. -/
def isHighUnit (unit : Nat) : Bool := 0xd800 ≤ unit && unit < 0xdc00

/-- Whether a unit is the second half of a surrogate pair. -/
def isLowUnit (unit : Nat) : Bool := 0xdc00 ≤ unit && unit < 0xe000

/-- The character of a surrogate pair. -/
def ofPair (high low : Nat) : Char := Char.ofNat (0x10000 + (high - 0xd800) * 0x400 + (low - 0xdc00))

/-- The character of a unit on its own. Half a pair stands for no character and is replaced, as texts are sequences of
characters. -/
def ofUnit (unit : Nat) : Char :=
  if isHighUnit unit || isLowUnit unit then '\ufffd' else Char.ofNat unit

/-- The characters of a row of units, in which a high half and a low half that follow each other are one. -/
def joinUnits : List Nat → List Char
  | [] => []
  | [unit] => [ofUnit unit]
  | unit :: next :: rest =>
    if isHighUnit unit && isLowUnit next then ofPair unit next :: joinUnits rest
    else ofUnit unit :: joinUnits (next :: rest)

/-- A unit in front of what was scanned. -/
def consUnit (unit : Nat) (scanned : Except Cause (List Nat × List Char)) :
    Except Cause (List Nat × List Char) :=
  scanned.map fun p => (unit :: p.1, p.2)

/-- Scans a string after its opening quote: its units, and what follows the closing quote. -/
def scanString : List Char → Except Cause (List Nat × List Char)
  | [] => .error .unterminatedString
  | '"' :: rest => .ok ([], rest)
  | '\\' :: 'u' :: a :: b :: c :: d :: rest =>
    match Text.ofHex? [a, b, c, d] with
    | some unit => if rest.isEmpty then .error .badUnicodeEscape else consUnit unit (scanString rest)
    | none => .error .badUnicodeEscape
  | '\\' :: 'u' :: _ => .error .badUnicodeEscape
  | ['\\'] => .error .unterminatedString
  | '\\' :: c :: rest =>
    match escaped? c with
    | some e => consUnit e.toNat (scanString rest)
    | none => .error .badEscape
  | c :: rest =>
    if c.toNat < 0x20 then .error .controlCharacter else consUnit c.toNat (scanString rest)

/-! ### Numbers and words -/

/-- The longest beginning of digits, and the rest. -/
def spanDigits (cs : List Char) : List Char × List Char := (cs.takeWhile Char.isDigit, cs.dropWhile Char.isDigit)

/-- The number written by decimal digits. -/
def ofDigits (cs : List Char) : Nat := cs.foldl (fun n c => n * 10 + (c.toNat - '0'.toNat)) 0

/-- The digits before the point: one zero, or digits that do not begin with zero. -/
def scanWhole : List Char → Option (List Char × List Char)
  | '0' :: rest => some (['0'], rest)
  | cs => if (spanDigits cs).1.isEmpty then none else some (spanDigits cs)

/-- The digits after a point, if a point with digits stands there. -/
def scanFraction : List Char → List Char × List Char
  | '.' :: rest => if (spanDigits rest).1.isEmpty then ([], '.' :: rest) else spanDigits rest
  | cs => ([], cs)

/-- The digits after the sign of an exponent. -/
def scanPower (negative : Bool) (cs : List Char) : Option (Int × List Char) :=
  match spanDigits cs with
  | ([], _) => none
  | (digits, rest) => some (if negative then -(ofDigits digits) else ofDigits digits, rest)

/-- The exponent, if one stands there. -/
def scanExponent : List Char → Option (Int × List Char)
  | c :: '+' :: rest => if c = 'e' ∨ c = 'E' then scanPower false rest else none
  | c :: '-' :: rest => if c = 'e' ∨ c = 'E' then scanPower true rest else none
  | c :: rest => if c = 'e' ∨ c = 'E' then scanPower false rest else none
  | [] => none

/-- Scans a number without its sign. A point or an exponent makes it a floating-point one. -/
def scanUnsigned (negative : Bool) (cs : List Char) : Option (Json × List Char) := do
  let (whole, afterWhole) ← scanWhole cs
  let (fraction, afterFraction) := scanFraction afterWhole
  let digits := ofDigits (whole ++ fraction)
  match scanExponent afterFraction with
  | some (power, rest) => some (.float (.ofDecimal negative digits (power - fraction.length)), rest)
  | none =>
    if fraction.isEmpty then some (.int (if negative then -digits else digits), afterFraction)
    else some (.float (.ofDecimal negative digits (-fraction.length)), afterFraction)

/-- Scans a number or a word. -/
def scanScalar : List Char → Option (Json × List Char)
  | 'n' :: 'u' :: 'l' :: 'l' :: rest => some (.null, rest)
  | 't' :: 'r' :: 'u' :: 'e' :: rest => some (.bool true, rest)
  | 'f' :: 'a' :: 'l' :: 's' :: 'e' :: rest => some (.bool false, rest)
  | 'N' :: 'a' :: 'N' :: rest => some (.float .nan, rest)
  | 'I' :: 'n' :: 'f' :: 'i' :: 'n' :: 'i' :: 't' :: 'y' :: rest => some (.float (.infinity false), rest)
  | '-' :: 'I' :: 'n' :: 'f' :: 'i' :: 'n' :: 'i' :: 't' :: 'y' :: rest =>
    some (.float (.infinity true), rest)
  | '-' :: rest => scanUnsigned true rest
  | cs => scanUnsigned false cs

/-! ### Lexing -/

def punctuation? : Char → Option Token
  | '[' => some .openArr
  | ']' => some .closeArr
  | '\x7b' => some .openObj
  | '\x7d' => some .closeObj
  | ',' => some .comma
  | ':' => some .colon
  | _ => none

theorem consUnit_length_le {unit n : Nat} {scanned : Except Cause (List Nat × List Char)}
    (h : ∀ p, scanned = .ok p → p.2.length ≤ n) : ∀ p, consUnit unit scanned = .ok p → p.2.length ≤ n := by
  cases scanned with
  | error => intro p hp; cases hp
  | ok q =>
    intro p hp
    cases hp
    exact h q rfl

/-- What follows a string is shorter than what the scan began with. -/
theorem scanString_length_le (cs : List Char) : ∀ p, scanString cs = .ok p → p.2.length ≤ cs.length := by
  fun_induction scanString cs with
  | case2 => intro p hp; cases hp; simp
  | case4 a b c d rest unit _ _ ih =>
    exact consUnit_length_le fun p hp => Nat.le_trans (ih p hp) (by simp; omega)
  | case8 c rest _ _ e _ ih => exact consUnit_length_le fun p hp => Nat.le_trans (ih p hp) (by simp; omega)
  | case11 c rest _ _ _ _ _ _ ih => exact consUnit_length_le fun p hp => Nat.le_trans (ih p hp) (by simp)
  | _ => intro p hp; cases hp

theorem spanDigits_length_le (cs : List Char) : (spanDigits cs).2.length ≤ cs.length :=
  (List.dropWhile_sublist _).length_le

theorem spanDigits_length_lt {cs : List Char} (h : (spanDigits cs).1.isEmpty = false) :
    (spanDigits cs).2.length < cs.length := by
  cases cs with
  | nil => simp [spanDigits] at h
  | cons c cs =>
    by_cases hc : c.isDigit = true
    · have := spanDigits_length_le cs
      simp only [spanDigits, List.dropWhile_cons, hc, ↓reduceIte, List.length_cons] at this ⊢
      omega
    · simp [spanDigits, hc] at h

theorem scanWhole_length_lt (cs : List Char) : ∀ p, scanWhole cs = some p → p.2.length < cs.length := by
  intro p hp
  unfold scanWhole at hp
  split at hp
  · cases hp; simp
  · split at hp
    · cases hp
    · rename_i h
      cases hp
      exact spanDigits_length_lt (by simpa using h)

theorem scanFraction_length_le (cs : List Char) : (scanFraction cs).2.length ≤ cs.length := by
  unfold scanFraction
  split
  · split
    · simp
    · exact Nat.le_succ_of_le (spanDigits_length_le _)
  · simp

theorem scanPower_length_le (negative : Bool) (cs : List Char) :
    ∀ p, scanPower negative cs = some p → p.2.length ≤ cs.length := by
  intro p hp
  have := spanDigits_length_le cs
  unfold scanPower at hp
  split at hp
  · cases hp
  · rename_i digits rest _ h
    cases hp
    simpa [h] using this

theorem scanExponent_length_le (cs : List Char) : ∀ p, scanExponent cs = some p → p.2.length ≤ cs.length := by
  intro p hp
  unfold scanExponent at hp
  split at hp
  · split at hp
    · exact Nat.le_trans (scanPower_length_le _ _ p hp) (by simp; omega)
    · cases hp
  · split at hp
    · exact Nat.le_trans (scanPower_length_le _ _ p hp) (by simp; omega)
    · cases hp
  · split at hp
    · exact Nat.le_trans (scanPower_length_le _ _ p hp) (by simp)
    · cases hp
  · cases hp

theorem scanUnsigned_length_lt (negative : Bool) (cs : List Char) :
    ∀ p, scanUnsigned negative cs = some p → p.2.length < cs.length := by
  intro p hp
  unfold scanUnsigned at hp
  cases hw : scanWhole cs with
  | none => rw [hw] at hp; cases hp
  | some whole =>
    have hlt := scanWhole_length_lt cs whole hw
    have hle := scanFraction_length_le whole.2
    simp only [hw, Option.bind_eq_bind, Option.bind_some] at hp
    split at hp
    · rename_i power rest he
      have := scanExponent_length_le _ _ he
      cases hp
      simp only at this ⊢
      omega
    · split at hp <;> cases hp <;> exact Nat.lt_of_le_of_lt hle hlt

/-- A number or a word takes up at least one character. -/
theorem scanScalar_length_lt (cs : List Char) : ∀ p, scanScalar cs = some p → p.2.length < cs.length := by
  intro p hp
  unfold scanScalar at hp
  split at hp
  case h_7 rest => exact Nat.lt_succ_of_lt (scanUnsigned_length_lt true _ p hp)
  case h_8 => exact scanUnsigned_length_lt false _ p hp
  all_goals cases hp; simp; omega

/-- Whether `c` is one of the blanks between lexemes that do not end a line. -/
def isSpace (c : Char) : Bool := c = ' ' || c = '\t' || c = '\r'

/-- The lexemes of a text whose first character stands on line `line`. -/
def lex (line : Nat) : List Char → List Lexeme
  | [] => []
  | c :: cs =>
    if c = '\n' then lex (line + 1) cs
    else if isSpace c then lex line cs
    else
      match punctuation? c with
      | some token => ⟨line, token⟩ :: lex line cs
      | none =>
        if c = '"' then
          match _scanned : scanString cs with
          | .ok (units, rest) => ⟨line, .str (String.ofList (joinUnits units))⟩ :: lex line rest
          | .error cause => [⟨line, .badStr cause⟩]
        else
          match _scanned : scanScalar (c :: cs) with
          | some (value, rest) => ⟨line, .scalar value⟩ :: lex line rest
          | none => [⟨line, .other⟩]
termination_by cs => cs.length
decreasing_by
  · simp
  · simp
  · simp
  · exact Nat.lt_succ_of_le (scanString_length_le _ _ _scanned)
  · exact scanScalar_length_lt _ _ _scanned

end Mediation.Json
