import Mediation.Text.Hex

/-!
# Encodings

The octets that a stream has for characters. A text with a character that the stream lacks is refused as a whole: none
of its octets are written.
-/

namespace Mediation.Text

/-- How a stream encodes characters. -/
structure Encoding where
  name : String
  /-- The octets of a character that the encoding has. -/
  octets? : Char → Option (List UInt8)
  /-- What is wrong with the others. -/
  objection : String

namespace Encoding

def utf8 : Encoding where
  name := "utf-8"
  octets? := fun c => some (String.utf8EncodeChar c)
  objection := "surrogates not allowed"

def ascii : Encoding where
  name := "ascii"
  octets? := fun c => if c.toNat < 0x80 then some [c.toNat.toUInt8] else none
  objection := "ordinal not in range(128)"

/-- A refusal: the first character that the encoding lacks, its position, and how many such characters stand there in
a row. -/
structure Fault where
  position : Nat
  first : Char
  count : Nat
  deriving DecidableEq

/-- The shortest escape of a character by its code point. -/
def escape (c : Char) : String :=
  if c.toNat ≤ 0xff then "\\x" ++ String.ofList (hex 2 c.toNat)
  else if c.toNat ≤ 0xffff then "\\u" ++ String.ofList (hex 4 c.toNat)
  else "\\U" ++ String.ofList (hex 8 c.toNat)

def message (e : Encoding) (f : Fault) : String :=
  let place :=
    if f.count = 1 then "character '" ++ escape f.first ++ "' in position " ++ toString f.position
    else "characters in position " ++ toString f.position ++ "-" ++ toString (f.position + f.count - 1)
  "'" ++ e.name ++ "' codec can't encode " ++ place ++ ": " ++ e.objection

/-- Encodes the characters from `position` on. -/
def encodeFrom (e : Encoding) (position : Nat) : List Char → Except Fault (List UInt8)
  | [] => .ok []
  | c :: cs =>
    match e.octets? c with
    | none => .error ⟨position, c, (cs.takeWhile fun d => (e.octets? d).isNone).length + 1⟩
    | some octets => do return octets ++ (← e.encodeFrom (position + 1) cs)

def encode (e : Encoding) (text : String) : Except Fault (List UInt8) := e.encodeFrom 0 text.toList

/-- A text is encoded exactly if the encoding has all its characters. -/
theorem exists_encodeFrom_iff (e : Encoding) (position : Nat) (cs : List Char) :
    (∃ octets, e.encodeFrom position cs = .ok octets) ↔ ∀ c ∈ cs, (e.octets? c).isSome = true := by
  induction cs generalizing position with
  | nil => simp [encodeFrom]
  | cons c cs ih =>
    rw [List.forall_mem_cons, ← ih (position + 1), encodeFrom]
    cases e.octets? c with
    | none => simp
    | some octets => cases e.encodeFrom (position + 1) cs <;> simp [bind, Except.bind, pure, Except.pure]

end Encoding

end Mediation.Text
