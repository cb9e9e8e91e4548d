import Mediation.Json.Token

/-!
# Reading JSON

A machine with a stack of open arrays and objects takes one token after the other. Each state knows what may
come next, so a fault is found at the first token that cannot continue the text.
-/

namespace Mediation.Json

/-- An array or object that is still open. The items of an array are kept the last first. -/
inductive Frame where
  | arr (items : List Json)
  | obj (fields : List (String × Json)) (key : String)

/-- What the machine waits for: a value; the first item or the end of an array; the first key or the end of
an object; a key after the given fields; the colon after a key; or what follows a complete value. -/
inductive Expect where
  | value
  | item
  | member
  | key (fields : List (String × Json))
  | colon (fields : List (String × Json)) (key : String)
  | next (value : Json)

def beginValue (stack : List Frame) : Token → Except Cause (Expect × List Frame)
  | .scalar value => .ok (.next value, stack)
  | .str text => .ok (.next (.str text), stack)
  | .openArr => .ok (.item, stack)
  | .openObj => .ok (.member, stack)
  | .badStr cause => .error cause
  | _ => .error .expectingValue

def takeKey (fields : List (String × Json)) (stack : List Frame) : Token → Except Cause (Expect × List Frame)
  | .str text => .ok (.colon fields text, stack)
  | .badStr cause => .error cause
  | _ => .error .expectingKey

def step : Expect → List Frame → Token → Except Cause (Expect × List Frame)
  | .value, stack, token => beginValue stack token
  | .item, stack, .closeArr => .ok (.next (.arr []), stack)
  | .item, stack, token => beginValue (.arr [] :: stack) token
  | .member, stack, .closeObj => .ok (.next (.obj []), stack)
  | .member, stack, token => takeKey [] stack token
  | .key fields, stack, token => takeKey fields stack token
  | .colon fields key, stack, .colon => .ok (.value, .obj fields key :: stack)
  | .colon _ _, _, _ => .error .expectingColon
  | .next value, .arr items :: stack, .comma => .ok (.value, .arr (value :: items) :: stack)
  | .next value, .arr items :: stack, .closeArr => .ok (.next (.arr (value :: items).reverse), stack)
  | .next value, .obj fields key :: stack, .comma => .ok (.key (putField key value fields), stack)
  | .next value, .obj fields key :: stack, .closeObj => .ok (.next (.obj (putField key value fields)), stack)
  | .next _, _ :: _, _ => .error .expectingComma
  | .next _, [], _ => .error .extraData

/-- The value of a text that ends here. -/
def finish : Expect → List Frame → Except Cause Json
  | .next value, [] => .ok value
  | .next _, _ :: _ => .error .expectingComma
  | .value, _ => .error .expectingValue
  | .item, _ => .error .expectingValue
  | .member, _ => .error .expectingKey
  | .key _, _ => .error .expectingKey
  | .colon _ _, _ => .error .expectingColon

/-- A cause and the line on which it was found. -/
structure Fault where
  line : Nat
  cause : Cause
  deriving DecidableEq

/-- Runs the machine; `last` is the line on which the text ends. -/
def run (last : Nat) : Expect → List Frame → List Lexeme → Except Fault Json
  | expect, stack, [] =>
    match finish expect stack with
    | .ok value => .ok value
    | .error cause => .error ⟨last, cause⟩
  | expect, stack, lexeme :: rest =>
    match step expect stack lexeme.token with
    | .ok (expect', stack') => run last expect' stack' rest
    | .error cause => .error ⟨lexeme.line, cause⟩

def read (cs : List Char) : Except Fault Json :=
  if cs.head? = some '\ufeff' then .error ⟨1, .byteOrderMark⟩
  else run (1 + cs.count '\n') .value [] (lex 1 cs)

end Mediation.Json
