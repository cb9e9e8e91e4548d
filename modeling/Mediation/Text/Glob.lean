/-!
# File patterns

Patterns with `*` for any text, `?` for any character and sets of characters in brackets. They match whole
texts, and a path separator is a character like any other. `accepts` says what a pattern matches; `fits` finds
it out in one pass over the text for each element of the pattern, whatever the number of stars.
-/

namespace Mediation.Glob

/-- A member of a set: one character, or all from `low` to `high`. -/
inductive Member where
  | one (c : Char)
  | range (low high : Char)
  deriving DecidableEq

def Member.holds (c : Char) : Member → Bool
  | .one d => c = d
  | .range low high => low ≤ c && c ≤ high

/-- An element of a pattern. -/
inductive Element where
  | star
  | any
  | char (c : Char)
  | set (negated : Bool) (members : List Member)
  deriving DecidableEq

/-- Whether an element other than a star stands for a character. -/
def Element.holds (c : Char) : Element → Bool
  | .star => false
  | .any => true
  | .char d => c = d
  | .set negated members => members.any (·.holds c) != negated

/-! ### Matching -/

/-- A text and everything that is left of it after its beginnings. -/
def suffixes : List Char → List (List Char)
  | [] => [[]]
  | c :: cs => (c :: cs) :: suffixes cs

/-- Whether a pattern matches a text as a whole. -/
def accepts : List Element → List Char → Bool
  | [], cs => cs.isEmpty
  | .star :: rest, cs => (suffixes cs).any (accepts rest)
  | _ :: _, [] => false
  | element :: rest, c :: cs => element.holds c && accepts rest cs

/-- Whether any entry is true, from each entry on. -/
def trueFrom : List Bool → List Bool
  | [] => []
  | b :: bs =>
    let later := trueFrom bs
    (b || later.headD false) :: later

/-- Whether a pattern matches each of the suffixes of a text. -/
def acceptedSuffixes (cs : List Char) : List Element → List Bool
  | [] => cs.map (fun _ => false) ++ [true]
  | .star :: rest => trueFrom (acceptedSuffixes cs rest)
  | element :: rest =>
    List.zipWith (fun c later => element.holds c && later) cs (acceptedSuffixes cs rest).tail ++ [false]

theorem headD_map_suffixes (f : List Char → Bool) (cs : List Char) : ((suffixes cs).map f).headD false = f cs := by
  cases cs <;> rfl

theorem map_isEmpty_suffixes (cs : List Char) :
    (suffixes cs).map (·.isEmpty) = cs.map (fun _ => false) ++ [true] := by
  induction cs with
  | nil => rfl
  | cons c cs ih => simp [suffixes, ih]

theorem trueFrom_map_suffixes (f : List Char → Bool) (cs : List Char) :
    trueFrom ((suffixes cs).map f) = (suffixes cs).map fun ds => (suffixes ds).any f := by
  induction cs with
  | nil => simp [suffixes, trueFrom]
  | cons c cs ih =>
    have hhead := headD_map_suffixes (fun ds => (suffixes ds).any f) cs
    simp only [suffixes, List.map_cons, trueFrom, ih, hhead, List.any_cons]

theorem zipWith_tail_suffixes (holds : Char → Bool) (f : List Char → Bool) (cs : List Char) :
    List.zipWith (fun c later => holds c && later) cs ((suffixes cs).map f).tail ++ [false]
      = (suffixes cs).map fun ds => match ds with
        | [] => false
        | c :: rest => holds c && f rest := by
  induction cs with
  | nil => rfl
  | cons c cs ih =>
    cases cs with
    | nil => rfl
    | cons d ds => simpa [suffixes] using ih

/-- Going through the text element by element agrees with the rule. -/
theorem acceptedSuffixes_eq (cs : List Char) (pattern : List Element) :
    acceptedSuffixes cs pattern = (suffixes cs).map (accepts pattern) := by
  induction pattern with
  | nil => exact (map_isEmpty_suffixes cs).symm
  | cons element rest ih =>
    cases element with
    | star => simpa only [acceptedSuffixes, ih, accepts] using trueFrom_map_suffixes (accepts rest) cs
    | _ =>
      rw [acceptedSuffixes, ih, zipWith_tail_suffixes]
      · refine List.map_congr_left fun ds _ => ?_
        cases ds <;> simp [accepts]
      · simp

/-! ### Sets

A hyphen between two characters makes a range, except where it is the first character of the set or stands
right after a range. The text is first cut at the hyphens that make ranges; ranges that would be empty then
vanish together with their ends. -/

/-- Cuts a set at the hyphens that make ranges. At least `least` more characters come before the next of
them, and `piece` holds the current piece, its last character first. -/
def cutRanges (least : Nat) (piece : List Char) : List Char → List (List Char)
  | [] => [piece.reverse]
  | c :: cs =>
    if c = '-' ∧ least = 0 then piece.reverse :: cutRanges 2 [] cs
    else cutRanges (least - 1) (c :: piece) cs

/-- A hyphen at the very end makes no range. -/
def keepLastHyphen : List (List Char) → List (List Char)
  | [] => []
  | [piece, []] => [piece ++ ['-']]
  | piece :: rest => piece :: keepLastHyphen rest

/-- Puts a piece before others, without the range between them if it would be empty. -/
def joinPiece (piece : List Char) : List (List Char) → List (List Char)
  | [] => [piece]
  | next :: rest =>
    match piece.getLast?, next.head? with
    | some low, some high =>
      if high < low then (piece.dropLast ++ next.tail) :: rest else piece :: next :: rest
    | _, _ => piece :: next :: rest

/-- A character of a set, or a hyphen that makes a range. -/
inductive SetToken where
  | char (c : Char)
  | hyphen
  deriving DecidableEq

/-- The pieces with range hyphens between them. -/
def setTokens : List (List Char) → List SetToken
  | [] => []
  | [piece] => piece.map .char
  | piece :: next :: rest => piece.map .char ++ .hyphen :: setTokens (next :: rest)

def setMembers : List SetToken → List Member
  | [] => []
  | .char low :: .hyphen :: .char high :: rest => .range low high :: setMembers rest
  | .char c :: rest => .one c :: setMembers rest
  | .hyphen :: rest => .one '-' :: setMembers rest

/-- The set with the given text between its brackets. An exclamation mark in front negates it. -/
def ofSetText (text : List Char) : Element :=
  let least := if text.head? = some '!' then 2 else 1
  let pieces := (keepLastHyphen (cutRanges least [] text)).foldr joinPiece []
  match setTokens pieces with
  | .char '!' :: rest => .set true (setMembers rest)
  | tokens => .set false (setMembers tokens)

/-! ### Patterns -/

/-- Splits what follows an opening bracket at the bracket that closes the set. A closing bracket that comes
first, or right after an exclamation mark, belongs to the set. -/
def closeSet? (cs : List Char) : Option (List Char × List Char) :=
  let mark := cs.take (if cs.head? = some '!' then 1 else 0)
  let afterMark := cs.drop mark.length
  let bracket := afterMark.take (if afterMark.head? = some ']' then 1 else 0)
  let body := afterMark.drop bracket.length
  match body.dropWhile (· ≠ ']') with
  | [] => none
  | _ :: rest => some (mark ++ bracket ++ body.takeWhile (· ≠ ']'), rest)

theorem closeSet?_length_lt (cs : List Char) : ∀ p, closeSet? cs = some p → p.2.length < cs.length := by
  intro p hp
  simp only [closeSet?] at hp
  split at hp
  · cases hp
  · rename_i c rest h
    cases hp
    have hle := congrArg List.length h ▸ (List.dropWhile_sublist (fun x : Char => x ≠ ']')).length_le
    simp only [List.length_cons, List.length_drop] at hle ⊢
    omega

/-- The pattern with the given text. An opening bracket that nothing closes stands for itself. -/
def parse : List Char → List Element
  | [] => []
  | c :: cs =>
    if c = '*' then .star :: parse cs
    else if c = '?' then .any :: parse cs
    else if c = '[' then
      match _closed : closeSet? cs with
      | some (text, rest) => ofSetText text :: parse rest
      | none => .char '[' :: parse cs
    else .char c :: parse cs
termination_by cs => cs.length
decreasing_by
  · simp
  · simp
  · exact Nat.lt_succ_of_lt (closeSet?_length_lt _ _ _closed)
  · simp
  · simp

/-- Whether the pattern with the given text matches `s`. -/
def fits (pattern s : String) : Bool := (acceptedSuffixes s.toList (parse pattern.toList)).headD false

theorem fits_eq_accepts (pattern s : String) : fits pattern s = accepts (parse pattern.toList) s.toList := by
  rw [fits, acceptedSuffixes_eq, headD_map_suffixes]

end Mediation.Glob
