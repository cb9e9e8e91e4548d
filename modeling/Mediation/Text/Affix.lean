/-!
# Beginnings, ends and joins of texts

Comparison of a text with a beginning or an end is by code point, and a join puts a separator between
neighbours only.
-/

namespace Mediation.Text

def startsWith (s start : String) : Bool := start.toList.isPrefixOf s.toList

def endsWith (s tail : String) : Bool := tail.toList.isSuffixOf s.toList

theorem startsWith_iff (s start : String) : startsWith s start = true ↔ start.toList <+: s.toList :=
  List.isPrefixOf_iff_prefix

theorem endsWith_iff (s tail : String) : endsWith s tail = true ↔ tail.toList <:+ s.toList :=
  List.isSuffixOf_iff_suffix

theorem startsWith_append (start rest : String) : startsWith (start ++ rest) start = true := by
  rw [startsWith_iff, String.toList_append]
  exact List.prefix_append _ _

theorem endsWith_append (front tail : String) : endsWith (front ++ tail) tail = true := by
  rw [endsWith_iff, String.toList_append]
  exact List.suffix_append _ _

/-- `s` without its last `n` characters. -/
def dropLast (s : String) (n : Nat) : String := String.ofList (s.toList.take (s.toList.length - n))

theorem dropLast_append (front tail : String) : dropLast (front ++ tail) tail.length = front := by
  rw [dropLast, ← String.length_toList, String.toList_append, List.length_append, Nat.add_sub_cancel, List.take_left,
    String.ofList_toList]

theorem dropLast_append_of_endsWith {s tail : String} (h : endsWith s tail = true) :
    dropLast s tail.length ++ tail = s := by
  obtain ⟨front, hfront⟩ := (endsWith_iff s tail).mp h
  have hs : s = String.ofList front ++ tail := by
    rw [← String.toList_inj, ← hfront, String.toList_append, String.toList_ofList]
  rw [hs, dropLast_append]

/-- `s` without its first `n` characters. -/
def dropFirst (s : String) (n : Nat) : String := String.ofList (s.toList.drop n)

/-- The parts in order, with `separator` between neighbours. -/
def join (separator : String) : List String → String
  | [] => ""
  | [part] => part
  | part :: next :: rest => part ++ separator ++ join separator (next :: rest)

/-- The pieces of `cs` between the characters that satisfy `isBreak`; always at least one. -/
def splitAt (isBreak : Char → Bool) : List Char → List (List Char)
  | [] => [[]]
  | c :: cs =>
    if isBreak c then [] :: splitAt isBreak cs
    else
      match splitAt isBreak cs with
      | [] => [[c]]
      | piece :: rest => (c :: piece) :: rest

/-- `s` filled up with blanks on the right to at least `width` characters. -/
def padRight (s : String) (width : Nat) : String :=
  s ++ String.ofList (List.replicate (width - s.length) ' ')

/-- `s` filled up with blanks on the left to at least `width` characters. -/
def padLeft (s : String) (width : Nat) : String :=
  String.ofList (List.replicate (width - s.length) ' ') ++ s

end Mediation.Text
