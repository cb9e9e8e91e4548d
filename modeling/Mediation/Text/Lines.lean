/-!
# Lines

A text is cut after each line feed. The other line breaks that files come with can be made line feeds first.
-/

namespace Mediation.Text

/-- The lines of a text, each with the line feed that ends it; the last one may lack it. -/
def lines : List Char → List (List Char)
  | [] => []
  | c :: cs =>
    if c = '\n' then ['\n'] :: lines cs
    else
      match lines cs with
      | [] => [[c]]
      | line :: rest => (c :: line) :: rest

/-- The text with a line feed for every carriage return, alone or before a line feed. -/
def unifyBreaks : List Char → List Char
  | [] => []
  | '\r' :: '\n' :: cs => '\n' :: unifyBreaks cs
  | '\r' :: cs => '\n' :: unifyBreaks cs
  | c :: cs => c :: unifyBreaks cs

end Mediation.Text
