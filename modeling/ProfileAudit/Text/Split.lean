/-!
The parts of a text between separators.
-/

namespace ProfileAudit

/-- The parts between the characters that separate; there is one more of them than there are
such characters. -/
def partsBetween (separates : Char → Bool) : List Char → List (List Char)
  | [] => [[]]
  | c :: cs =>
    if separates c then [] :: partsBetween separates cs
    else
      match partsBetween separates cs with
      | [] => [[c]]
      | part :: parts => (c :: part) :: parts

end ProfileAudit
