/-!
# Searching text for a pattern

A *pattern* is a non-empty list of characters. Occurrences of a pattern are found from the left
and never overlap: once an occurrence is found, the search goes on after its last character.
On that reading

* `cutAt p s` is the list of pieces between the occurrences of `p` in `s` (one piece more than
  there are occurrences);
* `before p s` is the first of those pieces, the text before the first occurrence;
* `replaceAll p r s` puts `r` in place of each occurrence, so it is the pieces joined by `r`;
* `occursIn p s` says whether `p` occurs at all.
-/

namespace Reindent.Text

/-- A non-empty list of characters to search for. -/
structure Pattern where
  /-- The first character. -/
  head : Char
  /-- The characters after the first. -/
  tail : List Char
deriving DecidableEq, Repr

namespace Pattern

/-- The characters of the pattern. -/
def toList (p : Pattern) : List Char := p.head :: p.tail

/-- The pattern whose characters are those of a non-empty string; `"?"` stands in for `""`. -/
def ofString (s : String) : Pattern :=
  match s.toList with
  | c :: cs => ⟨c, cs⟩
  | [] => ⟨'?', []⟩

end Pattern

/-- Dropping a pattern's length from a list that starts with it leaves a shorter list. -/
theorem length_drop_lt (p : Pattern) (c : Char) (cs : List Char) :
    ((c :: cs).drop p.toList.length).length < (c :: cs).length := by
  rw [List.length_drop, List.length_cons]
  have : p.toList.length = p.tail.length + 1 := rfl
  omega

/-- Cuts `s` at each occurrence of `p`. `piece` holds the current piece in reverse and `done`
the pieces so far. -/
def cutFrom (p : Pattern) (piece : List Char) (done : Array (List Char)) :
    List Char → Array (List Char)
  | [] => done.push piece.reverse
  | c :: cs =>
    if p.toList.isPrefixOf (c :: cs) then
      cutFrom p [] (done.push piece.reverse) ((c :: cs).drop p.toList.length)
    else
      cutFrom p (c :: piece) done cs
termination_by s => s.length
decreasing_by
  · exact length_drop_lt p c cs
  · simp

/-- The pieces of `s` between the occurrences of `p`. -/
def cutAt (p : Pattern) (s : List Char) : List (List Char) :=
  (cutFrom p [] #[] s).toList

/-- The text before the first occurrence of `p`, or all of `s` if there is none. -/
def before (p : Pattern) (s : List Char) : List Char :=
  ((cutAt p s).head?).getD []

/-- `s` with `r` in place of each occurrence of `p`. -/
def replaceAll (p : Pattern) (r s : List Char) : List Char :=
  r.intercalate (cutAt p s)

/-- Whether `p` occurs in `s`. -/
def occursIn (p : Pattern) : List Char → Bool
  | [] => false
  | c :: cs => p.toList.isPrefixOf (c :: cs) || occursIn p cs

end Reindent.Text
