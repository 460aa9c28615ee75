/-!
# Pieces of a text

A text cut at every place where a mark stands.
-/

namespace ArchLint.Text

/-- The pieces of a text between marks; there is always one more piece than there are marks. -/
def pieces (mark : Char) (text : List Char) : List (List Char) :=
  let (last, done) := text.foldr (fun c (piece, done) =>
    if c = mark then ([], piece :: done) else (c :: piece, done)) ([], [])
  last :: done

end ArchLint.Text
