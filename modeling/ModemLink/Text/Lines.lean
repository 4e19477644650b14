/-!
# Lines of a text

A text is cut into lines at its line feeds: either they are left out, and there is one line more
than there are line feeds, or each line keeps the one that ends it.
-/

namespace ModemLink.Text

/-- The lines of a text, each without its line feed. -/
def lines (s : List Char) : List (List Char) :=
  s.splitOn '\n'

/-- The lines of a text, each with the line feed that ends it. -/
def endedLines : List Char → List (List Char)
  | [] => []
  | c :: rest =>
    if c = '\n' then [c] :: endedLines rest
    else
      match endedLines rest with
      | [] => [[c]]
      | line :: others => (c :: line) :: others

end ModemLink.Text
