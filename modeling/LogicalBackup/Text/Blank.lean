/-!
# White space

The characters with the property `White_Space`.  Tokens of a text are cut at them (`words`), and
readers skip them (`dropBlank`).
-/

namespace LogicalBackup.Text

/-- Whether `c` is white space. -/
def isBlank (c : Char) : Bool :=
  let n := c.toNat
  (9 ≤ n && n ≤ 13) || n == 0x20 || n == 0x85 || n == 0xa0 || n == 0x1680 ||
    (0x2000 ≤ n && n ≤ 0x200a) || n == 0x2028 || n == 0x2029 || n == 0x202f || n == 0x205f ||
    n == 0x3000

/-- A text without the white space at its start. -/
def dropBlank (s : List Char) : List Char := s.dropWhile isBlank

/-- One step of `words`, which reads a text from its end: the first of the words is the one that
the next character may belong to. -/
def consWord (c : Char) : List (List Char) → List (List Char)
  | [] => if isBlank c then [[]] else [[c]]
  | w :: ws => if isBlank c then [] :: w :: ws else (c :: w) :: ws

/-- The words of a text: its longest runs without white space. -/
def words (s : List Char) : List (List Char) :=
  (s.foldr consWord []).filter (!·.isEmpty)

end LogicalBackup.Text
