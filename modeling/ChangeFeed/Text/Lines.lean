import ChangeFeed.Text.Basic

/-!
Lines of a text.

`splitLines` cuts at newlines only and keeps the piece after the last one. `universalLines` cuts at
every character that may end a line, takes a carriage return and the newline after it as one end,
and has no piece after an end that closes the text.
-/

namespace ChangeFeed.Text

/-- The pieces of a text between newlines. -/
def splitLines (t : Text) : List Text := t.splitOn '\n'

/-- Lines as a text in which each ends with a newline. -/
def ofLines (lines : List Text) : Text := lines.flatMap (· ++ ['\n'])

theorem splitLines_append_newline (t u : Text) :
    splitLines (t ++ '\n' :: u) = splitLines t ++ splitLines u := by
  simp only [splitLines, List.splitOn_eq_splitOnP]
  exact List.splitOnP_append_cons t u (by simp)

theorem splitLines_of_not_mem {t : Text} (h : '\n' ∉ t) : splitLines t = [t] := by
  rw [splitLines, List.splitOn_eq_splitOnP]
  refine List.splitOnP_eq_singleton fun c hc => ?_
  simp only [beq_eq_false_iff_ne, ne_eq]
  rintro rfl
  exact h hc

/-- Splitting gives back the lines, and the empty piece behind the last newline. -/
theorem splitLines_ofLines {lines : List Text} (h : ∀ line ∈ lines, '\n' ∉ line) :
    splitLines (ofLines lines) = lines ++ [[]] := by
  induction lines with
  | nil => exact splitLines_of_not_mem (t := []) (by simp)
  | cons line lines ih =>
    have hs : ofLines (line :: lines) = line ++ '\n' :: ofLines lines := by simp [ofLines]
    rw [hs, splitLines_append_newline, splitLines_of_not_mem (h line (by simp)),
      ih fun l hl => h l (by simp [hl])]
    rfl

/-- A line without one carriage return at its end. -/
def dropReturn (line : Text) : Text := if line.getLast? = some '\r' then line.dropLast else line

/-- A line without the carriage returns at its end. -/
def dropReturns (line : Text) : Text := dropEndWhile (· == '\r') line

/-- The characters that end a line, wherever they stand. -/
def isLineEnd (c : Char) : Bool :=
  let n := c.toNat
  (10 ≤ n && n ≤ 13) || (28 ≤ n && n ≤ 30) || n == 0x85 || n == 0x2028 || n == 0x2029

/-- The lines of a text, with `line` (last character first) read so far. -/
def universalFrom (line : Text) : Text → List Text
  | [] => if line = [] then [] else [line.reverse]
  | '\r' :: '\n' :: t => line.reverse :: universalFrom [] t
  | c :: t =>
    if isLineEnd c then line.reverse :: universalFrom [] t else universalFrom (c :: line) t

/-- The lines of a text, cut at every kind of line end. -/
def universalLines (t : Text) : List Text := universalFrom [] t

/-- A text in which every line end of two or one carriage returns and newlines is a newline. -/
def newlinesOnly : Text → Text
  | [] => []
  | '\r' :: '\n' :: t => '\n' :: newlinesOnly t
  | '\r' :: t => '\n' :: newlinesOnly t
  | c :: t => c :: newlinesOnly t

/-- A text with a carriage return put before every newline. -/
def withReturns (t : Text) : Text := replaceChar '\n' ['\r', '\n'] t

end ChangeFeed.Text
