import ChangeFeed.Grouping
import ChangeFeed.Value.Literal
import ChangeFeed.Value.Misuse

/-!
Hunks: the regions of a file that a commit changes.

A hunk spans lines of the old and of the new version of its file, and holds the lines that were
removed and added there. A side without lines ends one line before it starts. The name of the file
is a text wherever a diff has been read; data from elsewhere may have any value in its place.
-/

namespace ChangeFeed

/-- A removed or added line with its number in the old or the new version of the file. -/
structure Line where
  num : Int
  text : Text
  deriving DecidableEq, Repr

/-- A region of change in a file. -/
structure Hunk where
  filename : Value
  oldStart : Int
  oldEnd : Int
  newStart : Int
  newEnd : Int
  oldLines : List Line := []
  newLines : List Line := []
  deriving DecidableEq, Repr

namespace Hunk

/-- The file and the two spans, as `file -1,2 +1,3`. -/
def summary (h : Hunk) : Except Numeral.Problem Text := do
  let file ← h.filename.shown
  let oldStart ← Numeral.write h.oldStart
  let oldEnd ← Numeral.write h.oldEnd
  let newStart ← Numeral.write h.newStart
  let newEnd ← Numeral.write h.newEnd
  return file ++ " -" ++ oldStart ++ "," ++ oldEnd ++ " +" ++ newStart ++ "," ++ newEnd

/-- The hunks of each file, in the order in which the files first come up. -/
def byFile (hs : List Hunk) : List (Value × List Hunk) := groupBy Value.sameKey filename hs

/-- The files that hunks touch, in the order in which they first come up. -/
def files (hs : List Hunk) : List Value := (hs.map filename).eraseDupsBy Value.sameKey

theorem byFile_map_fst (hs : List Hunk) : (byFile hs).map Prod.fst = files hs := by
  rw [byFile, groupBy, keys_grouped, List.map_map]
  rfl

end Hunk

end ChangeFeed
