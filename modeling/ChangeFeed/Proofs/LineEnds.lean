import ChangeFeed.Ctags.Records
import ChangeFeed.Proofs.Diff.Session
import ChangeFeed.Proofs.Etags.RoundTrip
import ChangeFeed.Proofs.Text.Lines

/-!
# The readers do not care how lines end

Each reader looks at a text through its lines, and each overlooks something of them: one carriage
return at the end of a line of a diff, all of them in a TAGS file, and empty lines among records,
which are cut at carriage returns as well. With a carriage return in front of every newline nothing
else changes, so that all three find what they find in the text without (`readers_withReturns`).
-/

namespace ChangeFeed

open Text

variable {t : Text}

namespace Diff

theorem Session.feedAll_congr {front back : List Text}
    (h : front.map dropReturn = back.map dropReturn) (s : Session) :
    s.feedAll front = s.feedAll back := by
  induction front generalizing s back with
  | nil =>
    obtain rfl : back = [] := List.map_eq_nil_iff.1 h.symm
    rfl
  | cons line front ih =>
    cases back with
    | nil => cases h
    | cons line' back =>
      obtain ⟨hline, hback⟩ := List.cons.inj h
      have hfeed : s.feed line = s.feed line' := by rw [feed, feed, hline]
      rw [feedAll, feedAll, hfeed]
      cases s.feed line' with
      | ok s' => exact ih hback s'
      | error p => rfl

theorem parse_withReturns (h : ∀ line ∈ splitLines t, line.getLast? ≠ some '\r') :
    parse (withReturns t) = parse t := by
  have hlines : (splitLines (withReturns t)).map dropReturn = (splitLines t).map dropReturn := by
    refine map_splitLines_withReturns fun line hline => ?_
    rw [dropReturn_append_return, dropReturn_of_getLast? (h line hline)]
  have hread : Session.read (withReturns t) = Session.read t := Session.feedAll_congr hlines {}
  rw [parse_eq_read, parse_eq_read, hread]

end Diff

theorem Etags.Session.feedText_withReturns (t : Text) :
    Etags.Session.feedText (withReturns t) = Etags.Session.feedText t := by
  have hlines : (splitLines (withReturns t)).map dropReturns = (splitLines t).map dropReturns :=
    map_splitLines_withReturns fun line _ => dropReturns_append_return line
  rw [feedText, feedText, hlines]

namespace Ctags

theorem tagsOfText_withReturns (depth : Nat) (t : Text) :
    tagsOfText depth (withReturns t) = tagsOfText depth t := by
  rw [tagsOfText, tagsOfText, ← tagsOfLines_filter, filter_universalLines_withReturns,
    tagsOfLines_filter]

end Ctags

/-- A diff has the same hunks or the same problem, unless one of its lines ends with a carriage
return already; a TAGS file leads to the same session and the same problem, whatever has been read
before, and records to the same tags or the same failure. -/
theorem readers_withReturns (t : Text) :
    ((∀ line ∈ splitLines t, line.getLast? ≠ some '\r') →
        Diff.parse (withReturns t) = Diff.parse t) ∧
      Etags.Session.feedText (withReturns t) = Etags.Session.feedText t ∧
      (∀ s, Operation.onEtags s "parse" [.text (withReturns t)] =
        Operation.onEtags s "parse" [.text t]) ∧
      ∀ depth, Ctags.tagsOfText depth (withReturns t) = Ctags.tagsOfText depth t := by
  have hetags := Etags.Session.feedText_withReturns t
  refine ⟨Diff.parse_withReturns, hetags, fun s => ?_, fun depth =>
    Ctags.tagsOfText_withReturns depth t⟩
  rw [Etags.onEtags_parse_eq, Etags.onEtags_parse_eq, hetags]

/-- A diff of which one line holds a carriage return, though not at its end. -/
def returnInside : Text := "diff --git a/x b/x\n@@ -4 +4 @@\n-a\rb\n+a"

theorem readers_withReturns_returnInside :
    (∀ line ∈ splitLines returnInside, line.getLast? ≠ some '\r') ∧
      Diff.parse (withReturns returnInside) =
        .ok [⟨.text "x", 4, 4, 4, 4, [⟨4, "a\rb"⟩], [⟨4, "a"⟩]⟩] := by
  have hlines : ∀ line ∈ splitLines returnInside, line.getLast? ≠ some '\r' := by decide +kernel
  refine ⟨hlines, ?_⟩
  rw [(readers_withReturns returnInside).1 hlines]
  decide +kernel

end ChangeFeed
