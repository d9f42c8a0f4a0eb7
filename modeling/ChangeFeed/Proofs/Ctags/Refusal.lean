import ChangeFeed.Ctags.Records
import ChangeFeed.Proofs.Json.Refusal
import ChangeFeed.Proofs.Outcome

/-!
# What stops the reading of records

A line that cannot be read is blamed on the format of the listing, with four exceptions: `Escapes`
lists them. Reading a text stops with a failure of another kind exactly if the first line that
cannot be read is one of these (`tagsOfText_error_iff`).
-/

namespace ChangeFeed.Ctags

variable {depth : Nat} {line : Text} {f : Failure}

/-- The failures that are not blamed on the format, and the lines that cause them: containers too
deep inside each other, a number of too many digits anywhere in the line, a value that is no table,
and a tag whose line is infinite. -/
inductive Escapes (depth : Nat) (line : Text) : Failure → Prop
  | tooDeep {c : Json.Container} (read : Json.read depth line = .error (.tooDeep c)) :
    Escapes depth line (.tooDeep c)
  | tooLong {n : Nat} (read : Json.read depth line = .error (.numeral (.tooLong n)))
    (run : Json.HasLongRun line n) : Escapes depth line (.numeral (.tooLong n))
  | noTable {v : Value} (read : Json.read depth line = .ok v) (isTable : v.isTable = false) :
    Escapes depth line (.misuse (.noMember v.kindName "get"))
  | infinite {fields : Table} {negative : Bool} (read : Json.read depth line = .ok (.table fields))
    (type : fields.get? "_type" = some (.text "tag"))
    (path : (fields.get? "path").isSome) (name : (fields.get? "name").isSome)
    (num : fields.get? "line" = some (.real (.infinite negative))) :
    Escapes depth line (.numeral .infinite)

theorem Escapes.kind_ne (h : Escapes depth line f) : f.kind ≠ "TagFormatError" := by
  cases h with
  | tooDeep => exact (by decide : ("RecursionError" : Text) ≠ "TagFormatError")
  | tooLong => exact (by decide : ("ValueError" : Text) ≠ "TagFormatError")
  | noTable => exact (by decide : ("AttributeError" : Text) ≠ "TagFormatError")
  | infinite => exact (by decide : ("OverflowError" : Text) ≠ "TagFormatError")

theorem Escapes.line_ne_nil (h : Escapes depth line f) : line ≠ [] := by
  rintro rfl
  obtain ⟨p, hnil⟩ := Json.read_nil depth
  cases h with
  | tooDeep read => cases hnil.symm.trans read
  | tooLong read => cases hnil.symm.trans read
  | noTable read => cases hnil.symm.trans read
  | infinite read => cases hnil.symm.trans read

/-! ### One line -/

theorem lineNumber_eq_error {v : Value} (h : lineNumber line v = .error f) :
    f = .ctags (.incomplete line) ∨
      ∃ negative, v = .real (.infinite negative) ∧ f = .numeral .infinite := by
  unfold lineNumber at h
  split at h
  · cases h
  · cases h
  · next t =>
    cases hr : Numeral.read t with
    | error p =>
      rw [hr] at h
      cases h
      exact .inl rfl
    | ok n =>
      rw [hr] at h
      cases h
  · next negative =>
    cases h
    exact .inr ⟨negative, rfl, rfl⟩
  · split at h
    · cases h
    · cases h
      exact .inl rfl
  · cases h
    exact .inl rfl

theorem tagOfFields_eq_error {fields : Table} (h : tagOfFields line fields = .error f) :
    f = .ctags (.incomplete line) ∨
      (fields.get? "path").isSome ∧ (fields.get? "name").isSome ∧
        ∃ negative, fields.get? "line" = some (.real (.infinite negative)) ∧
          f = .numeral .infinite := by
  unfold tagOfFields at h
  split at h
  · next file name num hfile hname hnum =>
    rcases lineNumber_eq_error (map_eq_error_iff.1 h) with hf | ⟨negative, rfl, hf⟩
    · exact .inl hf
    · exact .inr ⟨hfile ▸ rfl, hname ▸ rfl, negative, hnum, hf⟩
  · cases h
    exact .inl rfl

theorem escapes_of_readRecord (h : readRecord depth line = .error f)
    (hf : f.kind ≠ "TagFormatError") : Escapes depth line f := by
  unfold readRecord at h
  split at h
  · cases h
    exact absurd rfl hf
  · next hp =>
    rcases Json.read_eq_error_cases h with ⟨p, rfl⟩ | ⟨c, rfl⟩ | ⟨n, rfl, hn⟩
    · exact absurd h (hp p)
    · exact .tooDeep h
    · exact .tooLong h hn

theorem read_of_readRecord {v : Value} (h : readRecord depth line = .ok v) :
    Json.read depth line = .ok v := by
  unfold readRecord at h
  split at h
  · cases h
  · exact h

theorem escapes_of_tagOfRecord {v : Value} (hread : Json.read depth line = .ok v)
    (h : tagOfRecord line v = .error f) (hf : f.kind ≠ "TagFormatError") :
    Escapes depth line f := by
  cases v with
  | table fields =>
    rw [tagOfRecord, Value.entriesFor] at h
    simp only at h
    split at h
    · next htype =>
      simp only [Option.any_eq_true, Value.isText_iff, exists_eq_right] at htype
      rcases tagOfFields_eq_error (map_eq_error_iff.1 h) with
        rfl | ⟨hpath, hname, negative, hnum, rfl⟩
      · exact absurd rfl hf
      · exact .infinite hread htype hpath hname hnum
    · cases h
  | _ =>
    cases h
    exact .noTable hread rfl

theorem Escapes.tagOfLine_eq {raw : Text} (h : Escapes depth (Text.strip raw) f) :
    tagOfLine depth raw = .error f := by
  rw [tagOfLine]
  simp only [if_neg h.line_ne_nil, readRecord]
  cases h with
  | tooDeep read =>
    rw [read]
    rfl
  | tooLong read =>
    rw [read]
    rfl
  | @noTable v read isTable =>
    rw [read]
    cases v with
    | table fields => cases isTable
    | _ => rfl
  | @infinite fields negative read type path name num =>
    obtain ⟨file, hfile⟩ := Option.isSome_iff_exists.1 path
    obtain ⟨label, hlabel⟩ := Option.isSome_iff_exists.1 name
    have hfields : tagOfFields (Text.strip raw) fields = .error (.numeral .infinite) := by
      rw [tagOfFields, hfile, hlabel, num]
      rfl
    have htype : (fields.get? "_type").any (Value.isText "tag") = true := by
      rw [type]
      rfl
    rw [read]
    change tagOfRecord (Text.strip raw) (.table fields) = _
    rw [tagOfRecord, Value.entriesFor]
    simp only [htype, if_true, hfields]
    rfl

/-- A line is refused for another reason than its format exactly if it is one of the exceptions. -/
theorem tagOfLine_error_iff {raw : Text} :
    tagOfLine depth raw = .error f ∧ f.kind ≠ "TagFormatError" ↔
      Escapes depth (Text.strip raw) f := by
  refine ⟨?_, fun h => ⟨h.tagOfLine_eq, h.kind_ne⟩⟩
  rintro ⟨h, hf⟩
  rw [tagOfLine] at h
  split at h
  · cases h
  · rcases bind_eq_error_iff.1 h with h | ⟨v, hv, h⟩
    · exact escapes_of_readRecord h hf
    · exact escapes_of_tagOfRecord (read_of_readRecord hv) h hf

/-! ### All lines -/

theorem tagsOfLines_error_iff {lines : List Text} :
    tagsOfLines depth lines = .error f ↔
      ∃ front raw back ts, lines = front ++ raw :: back ∧ tagsOfLines depth front = .ok ts ∧
        tagOfLine depth raw = .error f := by
  constructor
  · induction lines with
    | nil => nofun
    | cons raw lines ih =>
      intro h
      cases hraw : tagOfLine depth raw with
      | error g =>
        rw [tagsOfLines, hraw] at h
        cases h
        exact ⟨[], raw, lines, [], rfl, rfl, hraw⟩
      | ok tag =>
        rw [tagsOfLines, hraw] at h
        obtain ⟨front, bad, back, ts, rfl, hts, hbad⟩ := ih (map_eq_error_iff.1 h)
        refine ⟨raw :: front, bad, back, tag.toList ++ ts, rfl, ?_, hbad⟩
        rw [tagsOfLines, hraw, hts]
        rfl
  · rintro ⟨front, raw, back, ts, rfl, hts, hraw⟩
    rw [tagsOfLines_append, hts, Except.bind, tagsOfLines, hraw]
    rfl

/-- Reading a text stops with a failure that is not blamed on the format exactly if the first line
that cannot be read is one of the exceptions. -/
theorem tagsOfText_error_iff (depth : Nat) (t : Text) (f : Failure) :
    tagsOfText depth t = .error f ∧ f.kind ≠ "TagFormatError" ↔
      ∃ front raw back ts, Text.universalLines t = front ++ raw :: back ∧
        tagsOfLines depth front = .ok ts ∧ Escapes depth (Text.strip raw) f := by
  rw [tagsOfText, tagsOfLines_error_iff]
  constructor
  · rintro ⟨⟨front, raw, back, ts, ht, hts, hraw⟩, hf⟩
    exact ⟨front, raw, back, ts, ht, hts, tagOfLine_error_iff.1 ⟨hraw, hf⟩⟩
  · rintro ⟨front, raw, back, ts, ht, hts, hraw⟩
    obtain ⟨hraw, hf⟩ := tagOfLine_error_iff.2 hraw
    exact ⟨⟨front, raw, back, ts, ht, hts, hraw⟩, hf⟩

/-- The line of a tag is infinite also if its number is too large. -/
example : tagsOfText 1
    "\x7b\"_type\": \"tag\", \"name\": \"Foo\", \"path\": \"a.go\", \"line\": 1e400\x7d" =
      .error (.numeral .infinite) := by
  decide +kernel

end ChangeFeed.Ctags
