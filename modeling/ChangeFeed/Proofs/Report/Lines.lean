import ChangeFeed.Proofs.Analyzer.Build
import ChangeFeed.Proofs.Json.Characters
import ChangeFeed.Proofs.Outcome
import ChangeFeed.Report.Output

/-!
# Rows and errors, each in one line

A value that can be read back is written without a line feed unless it is to be indented, so a row
of such values is reported in a line of its own, from which it is read again (`line_eq_ok`,
`isLineOf_shown`). An error is always reported so, whatever its message (`isLineOf_error`).

An event of an analysis can always be written (`Event.IsSpelled.line_eq_ok`). What can keep its line
from being printed is a half of a character in one of the names that it tells of
(`Event.isBroken_points`).
-/

namespace ChangeFeed

namespace Report

/-- The text is one line, and the value is read from it, if `depth` containers may be open. -/
def IsLineOf (depth : Nat) (v : Value) (t : Text) : Prop :=
  ∃ line, t = line ++ ['\n'] ∧ '\n' ∉ line ∧ ∀ limit ≥ depth, Json.read limit line = .ok v

variable {depth : Nat} {v : Value} {row : Table}

theorem isLineOf_shown (h : Json.Readable depth v) :
    IsLineOf depth v (Json.shown {} v ++ ['\n']) :=
  ⟨_, rfl, (Json.isPlain_valueText rfl h 0).newline_not_mem, fun _ hlimit =>
    Json.read_shown (Json.Style.spaced_of_indent_eq_none rfl) (h.mono hlimit)⟩

theorem line_eq_ok (h : Json.Readable depth (.table row)) :
    line row = .ok (CodePoints.ofText (Json.shown {} (.table row) ++ ['\n'])) := by
  rw [line, document, Json.write_of_readable h rfl, CodePoints.ofText_append]
  rfl

/-- The entries of an error. -/
def errorEntries (message type about : Value) : Table :=
  ("error", message) :: ("type", type) :: if about.isSet then [("context", about)] else []

theorem isLineOf_error (message type : Text) {about : Value} (h : Json.Readable depth about) :
    IsLineOf (depth + 1) (.table (errorEntries message type about)) (error message type about) := by
  have hreadable : Json.Readable (depth + 1) (.table (errorEntries message type about)) := by
    unfold errorEntries
    split
    · refine .table ?_ (by simp) ?_
      · exact (by decide : ["error".toList, "type".toList, "context".toList].map Key.text |>.Nodup)
      · simp only [List.forall_mem_cons]
        exact ⟨.text message, .text type, h, nofun⟩
    · refine .table ?_ (by simp) ?_
      · exact (by decide : ["error".toList, "type".toList].map Key.text |>.Nodup)
      · simp only [List.forall_mem_cons]
        exact ⟨.text message, .text type, nofun⟩
  exact isLineOf_shown hreadable

end Report

/-! ### Events and subscriptions -/

/-- All that an event says is text. -/
structure Event.IsText (e : Event) : Prop where
  id : ∃ t, e.id = .text t
  title : ∃ t, e.title = .text t
  body : ∃ t, e.body = .text t
  url : ∃ t, e.url = .text t

theorem Event.IsText.readable {e : Event} (h : e.IsText) (depth : Nat) :
    Json.Readable (depth + 1) (.table e.entries) := by
  obtain ⟨⟨i, hi⟩, ⟨t, ht⟩, ⟨b, hb⟩, ⟨u, hu⟩⟩ := h
  refine .table ?_ ?_ ?_
  · exact (by decide : ["id".toList, "title".toList, "body".toList, "url".toList, "type".toList,
      "time".toList].map Key.text |>.Nodup)
  · simp [entries]
  · simp only [entries, hi, ht, hb, hu, List.forall_mem_cons]
    exact ⟨.text _, .text _, .text _, .text _, .text _, .text _, nofun⟩

/-- Source and targets of a subscription are texts. -/
structure Subscription.IsText (x : Subscription) : Prop where
  source : ∃ t, x.source = .text t
  targets : ∀ v ∈ x.targets, ∃ t, v = .text t

theorem Subscription.IsText.readable {x : Subscription} (h : x.IsText) (depth : Nat) :
    Json.Readable (depth + 2) (.table x.entries) := by
  obtain ⟨⟨t, ht⟩, hv⟩ := h
  refine .table ?_ ?_ ?_
  · exact (by decide : ["src".toList, "dsts".toList].map Key.text |>.Nodup)
  · simp [entries]
  · simp only [entries, ht, List.forall_mem_cons]
    refine ⟨.text t, .list fun v hm => ?_, nofun⟩
    obtain ⟨u, rfl⟩ := hv v hm
    exact .text u

theorem Batch.readable {b : Batch} (he : ∀ e ∈ b.events, e.IsText)
    (hs : ∀ x ∈ b.subscriptions, x.IsText) (depth : Nat) :
    Json.Readable (depth + 4) (.table b.entries) := by
  have hevents : Json.Readable (depth + 3) (.list (b.events.map fun e => .table e.entries)) :=
    .list (List.forall_mem_map.2 fun e hm => (he e hm).readable (depth + 1))
  have hsubscriptions : Json.Readable (depth + 3)
      (.list (b.subscriptions.map fun x => .table x.entries)) :=
    .list (List.forall_mem_map.2 fun x hm => (hs x hm).readable depth)
  refine .table ?_ ?_ ?_
  · exact (by decide : ["events".toList, "subscriptions".toList].map Key.text |>.Nodup)
  · simp [entries]
  · simp only [entries, List.forall_mem_cons]
    exact ⟨hevents, hsubscriptions, nofun⟩

theorem Report.batch_eq_ok {b : Batch} {indent : Option Int} (he : ∀ e ∈ b.events, e.IsText)
    (hs : ∀ x ∈ b.subscriptions, x.IsText)
    (hi : Json.Style.obstacle? { indent := indent.map .spaces } = none) :
    ∃ document, batch (indent.map .spaces) b = .ok (CodePoints.ofText (document ++ ['\n'])) ∧
      ∀ limit ≥ 4, Json.read limit (document ++ ['\n']) = .ok (.table b.entries) := by
  have hreadable : Json.Readable 4 (.table b.entries) := Batch.readable he hs 0
  refine ⟨Json.shown { indent := indent.map .spaces } (.table b.entries), ?_,
    fun limit hlimit => ?_⟩
  · rw [batch, document, Json.write_of_readable hreadable hi, CodePoints.ofText_append]
    rfl
  · exact Json.read_shown_append (Json.Style.spaced_of_map_spaces false indent)
      (hreadable.mono hlimit) (List.forall_mem_singleton.2 (by decide))

/-! ### Values in which halves stand -/

/-- Whether a key is a text in which a half of a character stands. -/
def Key.isBroken : Key → Bool
  | .broken _ => true
  | _ => false

namespace Value

mutual

/-- Whether a half of a character stands in one of the texts of a value. -/
def isBroken : Value → Bool
  | .broken _ => true
  | .list vs => elementsBroken vs
  | .table es => entriesBroken es
  | _ => false

def elementsBroken : List Value → Bool
  | [] => false
  | v :: vs => isBroken v || elementsBroken vs

def entriesBroken : List (Key × Value) → Bool
  | [] => false
  | (k, v) :: es => k.isBroken || isBroken v || entriesBroken es

end

theorem isBroken_ofPoints (ps : CodePoints) : (ofPoints ps).isBroken = ps.isBroken := by
  unfold ofPoints Key.ofPoints
  split
  · next h => exact h.symm
  · next h => exact (eq_false_of_ne_true h).symm

theorem exists_text_of_ofPoints {v : Value} (h : ∃ ps, v = .ofPoints ps)
    (hv : v.isBroken = false) : ∃ t, v = .text t := by
  obtain ⟨ps, rfl⟩ := h
  rw [isBroken_ofPoints] at hv
  exact ⟨ps.chars, by rw [← ofPoints_ofText, CodePoints.ofText_chars hv]⟩

theorem isBroken_of_mem {v : Value} {vs : List Value} (h : v ∈ vs)
    (hvs : (Value.list vs).isBroken = false) : v.isBroken = false := by
  induction vs with
  | nil => cases h
  | cons w vs ih =>
    rw [isBroken, elementsBroken, Bool.or_eq_false_iff] at hvs
    rcases List.mem_cons.1 h with rfl | h
    · exact hvs.1
    · exact ih h hvs.2

end Value

namespace Json

theorem isBroken_text (t : Text) : CodePoints.isBroken (Alphabet.raw.text t) = false :=
  CodePoints.isBroken_ofText t

theorem isBroken_string (ascii : Bool) (ps : CodePoints) :
    CodePoints.isBroken (Alphabet.raw.string ascii ps) = ps.isBroken := by
  unfold Alphabet.string
  simp only [CodePoints.isBroken_append, isBroken_text, Bool.false_or, Bool.or_false]
  induction ps with
  | nil => rfl
  | cons p ps ih =>
    rw [List.flatMap_cons, CodePoints.isBroken_append, ih]
    cases p with
    | char c => exact congrArg (· || CodePoints.isBroken ps) (isBroken_text (charText ascii c))
    | half n => rfl

theorem isBroken_key (ascii : Bool) (k : Key) :
    CodePoints.isBroken (Alphabet.raw.key ascii k) = k.isBroken := by
  cases k with
  | broken t => exact (isBroken_string ascii t.points).trans t.isBroken
  | _ => exact isBroken_text _

mutual

/-- A half stands in the text of a value exactly if one stands in the value. -/
theorem isBroken_valueIn (s : Style) (d : Nat) (v : Value) :
    CodePoints.isBroken (valueIn .raw s d v) = v.isBroken := by
  match v with
  | .broken t => exact (isBroken_string s.ascii t.points).trans t.isBroken
  | .list [] => exact isBroken_text _
  | .list (v :: vs) =>
    simp only [valueIn, CodePoints.isBroken_append, isBroken_text, isBroken_valueIn s (d + 1) v,
      isBroken_elementsIn s (d + 1) vs, Bool.false_or, Bool.or_false]
    rfl
  | .table [] => exact isBroken_text _
  | .table ((k, v) :: es) =>
    simp only [valueIn, CodePoints.isBroken_append, isBroken_text, isBroken_key,
      isBroken_valueIn s (d + 1) v, isBroken_entriesIn s (d + 1) es, Bool.false_or, Bool.or_false]
    rfl
  | .bool true | .bool false => exact isBroken_text _
  | .null | .int _ | .real _ | .moment _ | .text _ => exact isBroken_text _

theorem isBroken_elementsIn (s : Style) (d : Nat) (vs : List Value) :
    CodePoints.isBroken (elementsIn .raw s d vs) = Value.elementsBroken vs := by
  match vs with
  | [] => exact isBroken_text _
  | v :: vs =>
    rw [elementsIn, CodePoints.isBroken_append, CodePoints.isBroken_append, isBroken_text,
      isBroken_valueIn s d v, isBroken_elementsIn s d vs, Bool.false_or]
    rfl

theorem isBroken_entriesIn (s : Style) (d : Nat) (es : List (Key × Value)) :
    CodePoints.isBroken (entriesIn .raw s d es) = Value.entriesBroken es := by
  match es with
  | [] => exact isBroken_text _
  | (k, v) :: es =>
    simp only [entriesIn, CodePoints.isBroken_append, isBroken_text, isBroken_key,
      isBroken_valueIn s d v, isBroken_entriesIn s d es, Bool.false_or, Bool.or_false]
    rfl

end

theorem obstacle?_ofPoints (ps : CodePoints) : obstacle? (.ofPoints ps) = none := by
  unfold Value.ofPoints Key.ofPoints
  split <;> rfl

end Json

/-! ### Events of an analysis -/

namespace Event

/-- What an event says is spelled in characters and halves of characters, and its address in
characters alone. -/
structure IsSpelled (e : Event) : Prop where
  id : ∃ ps, e.id = .ofPoints ps
  title : ∃ ps, e.title = .ofPoints ps
  body : ∃ ps, e.body = .ofPoints ps
  url : ∃ t, e.url = .text t

/-- Whether a half of a character stands in what an event says. -/
def isBroken (e : Event) : Bool := (Value.table e.entries).isBroken

/-- The line of an event, halves and all. -/
def points (e : Event) : CodePoints := Json.points {} (.table e.entries) ++ ("\n" : CodePoints)

variable {e : Event}

theorem isBroken_points (e : Event) : e.points.isBroken = e.isBroken := by
  rw [points, CodePoints.isBroken_append, CodePoints.isBroken_ofText, Bool.or_false]
  exact Json.isBroken_valueIn {} 0 (.table e.entries)

theorem IsSpelled.isText (h : e.IsSpelled) (hb : e.isBroken = false) : e.IsText := by
  simp only [isBroken, entries, Value.isBroken, Value.entriesBroken, Bool.or_eq_false_iff] at hb
  exact ⟨Value.exists_text_of_ofPoints h.id hb.1.2, Value.exists_text_of_ofPoints h.title hb.2.1.2,
    Value.exists_text_of_ofPoints h.body hb.2.2.1.2, h.url⟩

theorem IsSpelled.line_eq_ok (h : e.IsSpelled) : Report.line e.entries = .ok e.points := by
  obtain ⟨⟨i, hi⟩, ⟨t, ht⟩, ⟨b, hb⟩, ⟨u, hu⟩⟩ := h
  have hobstacle : Json.obstacle? (.table e.entries) = none := by
    simp only [entries, hi, ht, hb, hu, Json.obstacle?, Json.entriesObstacle?,
      Json.obstacle?_ofPoints]
    rfl
  rw [Report.line, Report.document, Json.write, hobstacle]
  rfl

theorem isSpelled_ofTag (o : Occasion) (t : Tag) : (ofTag o t).IsSpelled :=
  ⟨⟨_, rfl⟩, ⟨_, rfl⟩, ⟨_, rfl⟩, ⟨_, rfl⟩⟩

theorem isSpelled_ofReference (o : Occasion) (r : Reference) : (ofReference o r).IsSpelled :=
  ⟨⟨_, rfl⟩, ⟨_, rfl⟩, ⟨_, rfl⟩, ⟨_, rfl⟩⟩

end Event

/-- What the events of a commit say is spelled. -/
theorem Batch.isSpelled_of_assemble {c : Commit} {tags : List Tag} {refs : List Reference}
    {b : Batch} (h : assemble c tags refs = .ok b) : ∀ e ∈ b.events, e.IsSpelled := by
  rw [assemble_eq] at h
  split at h
  · obtain rfl := Except.ok.inj h
    exact fun e he => absurd he List.not_mem_nil
  · cases ho : c.told with
    | error f =>
      rw [ho] at h
      cases h
    | ok o =>
      rw [ho] at h
      obtain rfl := Except.ok.inj h
      simp only [onOccasion, List.forall_mem_append, List.forall_mem_map]
      exact ⟨fun t _ => Event.isSpelled_ofTag o t, fun r _ => Event.isSpelled_ofReference o r⟩

theorem Batch.isBroken_of_mem {b : Batch} (hb : (Value.table b.entries).isBroken = false)
    {e : Event} (he : e ∈ b.events) : e.isBroken = false := by
  rw [Value.isBroken, entries, Value.entriesBroken, Bool.or_eq_false_iff,
    Bool.or_eq_false_iff] at hb
  have hmem : Value.table e.entries ∈ b.events.map fun e => .table e.entries :=
    List.mem_map_of_mem he
  exact Value.isBroken_of_mem hmem hb.1.2

/-- A batch whose document can be printed is read again from it. -/
theorem Report.read_of_batch {b : Batch} {indent : Option Int} {text : Text}
    (he : ∀ e ∈ b.events, e.IsSpelled) (hs : ∀ x ∈ b.subscriptions, x.IsText)
    (h : batch (indent.map .spaces) b = .ok (CodePoints.ofText text)) :
    ∀ limit ≥ 4, Json.read limit text = .ok (.table b.entries) := by
  let style : Json.Style := { indent := indent.map .spaces }
  have hwrite : style.obstacle? = none ∧
      Json.points style (.table b.entries) ++ ("\n" : CodePoints) = CodePoints.ofText text := by
    rw [batch, document, mapError_eq_ok_iff, Json.write] at h
    split at h
    · cases h
    · next hnone => exact ⟨(Option.or_eq_none_iff.1 hnone).1, Except.ok.inj h⟩
  have hbroken : (Value.table b.entries).isBroken = false := by
    have hpoints := congrArg CodePoints.isBroken hwrite.2
    rw [CodePoints.isBroken_append, CodePoints.isBroken_ofText, CodePoints.isBroken_ofText,
      Bool.or_false] at hpoints
    exact (Json.isBroken_valueIn style 0 _).symm.trans hpoints
  have htexts : ∀ e ∈ b.events, e.IsText := fun e hm =>
    (he e hm).isText (Batch.isBroken_of_mem hbroken hm)
  obtain ⟨document, hbatch, hread⟩ := batch_eq_ok htexts hs hwrite.1
  rw [h] at hbatch
  rwa [← CodePoints.ofText_inj.1 (Except.ok.inj hbatch)] at hread

end ChangeFeed
