import AxisGrid.Proofs.Grammar
import AxisGrid.Proofs.Numbering
import Mathlib.Data.Finset.Card

/-! The log tells the outcome. A text that is read, or refused for a token, leaves one event, and so does a point
that is numbered, or refused for want of a value or for a value that is not declared; everything else is quiet.
Only a success is traced. -/
namespace AxisGrid

theorem Table.size_ofList (pairs : List (String × String)) :
    (ofList pairs).size = (pairs.map (·.1)).toFinset.card := by
  have keys : (ofList pairs).keys.toFinset = (pairs.map (·.1)).toFinset := by
    ext key
    rw [List.mem_toFinset, List.mem_toFinset, mem_keys_ofList]
  rw [← keys, List.toFinset_card_of_nodup (nodup_keys _)]
  exact (List.length_map _).symm

namespace Point

def firstUnpaired? (f : Format) (text : String) : Option (List Char) :=
  (text.toList.splitOn f.entrySep).find? fun token => token ≠ [] ∧ f.pairSep ∉ token

def tokenNames (f : Format) (text : String) : Finset String :=
  (((text.toList.splitOn f.entrySep).filter (· ≠ [])).map (tokenName f.pairSep)).toFinset

section Reading

variable {f : Format} {text : String}

theorem firstUnpaired?_of_pairs {token : List Char} (cut : pairs f.pairSep (tokens f.entrySep text) = .error token) :
    firstUnpaired? f text = some token := by
  obtain ⟨before, after, split, front, missing⟩ := pairs_eq_error_iff.mp cut
  have found : (tokens f.entrySep text).find? (fun token => f.pairSep ∉ token) = some token := by
    rw [List.find?_eq_some_iff_append]
    exact ⟨by simpa using missing, before, after, split, by simpa using front⟩
  rw [tokens_eq_filter, List.find?_filter] at found
  simpa [firstUnpaired?] using found

theorem size_of_pairs {es : List (String × String)} (cut : pairs f.pairSep (tokens f.entrySep text) = .ok es) :
    (ofPairs es).size = (tokenNames f text).card := by
  obtain ⟨written, clear⟩ := pairs_eq_ok_iff.mp cut
  have names : tokenNames f text = (es.map (·.1)).toFinset := by
    rw [tokenNames, ← tokens_eq_filter, written, map_tokenName_writeEntry clear]
  rw [names]
  exact Table.size_ofList es

theorem parseReport_of_check {cause : FormatError} (refused : f.check = .error cause) (text : String) :
    parseReport f text = ⟨.error (.invalidFormat cause), []⟩ := by
  unfold parseReport
  rw [refused]
  rfl

theorem parseReport_reserved (usable : f.check = .ok ()) : parseReport f Format.reservedName = ⟨.ok empty, []⟩ := by
  unfold parseReport
  rw [usable]
  rfl

theorem parseReport_told (usable : f.check = .ok ()) (unreserved : text ≠ Format.reservedName) :
    (∃ p, p.size = (tokenNames f text).card ∧ parseReport f text = ⟨.ok p, [.parsed text p.size]⟩) ∨
      ∃ token, firstUnpaired? f text = some token ∧
        parseReport f text = ⟨.error (.unreadable text), [.unpaired text (String.ofList token)]⟩ := by
  unfold parseReport
  simp only [usable, if_neg unreserved]
  cases cut : pairs f.pairSep (tokens f.entrySep text) with
  | error token => exact .inr ⟨token, firstUnpaired?_of_pairs cut, rfl⟩
  | ok es => exact .inl ⟨ofPairs es, size_of_pairs cut, rfl⟩

theorem level_of_mem_parseReport {e : Event} (member : e ∈ (parseReport f text).events) :
    e.level = .trace ↔ ∃ p, parseWith f text = .ok p := by
  unfold parseWith
  cases checked : f.check with
  | error cause =>
    rw [parseReport_of_check checked] at member
    cases member
  | ok u =>
    by_cases reserved : text = Format.reservedName
    · rw [reserved, parseReport_reserved checked] at member
      cases member
    · rcases parseReport_told checked reserved with ⟨p, -, told⟩ | ⟨token, -, told⟩
      all_goals
        rw [told] at member ⊢
        cases List.mem_singleton.mp member
        simp [Event.level]

end Reading

end Point

namespace Grid

/-- What the log says of a point whose numbering has this outcome. -/
def numberingEvents (p : Point) : Except PointError Nat → List Event
  | .ok index => [.indexed p.identifier index]
  | .error (.missingValue axis) => [.missing axis p.identifier]
  | .error (.unknownValue axis value) => [.undeclared axis value]
  | .error _ => []

/-- An axis that is passed says nothing, so the last one looked at speaks for the whole row. -/
theorem events_indexFrom (p : Point) (start : Nat) (axes : List Axis) :
    (indexFrom p start axes).events = numberingEvents p (indexFrom p start axes).outcome := by
  induction axes generalizing start with
  | nil => rfl
  | cons a axes ih =>
    unfold indexFrom
    split
    · rfl
    · split
      · rfl
      · split
        · rfl
        · apply ih

theorem level_of_mem_numberingEvents {p : Point} {outcome : Except PointError Nat} {e : Event}
    (member : e ∈ numberingEvents p outcome) : e.level = .trace ↔ ∃ i, outcome = .ok i := by
  unfold numberingEvents at member
  split at member
  case h_4 => cases member
  all_goals
    cases List.mem_singleton.mp member
    simp [Event.level]

theorem indexReport_eq (g : Grid) (p : Point) : g.indexReport p = ⟨g.index p, numberingEvents p (g.index p)⟩ :=
  congrArg (Report.mk (g.index p)) (events_indexFrom p 0 g.axes)

theorem indexReport_cases (g : Grid) (p : Point) :
    (∃ i, g.indexReport p = ⟨.ok i, [.indexed p.identifier i]⟩) ∨
      (∃ axis, g.indexReport p = ⟨.error (.missingValue axis), [.missing axis p.identifier]⟩) ∨
      (∃ axis value, g.indexReport p = ⟨.error (.unknownValue axis value), [.undeclared axis value]⟩) ∨
      g.indexReport p = ⟨.error .indexOverflow, []⟩ := by
  rw [indexReport_eq]
  cases outcome : g.index p with
  | ok i => exact .inl ⟨i, rfl⟩
  | error e =>
    obtain ⟨before, a, after, -, -, fault⟩ := index_eq_error_iff.mp outcome
    cases fault with
    | missing unbound => exact .inr (.inl ⟨a.name, rfl⟩)
    | undeclared bound unknown => exact .inr (.inr (.inl ⟨a.name, _, rfl⟩))
    | overflow written large => exact .inr (.inr (.inr rfl))

theorem level_of_mem_indexReport {g : Grid} {p : Point} {e : Event} (member : e ∈ (g.indexReport p).events) :
    e.level = .trace ↔ ∃ i, g.index p = .ok i := by
  rw [indexReport_eq] at member
  exact level_of_mem_numberingEvents member

end Grid

open Point Grid

/-- A format that is refused and the reserved name leave no event. Any other text leaves one: the number of its
different names if it is read, and the first token that cannot be cut if it is not. Numbering tells the index of
the point, the axis that has no value or the value that is not declared, and is quiet only on overflow. -/
theorem log_mirrors_outcome :
    (∀ (f : Format) (text : String),
      (∀ cause, f.check = .error cause → parseReport f text = ⟨.error (.invalidFormat cause), []⟩) ∧
      (f.check = .ok () → text = "default" → parseReport f text = ⟨.ok .empty, []⟩) ∧
      (f.check = .ok () → text ≠ "default" →
        (∃ p, p.size = (tokenNames f text).card ∧ parseReport f text = ⟨.ok p, [.parsed text p.size]⟩) ∨
          ∃ token, firstUnpaired? f text = some token ∧
            parseReport f text = ⟨.error (.unreadable text), [.unpaired text (String.ofList token)]⟩) ∧
      ∀ e ∈ (parseReport f text).events, e.level = .trace ↔ ∃ p, parseWith f text = .ok p) ∧
    ∀ (g : Grid) (p : Point),
      ((∃ i, g.indexReport p = ⟨.ok i, [.indexed p.identifier i]⟩) ∨
        (∃ axis, g.indexReport p = ⟨.error (.missingValue axis), [.missing axis p.identifier]⟩) ∨
        (∃ axis value, g.indexReport p = ⟨.error (.unknownValue axis value), [.undeclared axis value]⟩) ∨
        g.indexReport p = ⟨.error .indexOverflow, []⟩) ∧
      ∀ e ∈ (g.indexReport p).events, e.level = .trace ↔ ∃ i, g.index p = .ok i := by
  constructor
  · intro f text
    refine ⟨fun cause refused => parseReport_of_check refused text, ?_, parseReport_told,
      fun e => level_of_mem_parseReport⟩
    rintro usable rfl
    exact parseReport_reserved usable
  · intro g p
    exact ⟨indexReport_cases g p, fun e => level_of_mem_indexReport⟩

/-- Of two tokens that cannot be cut the first is told, a name that is repeated counts once, and a value that is
not declared is not told if it stands behind an axis without one. -/
theorem log_mirrors_outcome_faulty :
    Format.canonical.check = .ok () ∧
      parseReport .canonical "k=1,,x,y,k=2"
        = ⟨.error (.unreadable "k=1,,x,y,k=2"), [.unpaired "k=1,,x,y,k=2" "x"]⟩ ∧
      (∃ p, parseReport .canonical "k=1,,x=y,k=2" = ⟨.ok p, [.parsed "k=1,,x=y,k=2" 2]⟩) ∧
      Grid.crossed.indexReport (.ofPairs [("x", "q")]) = ⟨.error (.missingValue "y"), [.missing "y" "x=q"]⟩ := by
  have usable : Format.canonical.check = .ok () := rfl
  obtain ⟨read, numbered⟩ := log_mirrors_outcome
  refine ⟨usable, ?_, ?_, ?_⟩
  · obtain ⟨-, -, told, -⟩ := read .canonical "k=1,,x,y,k=2"
    rcases told usable (by decide) with ⟨p, -, told⟩ | ⟨token, first, told⟩
    · cases congrArg Report.outcome told
    · cases first
      exact told
  · obtain ⟨-, -, told, -⟩ := read .canonical "k=1,,x=y,k=2"
    rcases told usable (by decide) with ⟨p, size, told⟩ | ⟨token, first, -⟩
    · exact ⟨p, told.trans (by rw [size]; rfl)⟩
    · cases first
  · obtain ⟨cases, -⟩ := numbered .crossed (.ofPairs [("x", "q")])
    rcases cases with ⟨i, told⟩ | ⟨axis, told⟩ | ⟨axis, value, told⟩ | told
    · cases congrArg Report.outcome told
    · cases congrArg Report.outcome told
      exact told
    · cases congrArg Report.outcome told
    · cases congrArg Report.outcome told

end AxisGrid
