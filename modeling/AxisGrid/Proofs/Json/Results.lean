import AxisGrid.Proofs.Identifier
import AxisGrid.Proofs.Json.Decode
import AxisGrid.Results

/-! Which tables of results come back from their text. Reading binds the points of the keys one after the
other, and no point that was read has a separator where it would be taken for one; those tables come back and
no others do. -/
namespace AxisGrid

open Json

theorem Point.outcome_ofText {text : String} {p : Point} :
    (ofText text).outcome = .ok p ↔ parse text = .ok p :=
  mapError_eq_ok_iff

namespace Results

def Reads (key : String) (d : Document) (e : Point × UInt32) : Prop :=
  Point.parse key = .ok e.1 ∧ d.natural32 = .ok e.2

abbrev ReadAs : List (Option String × Document) → List (Point × UInt32) → Prop :=
  List.Forall₂ fun m e => ∃ key, m.1 = some key ∧ Reads key m.2 e

theorem outcome_member (r : Results) (key : String) (d : Document) (s : Results) :
    (member r key d).outcome = .ok s ↔ ∃ e, Reads key d e ∧ s = r.insert e.1 e.2 := by
  simp only [member, Report.outcome_bind, Report.outcome_pure, bind_eq_ok_iff, Point.outcome_ofText,
    Report.quiet, Except.ok.injEq]
  constructor
  · rintro ⟨p, key, n, value, rfl⟩
    exact ⟨(p, n), ⟨key, value⟩, rfl⟩
  · rintro ⟨⟨p, n⟩, ⟨key, value⟩, rfl⟩
    exact ⟨p, key, n, value, rfl⟩

theorem outcome_ofDocument {d : Document} {r : Results} :
    (ofDocument d).outcome = .ok r ↔
      ∃ members es, d = .object members true ∧ ReadAs members es ∧ r = .ofList es := by
  cases d with
  | object members closed =>
    rw [ofDocument, Document.outcome_members, Document.members_eq_ok_iff outcome_member]
    constructor
    · rintro ⟨rfl, es, all, rfl⟩
      exact ⟨members, es, rfl, all, rfl⟩
    · rintro ⟨_, es, ⟨⟩, all, rfl⟩
      exact ⟨rfl, es, all, rfl⟩
  | _ => simp [ofDocument, Report.quiet]

theorem ofJson_eq_ok_iff {text : String} {r : Results} :
    (ofJson text).outcome = .ok r ↔
      ∃ members es, Reading.ofText text = ⟨.object members true, true⟩ ∧ ReadAs members es ∧
        r = .ofList es := by
  rw [ofJson, outcome_decode, decode_eq_ok_iff, outcome_ofDocument]
  obtain ⟨d, ended⟩ := Reading.ofText text
  simp only [Json.Reading.mk.injEq]
  constructor
  · rintro ⟨⟨members, es, same, all⟩, ended⟩
    exact ⟨members, es, ⟨same, ended⟩, all⟩
  · rintro ⟨members, es, ⟨same, ended⟩, all⟩
    exact ⟨⟨members, es, same, all⟩, ended⟩

def Clean (r : Results) : Prop := ∀ e ∈ r.entries, e.1.Clean .canonical

theorem clean_of_readAs {members : List (Option String × Document)} {es : List (Point × UInt32)}
    (all : ReadAs members es) : ∀ e ∈ es, e.1.Clean .canonical := by
  induction all with
  | nil => nofun
  | cons read _ ih =>
    obtain ⟨key, -, point, -⟩ := read
    exact List.forall_mem_cons.mpr ⟨Point.clean_of_parseWith point, ih⟩

theorem clean_of_ofJson {text : String} {r : Results} (read : (ofJson text).outcome = .ok r) : r.Clean := by
  obtain ⟨members, es, -, all, rfl⟩ := ofJson_eq_ok_iff.mp read
  exact fun e member => clean_of_readAs all e (Table.mem_of_mem_entries_ofList member)

def documentOf (es : List (Point × UInt32)) : Document :=
  .record (es.map fun e => (e.1.identifier, .natural e.2.toNat))

theorem whole_documentOf (es : List (Point × UInt32)) : (documentOf es).Whole :=
  .record (List.forall_mem_map.mpr fun e _ => .natural (e.2.toNat_lt_size.trans (by decide)))

theorem readAs_of_clean {es : List (Point × UInt32)} (clean : ∀ e ∈ es, e.1.Clean .canonical) :
    ReadAs (es.map fun e => (some e.1.identifier, .natural e.2.toNat)) es := by
  rw [ReadAs, List.forall₂_map_left_iff, List.forall₂_same]
  intro e member
  have point : Point.parse e.1.identifier = .ok e.1 := Point.parseWith_render rfl (clean e member)
  exact ⟨_, rfl, point, Document.natural32_natural e.2⟩

theorem ofJson_documentOf {r : Results} (clean : r.Clean) {es : List (Point × UInt32)}
    (order : es.Perm r.entries) : (ofJson (documentOf es).toText).outcome = .ok r := by
  have read := Reading.ofText_toText (whole_documentOf es)
  refine ofJson_eq_ok_iff.mpr ⟨_, es, read.trans ?_, readAs_of_clean fun e member => ?_, ?_⟩
  · simp [documentOf, Document.record]
  · exact clean e (order.mem_iff.mp member)
  -- the keys are distinct, so no member stands in the way of another
  · exact (Table.ofList_perm order).symm

/-- A table comes back from its text exactly if no name of its points holds one of the two separators and no
value the entry separator, in whatever order its members are written. A text is read as the table in which
each point has the number of the last member that is read as that point, and every table that was read comes
back from its own text. -/
theorem ofJson_toJson_iff (r : Results) :
    ((ofJson r.toJson).outcome = .ok r ↔
        ∀ e ∈ r.entries, ∀ b ∈ e.1.entries, ',' ∉ b.1.toList ∧ '=' ∉ b.1.toList ∧ ',' ∉ b.2.toList) ∧
      (∀ es, es.Perm r.entries →
        ((ofJson (documentOf es).toText).outcome = .ok r ↔ (ofJson r.toJson).outcome = .ok r)) ∧
      ∀ text,
        ((ofJson text).outcome = .ok r ↔
          ∃ members es, Reading.ofText text = ⟨.object members true, true⟩ ∧ ReadAs members es ∧
            ∀ p, r.get? p = Table.last? p es) ∧
        ((ofJson text).outcome = .ok r → (ofJson r.toJson).outcome = .ok r) := by
  have returns (clean : r.Clean) : (ofJson r.toJson).outcome = .ok r := ofJson_documentOf clean (.refl _)
  refine ⟨⟨clean_of_ofJson, returns⟩, fun es order => ?_, fun text => ⟨?_, fun read => ?_⟩⟩
  · refine ⟨fun read => returns (clean_of_ofJson read), fun read => ?_⟩
    exact ofJson_documentOf (clean_of_ofJson read) order
  · simp only [ofJson_eq_ok_iff, Table.eq_ofList_iff]
  · exact returns (clean_of_ofJson read)

/-- Two keys that are no identifiers are read as one point, and the later number stays. -/
theorem ofJson_toJson_collapsed :
    (ofJson "\x7b\"b=2,a=1\":3,\"a=1,,b=2\":7\x7d").outcome
        = .ok (.ofList [(.ofPairs [("a", "1"), ("b", "2")], 7)]) ∧
      (ofJson (toJson (.ofList [(.ofPairs [("a", "1"), ("b", "2")], 7)]))).outcome
        = .ok (.ofList [(.ofPairs [("a", "1"), ("b", "2")], 7)]) := by
  have whole : (Document.record [("b=2,a=1", .natural 3), ("a=1,,b=2", .natural 7)]).Whole :=
    .record (by simpa using ⟨.natural (by decide), .natural (by decide)⟩)
  have written : (Document.record [("b=2,a=1", .natural 3), ("a=1,,b=2", .natural 7)]).toText
      = "\x7b\"b=2,a=1\":3,\"a=1,,b=2\":7\x7d" := rfl
  have document := Reading.ofText_toText whole
  rw [written] at document
  have all : ReadAs [(some "b=2,a=1", .natural 3), (some "a=1,,b=2", .natural 7)]
      [(.ofPairs [("a", "1"), ("b", "2")], 3), (.ofPairs [("a", "1"), ("b", "2")], 7)] :=
    .cons ⟨_, rfl, rfl, rfl⟩ (.cons ⟨_, rfl, rfl, rfl⟩ .nil)
  obtain ⟨-, -, texts⟩ := ofJson_toJson_iff (.ofList [(.ofPairs [("a", "1"), ("b", "2")], 7)])
  obtain ⟨reads, returns⟩ := texts "\x7b\"b=2,a=1\":3,\"a=1,,b=2\":7\x7d"
  have read := reads.mpr ⟨_, _, document, all, Table.eq_ofList_iff.mp rfl⟩
  exact ⟨read, returns read⟩

end Results

end AxisGrid
