import AxisGrid.Json.Decode
import AxisGrid.Proofs.Except
import AxisGrid.Proofs.Json.Document
import AxisGrid.Report
import Mathlib.Data.List.Forall2

/-! What is taken out of a written document is what was put into it. The events of a report have no part
in that: its outcome is what the outcomes of its parts decide. -/
namespace AxisGrid.Json

variable {α β σ : Type}

theorem decode_eq_ok_iff {value : Document → Except DecodeError α} {text : String} {a : α} :
    decode value text = .ok a ↔
      value (Reading.ofText text).document = .ok a ∧ (Reading.ofText text).ended = true := by
  cases ended : (Reading.ofText text).ended <;> simp [decode, ended]

theorem decode_of_ended {value : Document → Except DecodeError α} {text : String} {d : Document}
    (read : Reading.ofText text = ⟨d, true⟩) : decode value text = value d := by
  rw [decode, read]
  cases value d <;> rfl

theorem outcome_decode (value : Document → Report DecodeError α) (text : String) :
    (decode value text).outcome = decode (fun d => (value d).outcome) text := by
  rw [decode, Report.outcome_bind, decode]
  cases (Reading.ofText text).ended <;> rfl

namespace Document

theorem outcome_members (member : σ → String → Document → Report DecodeError σ) (start : σ)
    (entries : List (Option String × Document)) (closed : Bool) :
    (members member start entries closed).outcome
      = members (fun s key d => (member s key d).outcome) start entries closed := by
  rw [members, Report.outcome_bind, Report.outcome_foldlM, members]
  congr 1
  · congr 1
    funext s ⟨key, d⟩
    cases key <;> rfl
  · cases closed <;> rfl

section Members

variable {member : σ → String → Document → Except DecodeError σ} {start final : σ}
  {entries : List (Option String × Document)} {closed : Bool}

theorem members_nil : members member start [] closed = .ok final ↔ closed = true ∧ start = final := by
  cases closed <;> simp [members]

theorem members_cons {key : Option String} {d : Document} :
    members member start ((key, d) :: entries) closed = .ok final ↔
      ∃ k s, key = some k ∧ member start k d = .ok s ∧ members member s entries closed = .ok final := by
  cases key <;> simp [members]

theorem members_eq_ok_iff {reads : String → Document → β → Prop} {add : σ → β → σ}
    (each : ∀ s key d t, member s key d = .ok t ↔ ∃ b, reads key d b ∧ t = add s b) :
    members member start entries closed = .ok final ↔
      closed = true ∧
        ∃ bs, List.Forall₂ (fun e b => ∃ key, e.1 = some key ∧ reads key e.2 b) entries bs ∧
          final = bs.foldl add start := by
  induction entries generalizing start with
  | nil =>
    rw [members_nil]
    refine and_congr_right fun _ => ⟨?_, ?_⟩
    · rintro rfl
      exact ⟨[], .nil, rfl⟩
    · rintro ⟨_, ⟨⟩, rfl⟩
      rfl
  | cons e entries ih =>
    rw [members_cons]
    constructor
    · rintro ⟨key, s, named, first, rest⟩
      obtain ⟨b, read, rfl⟩ := (each ..).mp first
      obtain ⟨whole, bs, reads, rfl⟩ := ih.mp rest
      exact ⟨whole, b :: bs, .cons ⟨key, named, read⟩ reads, rfl⟩
    · rintro ⟨whole, _, all, rfl⟩
      obtain ⟨b, bs, ⟨key, named, read⟩, reads, rfl⟩ := List.forall₂_cons_left_iff.mp all
      exact ⟨key, add start b, named, (each ..).mpr ⟨b, read, rfl⟩, ih.mpr ⟨whole, bs, reads, rfl⟩⟩

end Members

theorem items_eq_ok_iff {item : Document → Except DecodeError α} {d : Document} {xs : List α} :
    d.items item = .ok xs ↔ ∃ ds, d = list ds ∧ List.Forall₂ (fun d x => item d = .ok x) ds xs := by
  cases d with
  | array ds closed =>
    simp only [items, bind_eq_ok_iff, mapM_eq_ok_iff_forall₂]
    cases closed <;> simp [list]
  | _ => simp [items, list]

theorem items_list {item : Document → Except DecodeError α} {write : α → Document} {xs : List α}
    (each : ∀ x ∈ xs, item (write x) = .ok x) : (list (xs.map write)).items item = .ok xs := by
  refine items_eq_ok_iff.mpr ⟨_, rfl, ?_⟩
  rw [List.forall₂_map_left_iff, List.forall₂_same]
  exact each

theorem natural32_natural (n : UInt32) : (natural n.toNat).natural32 = .ok n := by
  simp [natural32, natural, kind?, Atom.kind?, UInt32.toNat_lt_size]

end Document

end AxisGrid.Json
