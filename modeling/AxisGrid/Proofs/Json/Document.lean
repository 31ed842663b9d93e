import AxisGrid.Proofs.Json.Token

/-! A written document is read back as it is. The reader takes it value by value: behind a whole value it
stands where that value is complete, with the same brackets open as before it (`taken_of_whole`). -/
namespace AxisGrid.Json

open Token (scan scan_cons Ends)

namespace Document

/-- All brackets are closed, every key has a text and every value without parts is read back as it is. -/
inductive Whole : Document → Prop
  | atom {value : Atom} (exact : value.Exact) : Whole (atom value)
  | array {items : List Document} (each : ∀ d ∈ items, Whole d) : Whole (array items true)
  | object {members : List (Option String × Document)} (named : ∀ m ∈ members, m.1.isSome)
      (each : ∀ m ∈ members, Whole m.2) : Whole (object members true)

namespace Whole

theorem text (text : String) : (Document.text text).Whole := .atom rfl

theorem natural {n : Nat} (fits : n < Word.bound) : (Document.natural n).Whole := .atom fits

theorem list {items : List Document} (each : ∀ d ∈ items, d.Whole) : (Document.list items).Whole :=
  .array each

theorem record {members : List (String × Document)} (each : ∀ m ∈ members, m.2.Whole) :
    (Document.record members).Whole :=
  .object (List.forall_mem_map.mpr fun _ _ => rfl) (List.forall_mem_map.mpr each)

end Whole

end Document

namespace Reader

variable {frames : List Frame} {ts : List Token} {after : List Char}

def resume (d : Document) (frames : List Frame) (ts : List Token) : Document × List Token :=
  match frames with
  | [] => (d, ts)
  | f :: rest => run ⟨.commaOrEnd, f.plug d :: rest⟩ ts

theorem resume_cons (d : Document) (f : Frame) :
    resume d (f :: frames) ts = run ⟨.commaOrEnd, f.plug d :: frames⟩ ts := rfl

theorem run_more {r s : Reader} {t : Token} (taken : r.step t = .more s) : run r (t :: ts) = run s ts := by
  rw [run, taken]

theorem run_complete {r : Reader} {t : Token} {d : Document} (taken : r.step t = complete d frames) :
    run r (t :: ts) = resume d frames ts := by
  rw [run, taken]
  cases frames <;> rfl

/-- Wherever a value may come next, the reader takes the written document as it is. -/
def Takes (d : Document) : Prop :=
  ∀ (awaited : Awaited) (frames : List Frame) (after : List Char),
    awaited = .value ∨ awaited = .itemOrEnd → Ends after →
      run ⟨awaited, frames⟩ (scan (d.write ++ after)) = resume d frames (scan after)

theorem run_writeItems {items : List Document} (filled : items ≠ []) (each : ∀ d ∈ items, Takes d)
    {awaited : Awaited} (ready : awaited = .value ∨ awaited = .itemOrEnd) (earlier : List Document) :
    run ⟨awaited, .array earlier :: frames⟩ (scan (Document.writeItems items ++ ']' :: after))
      = resume (.array (earlier.reverse ++ items) true) frames (scan after) := by
  induction items generalizing awaited earlier with
  | nil => exact absurd rfl filled
  | cons d items ih =>
    have first (after) := each d List.mem_cons_self awaited (.array earlier :: frames) after ready
    cases items with
    | nil =>
      rw [Document.writeItems, first _ (.cons (by decide) _), resume_cons,
        scan_cons (t := .endArray) (by decide) rfl]
      refine (run_complete (d := (Frame.array (d :: earlier)).close) rfl).trans ?_
      rw [Frame.close, List.reverse_cons]
    | cons e items =>
      have rest := ih (by simp) (fun d later => each d (List.mem_cons_of_mem _ later)) (.inl rfl)
        (d :: earlier)
      simp only [Document.writeItems, List.append_assoc, List.cons_append]
      rw [first _ (.cons (by decide) _), resume_cons, scan_cons (t := .comma) (by decide) rfl]
      refine (run_more (s := ⟨.value, .array (d :: earlier) :: frames⟩) rfl).trans (rest.trans ?_)
      rw [List.reverse_cons, List.append_assoc, List.singleton_append]

theorem run_writeMember {key : Option String} {d : Document} (named : key.isSome) (value : Takes d)
    {awaited : Awaited} (ready : awaited = .key ∨ awaited = .keyOrEnd)
    (earlier : List (Option String × Document)) (ends : Ends after) :
    run ⟨awaited, .object earlier :: frames⟩
        (scan ((Atom.string key).write ++ ':' :: (d.write ++ after)))
      = run ⟨.commaOrEnd, .object ((key, d) :: earlier) :: frames⟩ (scan after) := by
  obtain ⟨key, rfl⟩ := Option.isSome_iff_exists.mp named
  have begun : step ⟨awaited, .object earlier :: frames⟩ (.atom (.string (some key)))
      = .more ⟨.colon, .member earlier (some key) :: frames⟩ := by
    rcases ready with rfl | rfl <;> rfl
  have read := value .value (.member earlier (some key) :: frames) after (.inl rfl) ends
  have exact : (Atom.string (some key)).Exact := rfl
  rw [Token.scan_writeAtom exact (.cons (by decide) _), run_more begun,
    scan_cons (t := .colon) (by decide) rfl]
  exact (run_more rfl).trans read

theorem run_writeMembers {members : List (Option String × Document)} (filled : members ≠ [])
    (named : ∀ m ∈ members, m.1.isSome) (each : ∀ m ∈ members, Takes m.2)
    {awaited : Awaited} (ready : awaited = .key ∨ awaited = .keyOrEnd)
    (earlier : List (Option String × Document)) :
    run ⟨awaited, .object earlier :: frames⟩ (scan (Document.writeMembers members ++ '}' :: after))
      = resume (.object (earlier.reverse ++ members) true) frames (scan after) := by
  induction members generalizing awaited earlier with
  | nil => exact absurd rfl filled
  | cons m members ih =>
    obtain ⟨key, d⟩ := m
    have first {after} := @run_writeMember frames after _ _ (named _ List.mem_cons_self)
      (each _ List.mem_cons_self) _ ready earlier
    cases members with
    | nil =>
      rw [Document.writeMembers, List.append_assoc, List.cons_append, first (.cons (by decide) _),
        scan_cons (t := .endObject) (by decide) rfl]
      refine (run_complete (d := (Frame.object ((key, d) :: earlier)).close) rfl).trans ?_
      rw [Frame.close, List.reverse_cons]
    | cons next members =>
      have rest := ih (by simp) (fun m later => named m (List.mem_cons_of_mem _ later))
        (fun m later => each m (List.mem_cons_of_mem _ later)) (.inl rfl) ((key, d) :: earlier)
      simp only [Document.writeMembers, List.append_assoc, List.cons_append]
      rw [first (.cons (by decide) _), scan_cons (t := .comma) (by decide) rfl]
      refine (run_more (s := ⟨.key, .object ((key, d) :: earlier) :: frames⟩) rfl).trans (rest.trans ?_)
      rw [List.reverse_cons, List.append_assoc, List.singleton_append]

theorem takes_of_whole {d : Document} (whole : d.Whole) : Takes d := by
  intro awaited frames after ready ends
  -- the parts are read inside of more brackets and with other text behind them
  induction whole generalizing awaited frames after with
  | @atom value exact =>
    rw [Document.write, Token.scan_writeAtom exact ends]
    refine run_complete ?_
    rcases ready with rfl | rfl <;> rfl
  | @array items _ ih =>
    have begun : step ⟨awaited, frames⟩ .beginArray = .more ⟨.itemOrEnd, .array [] :: frames⟩ := by
      rcases ready with rfl | rfl <;> rfl
    simp only [Document.write, if_true, List.cons_append, List.append_assoc, List.nil_append]
    rw [scan_cons (t := .beginArray) (by decide) rfl, run_more begun]
    -- the bracket may close at once, but not behind a comma
    cases items with
    | nil =>
      rw [Document.writeItems, List.nil_append, scan_cons (t := .endArray) (by decide) rfl]
      exact run_complete rfl
    | cons d items => exact run_writeItems (by simp) ih (.inr rfl) []
  | @object members named _ ih =>
    have begun : step ⟨awaited, frames⟩ .beginObject = .more ⟨.keyOrEnd, .object [] :: frames⟩ := by
      rcases ready with rfl | rfl <;> rfl
    simp only [Document.write, if_true, List.cons_append, List.append_assoc, List.nil_append]
    rw [scan_cons (t := .beginObject) (by decide) rfl, run_more begun]
    cases members with
    | nil =>
      rw [Document.writeMembers, List.nil_append, scan_cons (t := .endObject) (by decide) rfl]
      exact run_complete rfl
    | cons m members => exact run_writeMembers (by simp) named ih (.inr rfl) []

end Reader

/-- A whole document is read back from its text, and nothing is left of it. -/
theorem Reading.ofText_toText {d : Document} (whole : d.Whole) : ofText d.toText = ⟨d, true⟩ := by
  have read := Reader.takes_of_whole whole .value [] [] (.inl rfl) (by simp [Ends])
  rw [List.append_nil] at read
  simp only [ofText, Document.toText, String.toList_ofList, read]
  rfl

end AxisGrid.Json
