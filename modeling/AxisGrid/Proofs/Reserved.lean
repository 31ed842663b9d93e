import AxisGrid.Proofs.Compact
import AxisGrid.Proofs.Label

/-! The reserved name stands for the empty point alone. Whatever the names and values of a point are, its text
holds the pair separator once there is an entry, so a pair separator that the reserved name does not hold
keeps them apart; any that it holds cuts it into an entry. In a usable format the reserved name and the texts
without tokens are all that is read as the empty point. Labels may stand without a separator: the reserved
name can be a bare value there, and it is nothing else. -/
namespace AxisGrid.Point

section Tokens

variable {sep c : Char} {cs : List Char}

theorem mem_splitOn_iff (other : c ≠ sep) : (∃ piece ∈ cs.splitOn sep, c ∈ piece) ↔ c ∈ cs := by
  induction cs with
  | nil => simp
  | cons d cs ih =>
    rw [List.splitOn_cons_eq_if_modifyHead, List.mem_cons, ← ih]
    by_cases cut : d = sep
    · simp [cut, other]
    · obtain ⟨first, rest, pieces⟩ := List.exists_cons_of_ne_nil (List.splitOn_ne_nil sep cs)
      simp [cut, pieces, or_assoc]

theorem tokens_eq_nil_iff {text : String} : tokens sep text = [] ↔ ∀ c ∈ text.toList, c = sep := by
  constructor
  · intro none c member
    by_contra other
    obtain ⟨piece, here, inside⟩ := (mem_splitOn_iff other).mpr member
    have token : piece ∈ tokens sep text := mem_tokens_iff.mpr ⟨here, List.ne_nil_of_mem inside⟩
    rw [none] at token
    cases token
  · intro all
    refine List.eq_nil_iff_forall_not_mem.mpr fun token member => ?_
    obtain ⟨here, filled⟩ := mem_tokens_iff.mp member
    obtain ⟨c, inside⟩ := List.exists_mem_of_ne_nil token filled
    have other : c ≠ sep := fun same => not_mem_of_mem_splitOn here (same ▸ inside)
    exact other (all c ((mem_splitOn_iff other).mp ⟨token, here, inside⟩))

end Tokens

theorem ofPairs_eq_empty_iff {es : List (String × String)} : ofPairs es = empty ↔ es = [] := by
  constructor
  · intro same
    refine List.eq_nil_iff_forall_not_mem.mpr fun e member => ?_
    have named : e.1 ∈ (ofPairs es).names := mem_names_ofPairs.mpr (List.mem_map_of_mem member)
    rw [same] at named
    cases named
  · rintro rfl
    rfl

theorem renderWith_ofPairs_singleton (entrySep pairSep : Char) (name value : String) :
    (ofPairs [(name, value)]).renderWith entrySep pairSep
      = String.ofList (name.toList ++ pairSep :: value.toList) := by
  have entries : (ofPairs [(name, value)]).entries = [(name, value)] := rfl
  rw [renderWith, if_neg (by simp [isEmpty_iff, entries]), entries, writeEntries, List.map_singleton,
    List.intercalate_singleton]

theorem exists_renderWith_reserved_iff (entrySep pairSep : Char) :
    (∃ p : Point, p ≠ empty ∧ p.renderWith entrySep pairSep = Format.reservedName) ↔
      pairSep ∈ Format.reservedName.toList := by
  constructor
  · rintro ⟨p, some, same⟩
    rw [← same]
    exact pairSep_mem_render (f := ⟨entrySep, pairSep, .sha256⟩) (entries_ne_nil some)
  · intro member
    -- the reserved name is itself an entry: the separator cuts it into a name and a value
    obtain ⟨before, after, split⟩ := List.append_of_mem member
    refine ⟨ofPairs [(String.ofList before, String.ofList after)], ?_, ?_⟩
    · rw [Ne, ofPairs_eq_empty_iff]
      exact List.cons_ne_nil _ _
    · rw [renderWith_ofPairs_singleton, String.toList_ofList, String.toList_ofList, ← split, String.ofList_toList]

section Usable

variable {f : Format}

theorem render_eq_reserved_iff (usable : f.check = .ok ()) (p : Point) :
    p.render f = Format.reservedName ↔ p = empty := by
  constructor
  · intro same
    by_contra some
    exact render_ne_reservedName usable (entries_ne_nil some) same
  · rintro rfl
    rfl

theorem parseWith_eq_empty_iff (usable : f.check = .ok ()) (text : String) :
    parseWith f text = .ok empty ↔ text = Format.reservedName ∨ ∀ c ∈ text.toList, c = f.entrySep := by
  rw [parseWith_eq_ok_iff, ← tokens_eq_nil_iff]
  constructor
  · rintro ⟨-, ⟨reserved, -⟩ | ⟨-, es, cut, none⟩⟩
    · exact .inl reserved
    · cases ofPairs_eq_empty_iff.mp none.symm
      exact .inr (pairs_eq_ok_iff.mp cut).1
  · intro form
    by_cases reserved : text = Format.reservedName
    · exact ⟨usable, .inl ⟨reserved, rfl⟩⟩
    · have cut : pairs f.pairSep (tokens f.entrySep text) = .ok [] := by
        rw [form.resolve_left reserved]
        rfl
      exact ⟨usable, .inr ⟨reserved, [], cut, rfl⟩⟩

end Usable

/-- Points with entries are written as the reserved name with just the pair separators that it holds. So in a
usable format no point but the empty one is, and the empty point is read from it and from the texts of entry
separators only. -/
theorem reserved_exact :
    (∀ entrySep pairSep : Char,
      (∃ p : Point, p ≠ empty ∧ p.renderWith entrySep pairSep = "default") ↔ pairSep ∈ "default".toList) ∧
    ∀ f : Format, f.check = .ok () →
      (∀ p : Point, p.render f = "default" ↔ p = empty) ∧
      ∀ text, parseWith f text = .ok empty ↔ text = "default" ∨ ∀ c ∈ text.toList, c = f.entrySep :=
  ⟨exists_renderWith_reserved_iff, fun _ usable =>
    ⟨render_eq_reserved_iff usable, parseWith_eq_empty_iff usable⟩⟩

/-- A letter of the reserved name is a pair separator that cuts it, also its last one, but as an entry
separator it does no harm. -/
theorem reserved_exact_cut :
    (∃ p : Point, p ≠ empty ∧ p.renderWith ',' 't' = "default") ∧
      (¬ ∃ p : Point, p ≠ empty ∧ p.renderWith 't' ',' = "default") ∧
      Format.canonical.check = .ok () ∧ (ofPairs [("default", "")]).render .canonical ≠ "default" ∧
      parseWith .canonical ",,," = .ok empty := by
  obtain ⟨separators, formats⟩ := reserved_exact
  obtain ⟨written, read⟩ := formats .canonical rfl
  refine ⟨(separators ',' 't').mpr (by decide), mt (separators 't' ',').mp (by decide), rfl, ?_, ?_⟩
  · exact mt (written _).mp (by decide)
  · exact (read ",,,").mpr (.inr (by simp [Format.canonical]))

section Labels

variable {p : Point} {axes : List Axis}

theorem comma_mem_compactLabel {d e : String × String} {es : List (String × String)}
    (several : p.entries = d :: e :: es) (g : Grid) : ',' ∈ (p.compactLabel g).toList := by
  have filled : p.entries ≠ [] := several ▸ List.cons_ne_nil _ _
  rw [toList_compactLabel filled, several]
  simp

theorem toList_compactLabel_singleton {e : String × String} (lone : p.entries = [e]) (g : Grid) :
    (p.compactLabel g).toList = compactToken g e := by
  have filled : p.entries ≠ [] := lone ▸ List.cons_ne_nil _ _
  rw [toList_compactLabel filled, lone, List.map_singleton, List.intercalate_singleton]

/-- More entries than one have a comma between them, and a shared value has its name in front of it. -/
theorem compactLabel_eq_reserved_iff (filled : p ≠ empty) (g : Grid) :
    p.compactLabel g = Format.reservedName ↔
      (∃ name, p.entries = [(name, Format.reservedName)]) ∧ ¬ g.Shared Format.reservedName := by
  obtain ⟨e, es, split⟩ := List.exists_cons_of_ne_nil (entries_ne_nil filled)
  cases es with
  | cons e' es =>
    have comma := comma_mem_compactLabel split g
    constructor
    · intro same
      rw [same] at comma
      exact absurd comma (by decide)
    · rintro ⟨⟨name, lone⟩, -⟩
      rw [split] at lone
      cases lone
  | nil =>
    obtain ⟨name, value⟩ := e
    have token := toList_compactLabel_singleton split g
    rw [split, ← String.toList_inj, token]
    by_cases shared : g.Shared value
    · rw [compactToken_of_shared shared]
      constructor
      · intro same
        have separator : '=' ∈ writeEntry '=' (name, value) := by simp [writeEntry]
        rw [same] at separator
        exact absurd separator (by decide)
      · rintro ⟨⟨_, lone⟩, own⟩
        cases lone
        exact absurd shared own
    · rw [compactToken_of_not_shared shared, String.toList_inj]
      constructor
      · rintro rfl
        exact ⟨⟨name, rfl⟩, shared⟩
      · rintro ⟨⟨_, lone⟩, -⟩
        cases lone
        rfl

theorem lone_of_labelFor_eq_reserved (asked : axes ≠ []) (label : p.labelFor axes = .ok Format.reservedName) :
    axes.length = 1 ∧ ∃ name, p.entries = [(name, Format.reservedName)] := by
  by_cases lone : p.Lone axes
  · obtain ⟨name, value, entries, bare⟩ := exists_labelFor_of_lone lone
    cases bare.symm.trans label
    exact ⟨lone.2, name, entries⟩
  · obtain ⟨es, ⟨names, -⟩, written⟩ := (labelFor_eq_ok_iff asked lone).mp label
    have filled : es ≠ [] := by
      rintro rfl
      exact asked (List.map_eq_nil_iff.mp names.symm)
    exact absurd written (writeEntries_ne_reservedName (f := .canonical) rfl filled)

theorem labelFor_eq_reserved_iff (asked : axes ≠ []) (bound : ∀ a ∈ axes, p.contains a.name) :
    p.labelFor axes = .ok Format.reservedName ↔
      ∃ a, axes = [a] ∧ p.entries = [(a.name, Format.reservedName)] := by
  constructor
  · intro label
    obtain ⟨one, name, entries⟩ := lone_of_labelFor_eq_reserved asked label
    obtain ⟨a, rfl⟩ := List.length_eq_one_iff.mp one
    have names : p.names = [name] := congrArg (List.map Prod.fst) entries
    have member : a.name ∈ p.names := mem_names_iff_get?.mpr (contains_iff.mp (bound a List.mem_cons_self))
    rw [names, List.mem_singleton] at member
    exact ⟨a, rfl, member ▸ entries⟩
  · rintro ⟨a, rfl, entries⟩
    have lone : p.Lone [a] := ⟨congrArg List.length entries, rfl⟩
    obtain ⟨name, value, found, label⟩ := exists_labelFor_of_lone lone
    cases entries.symm.trans found
    exact label

end Labels

/-- A point with entries is shown as the reserved name only if that is its one value: in the compact label
unless two axes of the grid declare this value, in the label for a row only if the row is one axis. A row for
whose axes the point has entries is labelled so exactly if it is the axis of that one entry. -/
theorem label_reserved_iff (p : Point) (filled : p ≠ empty) :
    (∀ g : Grid, p.compactLabel g = "default" ↔
      (∃ name, p.entries = [(name, "default")]) ∧ ¬ g.Shared "default") ∧
    ∀ axes : List Axis, axes ≠ [] →
      (p.labelFor axes = .ok "default" → axes.length = 1 ∧ ∃ name, p.entries = [(name, "default")]) ∧
      ((∀ a ∈ axes, p.contains a.name) →
        (p.labelFor axes = .ok "default" ↔ ∃ a, axes = [a] ∧ p.entries = [(a.name, "default")])) :=
  ⟨compactLabel_eq_reserved_iff filled, fun _ asked =>
    ⟨lone_of_labelFor_eq_reserved asked, labelFor_eq_reserved_iff asked⟩⟩

def reservedAxis (name : String) (named : name ≠ "") : Axis :=
  ⟨name, [Format.reservedName], named, List.nodup_singleton _⟩

/-- Both labels drop the name `x`, and what is left is the label of the empty point. -/
theorem label_reserved_bare :
    ofPairs [("x", "default")] ≠ empty ∧
      (ofPairs [("x", "default")]).compactLabel ⟨[reservedAxis "x" (by decide)], by decide⟩ = "default" ∧
      (ofPairs [("x", "default")]).labelFor [reservedAxis "x" (by decide)] = .ok "default" := by
  decide

/-- A second axis that declares the value, a second entry or a second axis in the row is enough. -/
theorem label_reserved_iff_apart :
    ofPairs [("x", "default")] ≠ empty ∧ ofPairs [("x", "default"), ("y", "default")] ≠ empty ∧
      (ofPairs [("x", "default")]).compactLabel Grid.square = "default" ∧
      (ofPairs [("x", "default")]).compactLabel
        ⟨[reservedAxis "x" (by decide), reservedAxis "y" (by decide)], by decide⟩ ≠ "default" ∧
      (ofPairs [("x", "default"), ("y", "default")]).compactLabel Grid.square ≠ "default" ∧
      (∀ a ∈ [reservedAxis "x" (by decide)], (ofPairs [("x", "default")]).contains a.name) ∧
      (ofPairs [("x", "default")]).labelFor [reservedAxis "x" (by decide)] = .ok "default" ∧
      Grid.square.axes ≠ [] ∧
      (ofPairs [("x", "default"), ("y", "default")]).labelFor Grid.square.axes ≠ .ok "default" := by
  have one : ofPairs [("x", "default")] ≠ empty := by decide
  have two : ofPairs [("x", "default"), ("y", "default")] ≠ empty := by decide
  have asked : Grid.square.axes ≠ [] := by decide
  have bound : ∀ a ∈ [reservedAxis "x" (by decide)], (ofPairs [("x", "default")]).contains a.name := by decide
  obtain ⟨compact, labels⟩ := label_reserved_iff _ one
  obtain ⟨compact', labels'⟩ := label_reserved_iff _ two
  refine ⟨one, two, (compact _).mpr ⟨⟨"x", rfl⟩, by decide⟩, ?_, ?_, bound, ?_, asked, ?_⟩
  · intro label
    exact absurd (by decide) ((compact _).mp label).2
  · intro label
    obtain ⟨⟨name, entries⟩, -⟩ := (compact' _).mp label
    cases congrArg List.length entries
  · exact ((labels _ (List.cons_ne_nil _ _)).2 bound).mpr ⟨_, rfl, rfl⟩
  · intro label
    cases ((labels' _ asked).1 label).1

end AxisGrid.Point
