import AxisGrid.Point.Identifier
import AxisGrid.Proofs.ByteOrder
import AxisGrid.Proofs.Except
import AxisGrid.Table.Lemmas

/-! Reading undoes writing on the points that the separators of a format can carry, and on no others:
whatever is read can be carried. Writing undoes reading on the texts that are already in the written
form, so reading and writing once brings every readable text to its normal form. -/
namespace AxisGrid.Point

def writeEntry (pairSep : Char) (e : String × String) : List Char := e.1.toList ++ pairSep :: e.2.toList

/-- What a format can carry: names without separators and values without the entry separator. -/
def Clean (f : Format) (p : Point) : Prop :=
  ∀ e ∈ p.entries, f.entrySep ∉ e.1.toList ∧ f.pairSep ∉ e.1.toList ∧ f.entrySep ∉ e.2.toList

theorem writeEntry_ne_nil (pairSep : Char) (e : String × String) : writeEntry pairSep e ≠ [] := by
  simp [writeEntry]

theorem toList_writeEntries (entrySep pairSep : Char) (es : List (String × String)) :
    (writeEntries entrySep pairSep es).toList = [entrySep].intercalate (es.map (writeEntry pairSep)) :=
  String.toList_ofList

theorem isEmpty_iff {p : Point} : p.isEmpty ↔ p.entries = [] :=
  List.isEmpty_iff

theorem ext_entries {p q : Point} (same : p.entries = q.entries) : p = q := by
  cases p
  cases q
  exact congrArg Point.mk (Table.ext same)

theorem eq_empty_of_entries {p : Point} (none : p.entries = []) : p = empty := ext_entries none

theorem entries_ne_nil {p : Point} (some : p ≠ empty) : p.entries ≠ [] :=
  mt eq_empty_of_entries some

theorem ofPairs_entries (p : Point) : ofPairs p.entries = p :=
  ext_entries (congrArg Table.entries (Table.ofList_entries p.table))

def Ascending (es : List (String × String)) : Prop := es.Pairwise fun d e => Text.utf8 d.1 < Text.utf8 e.1

theorem ascending_iff {es : List (String × String)} :
    Ascending es ↔ es.Pairwise fun d e => compare d.1 e.1 = .lt := by
  simp only [Ascending, Text.compare_eq_lt_iff]

theorem ascending_entries (p : Point) : Ascending p.entries := ascending_iff.mpr p.table.ascending

theorem mem_names_ofPairs {pairs : List (String × String)} {name : String} :
    name ∈ (ofPairs pairs).names ↔ name ∈ pairs.map (·.1) :=
  Table.mem_keys_ofList

section Split

theorem not_mem_of_mem_splitOn {sep : Char} {cs piece : List Char} (member : piece ∈ cs.splitOn sep) :
    sep ∉ piece := by
  induction cs generalizing piece with
  | nil =>
    rw [List.splitOn_nil, List.mem_singleton] at member
    simp [member]
  | cons c cs ih =>
    rw [List.splitOn_cons_eq_if_modifyHead] at member
    by_cases cut : c = sep
    · rw [if_pos (by simpa using cut)] at member
      rcases List.mem_cons.mp member with rfl | later
      · exact List.not_mem_nil
      · exact ih later
    · rw [if_neg (by simpa using cut)] at member
      obtain ⟨first, rest, pieces⟩ := List.exists_cons_of_ne_nil (List.splitOn_ne_nil sep cs)
      rw [pieces, List.modifyHead_cons, List.mem_cons] at member
      rcases member with rfl | later
      · have clear : sep ∉ first := ih (pieces ▸ List.mem_cons_self)
        simp [Ne.symm cut, clear]
      · exact ih (pieces ▸ List.mem_cons_of_mem _ later)

theorem tokens_eq_filter (sep : Char) (text : String) :
    tokens sep text = (text.toList.splitOn sep).filter (· ≠ []) := by
  unfold tokens
  congr
  funext token
  cases token <;> rfl

theorem mem_tokens_iff {sep : Char} {text : String} {token : List Char} :
    token ∈ tokens sep text ↔ token ∈ text.toList.splitOn sep ∧ token ≠ [] := by
  simp [tokens]

theorem tokens_eq_splitOn {sep : Char} {text : String}
    (filled : ∀ token ∈ text.toList.splitOn sep, token ≠ []) :
    tokens sep text = text.toList.splitOn sep := by
  rw [tokens_eq_filter, List.filter_eq_self]
  exact fun token member => decide_eq_true (filled token member)

def readEntry (pairSep : Char) (token : List Char) : Except (List Char) (String × String) :=
  match Text.cutAt? pairSep token with
  | some halves => .ok (String.ofList halves.1, String.ofList halves.2)
  | none => .error token

theorem readEntry_eq_ok_iff {pairSep : Char} {token : List Char} {e : String × String} :
    readEntry pairSep token = .ok e ↔ token = writeEntry pairSep e ∧ pairSep ∉ e.1.toList := by
  rw [writeEntry, ← Text.cutAt?_eq_some_iff, readEntry]
  cases Text.cutAt? pairSep token with
  | none => simp
  | some halves =>
    obtain ⟨before, after⟩ := halves
    simp only [Except.ok.injEq, Option.some.injEq, Prod.ext_iff, String.ext_iff, String.toList_ofList]

theorem writeEntry_inj {pairSep : Char} {d e : String × String} (hd : pairSep ∉ d.1.toList)
    (he : pairSep ∉ e.1.toList) (same : writeEntry pairSep d = writeEntry pairSep e) : d = e := by
  have read : readEntry pairSep (writeEntry pairSep d) = .ok d := readEntry_eq_ok_iff.mpr ⟨rfl, hd⟩
  rw [same, readEntry_eq_ok_iff.mpr ⟨rfl, he⟩] at read
  exact (Except.ok.inj read).symm

theorem pairs_eq_mapM (pairSep : Char) (tokens : List (List Char)) :
    pairs pairSep tokens = tokens.mapM (readEntry pairSep) := rfl

theorem pairs_eq_ok_iff {pairSep : Char} {tokens : List (List Char)} {es : List (String × String)} :
    pairs pairSep tokens = .ok es ↔
      tokens = es.map (writeEntry pairSep) ∧ ∀ e ∈ es, pairSep ∉ e.1.toList := by
  rw [pairs_eq_mapM, mapM_eq_ok_iff]
  induction tokens generalizing es with
  | nil => cases es <;> simp
  | cons token tokens ih =>
    cases es with
    | nil => simp
    | cons e es =>
      simp only [List.map_cons, List.cons.injEq, readEntry_eq_ok_iff, ih, List.forall_mem_cons]
      exact and_and_and_comm

end Split

theorem parseWith_eq_ok_iff {f : Format} {text : String} {p : Point} :
    parseWith f text = .ok p ↔ f.check = .ok () ∧
      (text = Format.reservedName ∧ p = empty ∨
        text ≠ Format.reservedName ∧
          ∃ es, pairs f.pairSep (tokens f.entrySep text) = .ok es ∧ p = ofPairs es) := by
  rw [parseWith, parseReport]
  cases usable : f.check with
  | error e => simp [Report.quiet]
  | ok u =>
    by_cases reserved : text = Format.reservedName
    · simp [reserved, Report.quiet, eq_comm]
    · cases cut : pairs f.pairSep (tokens f.entrySep text) with
      | error token => simp [reserved]
      | ok es => simp [reserved, eq_comm]

/-- Nothing that is read has separators where they would be taken for others. -/
theorem clean_of_parseWith {f : Format} {text : String} {p : Point} (read : parseWith f text = .ok p) :
    p.Clean f := by
  obtain ⟨-, ⟨-, rfl⟩ | ⟨-, es, cut, rfl⟩⟩ := parseWith_eq_ok_iff.mp read
  · intro e member
    cases member
  · obtain ⟨written, names⟩ := pairs_eq_ok_iff.mp cut
    intro e member
    have taken : e ∈ es := Table.mem_of_mem_entries_ofList member
    have token : writeEntry f.pairSep e ∈ tokens f.entrySep text := written ▸ List.mem_map_of_mem taken
    have clear := not_mem_of_mem_splitOn (mem_tokens_iff.mp token).1
    simp only [writeEntry, List.mem_append, List.mem_cons, not_or] at clear
    exact ⟨clear.1, names e taken, clear.2.2⟩

section Written

variable {f : Format} {es : List (String × String)} {p : Point}

theorem pairSep_mem_writeEntries (some : es ≠ []) : f.pairSep ∈ (writeEntries f.entrySep f.pairSep es).toList := by
  obtain ⟨e, es, rfl⟩ := List.exists_cons_of_ne_nil some
  rw [toList_writeEntries]
  cases es with
  | nil => simp [writeEntry]
  | cons e' es => simp [writeEntry]

theorem writeEntries_ne_reservedName (usable : f.check = .ok ()) (some : es ≠ []) :
    writeEntries f.entrySep f.pairSep es ≠ Format.reservedName := by
  intro same
  have member : f.pairSep ∈ (writeEntries f.entrySep f.pairSep es).toList := pairSep_mem_writeEntries some
  rw [same] at member
  exact (Format.check_eq_ok_iff.mp usable).2.2 member

theorem splitOn_writeEntries (usable : f.check = .ok ())
    (clean : ∀ e ∈ es, f.entrySep ∉ e.1.toList ∧ f.pairSep ∉ e.1.toList ∧ f.entrySep ∉ e.2.toList)
    (some : es ≠ []) :
    (writeEntries f.entrySep f.pairSep es).toList.splitOn f.entrySep = es.map (writeEntry f.pairSep) := by
  rw [toList_writeEntries]
  refine List.splitOn_intercalate _ (fun piece member => ?_) (by simpa using some)
  obtain ⟨e, he, rfl⟩ := List.mem_map.mp member
  obtain ⟨name, -, value⟩ := clean e he
  have apart := (Format.check_eq_ok_iff.mp usable).1
  simp [writeEntry, name, value, apart]

theorem parseWith_writeEntries (usable : f.check = .ok ())
    (clean : ∀ e ∈ es, f.entrySep ∉ e.1.toList ∧ f.pairSep ∉ e.1.toList ∧ f.entrySep ∉ e.2.toList)
    (some : es ≠ []) : parseWith f (writeEntries f.entrySep f.pairSep es) = .ok (ofPairs es) := by
  have pieces := splitOn_writeEntries usable clean some
  have filled : ∀ token ∈ (writeEntries f.entrySep f.pairSep es).toList.splitOn f.entrySep, token ≠ [] := by
    intro token member
    rw [pieces] at member
    obtain ⟨e, -, rfl⟩ := List.mem_map.mp member
    exact writeEntry_ne_nil _ e
  refine parseWith_eq_ok_iff.mpr ⟨usable, .inr ⟨writeEntries_ne_reservedName usable some, es, ?_, rfl⟩⟩
  rw [tokens_eq_splitOn filled, pieces, pairs_eq_ok_iff]
  exact ⟨rfl, fun e he => (clean e he).2.1⟩

theorem render_eq_writeEntries (some : p.entries ≠ []) :
    p.render f = writeEntries f.entrySep f.pairSep p.entries := by
  rw [render, renderWith, if_neg (mt isEmpty_iff.mp some)]

theorem render_empty (none : p.entries = []) : p.render f = Format.reservedName := by
  rw [render, renderWith, if_pos (isEmpty_iff.mpr none)]

theorem toList_render (some : p.entries ≠ []) :
    (p.render f).toList = [f.entrySep].intercalate (p.entries.map (writeEntry f.pairSep)) := by
  rw [render_eq_writeEntries some, toList_writeEntries]

theorem pairSep_mem_render (some : p.entries ≠ []) : f.pairSep ∈ (p.render f).toList := by
  rw [render_eq_writeEntries some]
  exact pairSep_mem_writeEntries some

theorem render_ne_reservedName (usable : f.check = .ok ()) (some : p.entries ≠ []) :
    p.render f ≠ Format.reservedName := by
  rw [render_eq_writeEntries some]
  exact writeEntries_ne_reservedName usable some

theorem splitOn_render (usable : f.check = .ok ()) (clean : p.Clean f) (some : p.entries ≠ []) :
    (p.render f).toList.splitOn f.entrySep = p.entries.map (writeEntry f.pairSep) := by
  rw [render_eq_writeEntries some]
  exact splitOn_writeEntries usable clean some

theorem parseWith_render (usable : f.check = .ok ()) (clean : p.Clean f) :
    parseWith f (p.render f) = .ok p := by
  by_cases none : p.entries = []
  · exact parseWith_eq_ok_iff.mpr ⟨usable, .inl ⟨render_empty none, eq_empty_of_entries none⟩⟩
  · rw [render_eq_writeEntries none, parseWith_writeEntries usable clean none, ofPairs_entries]

end Written

/-- A point is read back from its text exactly when its names hold neither separator and its values
hold no entry separator. -/
theorem parseWith_render_iff (f : Format) (usable : f.check = .ok ()) (p : Point) :
    parseWith f (p.render f) = .ok p ↔
      ∀ e ∈ p.entries, f.entrySep ∉ e.1.toList ∧ f.pairSep ∉ e.1.toList ∧ f.entrySep ∉ e.2.toList :=
  ⟨clean_of_parseWith, parseWith_render usable⟩

theorem parseWith_render_plain :
    Format.canonical.check = .ok () ∧
      parseWith .canonical ((ofPairs [("k", "a=b"), ("", "default"), ("e", "")]).render .canonical)
        = .ok (ofPairs [("k", "a=b"), ("", "default"), ("e", "")]) :=
  ⟨rfl, (parseWith_render_iff .canonical rfl _).mpr (by decide)⟩

def tokenName (pairSep : Char) (token : List Char) : String := String.ofList (token.takeWhile (· ≠ pairSep))

theorem forall_ne_of_not_mem {sep : Char} {cs : List Char} (clear : sep ∉ cs) :
    ∀ c ∈ cs, decide (c ≠ sep) = true := by
  intro c hc
  exact decide_eq_true fun same => clear (same ▸ hc)

theorem tokenName_writeEntry {pairSep : Char} {e : String × String} (clear : pairSep ∉ e.1.toList) :
    tokenName pairSep (writeEntry pairSep e) = e.1 := by
  rw [tokenName, writeEntry, List.takeWhile_append_of_pos (forall_ne_of_not_mem clear),
    List.takeWhile_cons_of_neg (by simp), List.append_nil, String.ofList_toList]

theorem map_tokenName_writeEntry {pairSep : Char} {es : List (String × String)}
    (clear : ∀ e ∈ es, pairSep ∉ e.1.toList) :
    (es.map (writeEntry pairSep)).map (tokenName pairSep) = es.map (·.1) := by
  rw [List.map_map]
  exact List.map_congr_left fun e he => tokenName_writeEntry (clear e he)

/-- The form of written texts: between entry separators there are only tokens with a name and a value,
ascending by the bytes of the names. -/
def Written (f : Format) (text : String) : Prop :=
  (∀ token ∈ text.toList.splitOn f.entrySep, token ≠ [] ∧ f.pairSep ∈ token) ∧
    ((text.toList.splitOn f.entrySep).map (tokenName f.pairSep)).Pairwise fun k l => Text.utf8 k < Text.utf8 l

theorem written_render {f : Format} {p : Point} (usable : f.check = .ok ()) (clean : p.Clean f)
    (some : p.entries ≠ []) : Written f (p.render f) := by
  have pieces := splitOn_render usable clean some
  constructor
  · intro token member
    rw [pieces] at member
    obtain ⟨e, -, rfl⟩ := List.mem_map.mp member
    exact ⟨writeEntry_ne_nil _ e, by simp [writeEntry]⟩
  · rw [pieces, map_tokenName_writeEntry fun e he => (clean e he).2.1, List.pairwise_map]
    exact p.ascending_entries

theorem render_ofPairs_of_written {f : Format} {text : String} {es : List (String × String)}
    (written : Written f text) (cut : pairs f.pairSep (tokens f.entrySep text) = .ok es) :
    (ofPairs es).render f = text := by
  obtain ⟨tokens_eq, names⟩ := pairs_eq_ok_iff.mp cut
  rw [tokens_eq_splitOn fun token member => (written.1 token member).1] at tokens_eq
  have ascending : Ascending es := by
    have order := written.2
    rw [tokens_eq, map_tokenName_writeEntry names, List.pairwise_map] at order
    exact order
  have entries_eq : (ofPairs es).entries = es := Table.entries_ofList (ascending_iff.mp ascending)
  have some : (ofPairs es).entries ≠ [] := by
    rw [entries_eq]
    rintro rfl
    exact List.splitOn_ne_nil _ _ tokens_eq
  rw [← String.toList_inj, toList_render some, entries_eq, ← tokens_eq, List.intercalate_splitOn]

/-- Reading and writing once more changes nothing, and the first writing gives back the text itself
exactly when the text was in the written form. -/
theorem render_parseWith_iff (f : Format) (text : String) (p : Point) (read : parseWith f text = .ok p) :
    parseWith f (p.render f) = .ok p ∧
      (p.render f = text ↔ text = Format.reservedName ∨
        (∀ token ∈ text.toList.splitOn f.entrySep, token ≠ [] ∧ f.pairSep ∈ token) ∧
          ((text.toList.splitOn f.entrySep).map (tokenName f.pairSep)).Pairwise
            fun k l => Text.utf8 k < Text.utf8 l) := by
  have clean := clean_of_parseWith read
  obtain ⟨usable, source⟩ := parseWith_eq_ok_iff.mp read
  refine ⟨parseWith_render usable clean, ?_, ?_⟩
  · rintro rfl
    by_cases none : p.entries = []
    · exact .inl (render_empty none)
    · exact .inr (written_render usable clean none)
  · intro form
    rcases source with ⟨rfl, rfl⟩ | ⟨unreserved, es, cut, rfl⟩
    · exact render_empty rfl
    · exact render_ofPairs_of_written (form.resolve_left unreserved) cut

theorem render_parseWith_disordered :
    parseWith .canonical "b=2,,a=1,b=3" = .ok (ofPairs [("a", "1"), ("b", "3")]) ∧
      parseWith .canonical ((ofPairs [("a", "1"), ("b", "3")]).render .canonical)
        = .ok (ofPairs [("a", "1"), ("b", "3")]) ∧
      (ofPairs [("a", "1"), ("b", "3")]).render .canonical ≠ "b=2,,a=1,b=3" :=
  have read : parseWith .canonical "b=2,,a=1,b=3" = .ok (ofPairs [("a", "1"), ("b", "3")]) := rfl
  have normal := render_parseWith_iff .canonical _ _ read
  ⟨read, normal.1, mt normal.2.mp (by decide)⟩

end AxisGrid.Point
