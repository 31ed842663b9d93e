import AxisGrid.Proofs.Identifier

/-! What is read from every text. A format that cannot be used is refused before the text is looked at, the
reserved name is looked for before the text is cut, and a token without a pair separator refuses the whole
text. Otherwise each token that is not empty binds its name, and of the tokens with one name the last one
stays. -/
namespace AxisGrid.Point

def tokenValue (pairSep : Char) (token : List Char) : String :=
  String.ofList (token.dropWhile (· ≠ pairSep)).tail

def lastToken? (f : Format) (text name : String) : Option (List Char) :=
  ((text.toList.splitOn f.entrySep).filter fun token =>
    token ≠ [] ∧ tokenName f.pairSep token = name).getLast?

section Tokens

variable {sep : Char} {tokens : List (List Char)} {es : List (String × String)}

theorem tokenValue_writeEntry {e : String × String} (clear : sep ∉ e.1.toList) :
    tokenValue sep (writeEntry sep e) = e.2 := by
  rw [tokenValue, writeEntry, List.dropWhile_append_of_pos (forall_ne_of_not_mem clear),
    List.dropWhile_cons_of_neg (by simp), List.tail_cons, String.ofList_toList]

theorem readEntry_eq_error_iff {token found : List Char} :
    readEntry sep token = .error found ↔ sep ∉ token ∧ token = found := by
  rw [← Text.cutAt?_eq_none_iff, readEntry]
  cases Text.cutAt? sep token <;> simp

theorem exists_readEntry_iff {token : List Char} : (∃ e, readEntry sep token = .ok e) ↔ sep ∈ token := by
  cases read : readEntry sep token with
  | error found => simpa using (readEntry_eq_error_iff.mp read).1
  | ok e =>
    have written := (readEntry_eq_ok_iff.mp read).1
    simp [written, writeEntry]

theorem pairs_eq_error_iff {token : List Char} :
    pairs sep tokens = .error token ↔
      ∃ before after, tokens = before ++ token :: after ∧ (∀ t ∈ before, sep ∈ t) ∧ sep ∉ token := by
  simp only [pairs_eq_mapM, mapM_eq_error_iff, exists_readEntry_iff, readEntry_eq_error_iff]
  constructor
  · rintro ⟨before, _, after, split, front, missing, rfl⟩
    exact ⟨before, after, split, front, missing⟩
  · rintro ⟨before, after, split, front, missing⟩
    exact ⟨before, token, after, split, front, missing, rfl⟩

theorem exists_pairs_iff : (∃ es, pairs sep tokens = .ok es) ↔ ∀ token ∈ tokens, sep ∈ token := by
  cases cut : pairs sep tokens with
  | error token =>
    obtain ⟨before, after, rfl, -, missing⟩ := pairs_eq_error_iff.mp cut
    simp only [reduceCtorEq, exists_false, false_iff]
    exact fun all => missing (all token List.mem_append_cons_self)
  | ok es =>
    obtain ⟨rfl, -⟩ := pairs_eq_ok_iff.mp cut
    simp only [Except.ok.injEq, exists_eq', true_iff]
    exact List.forall_mem_map.mpr fun e _ => by simp [writeEntry]

theorem filter_tokens (cut : pairs sep tokens = .ok es) (name : String) :
    (tokens.filter fun token => tokenName sep token = name)
      = (es.filter fun e => e.1 = name).map (writeEntry sep) := by
  obtain ⟨rfl, names⟩ := pairs_eq_ok_iff.mp cut
  rw [List.filter_map]
  congr 1
  refine List.filter_congr fun e member => ?_
  rw [Function.comp_apply, tokenName_writeEntry (names e member)]

end Tokens

section Read

variable {f : Format} {text : String} {es : List (String × String)}

theorem parseWith_of_check {cause : FormatError} (refused : f.check = .error cause) :
    parseWith f text = .error (.invalidFormat cause) := by
  rw [parseWith, parseReport, refused]
  rfl

theorem parseWith_reserved (usable : f.check = .ok ()) : parseWith f Format.reservedName = .ok empty :=
  parseWith_eq_ok_iff.mpr ⟨usable, .inl ⟨rfl, rfl⟩⟩

theorem parseWith_of_pairs (usable : f.check = .ok ()) (unreserved : text ≠ Format.reservedName)
    (cut : pairs f.pairSep (tokens f.entrySep text) = .ok es) : parseWith f text = .ok (ofPairs es) :=
  parseWith_eq_ok_iff.mpr ⟨usable, .inr ⟨unreserved, es, cut, rfl⟩⟩

theorem parseWith_of_unpaired {token : List Char} (usable : f.check = .ok ())
    (unreserved : text ≠ Format.reservedName)
    (cut : pairs f.pairSep (tokens f.entrySep text) = .error token) :
    parseWith f text = .error (.unreadable text) := by
  rw [parseWith, parseReport, usable]
  simp only [if_neg unreserved, cut]

theorem parseWith_ne_invalidFormat (usable : f.check = .ok ()) (cause : FormatError) :
    parseWith f text ≠ .error (.invalidFormat cause) := by
  intro failed
  by_cases reserved : text = Format.reservedName
  · rw [reserved, parseWith_reserved usable] at failed
    cases failed
  · cases cut : pairs f.pairSep (tokens f.entrySep text) with
    | error token =>
      rw [parseWith_of_unpaired usable reserved cut] at failed
      cases failed
    | ok es =>
      rw [parseWith_of_pairs usable reserved cut] at failed
      cases failed

theorem parseWith_eq_unreadable_iff (usable : f.check = .ok ()) (unreserved : text ≠ Format.reservedName) :
    parseWith f text = .error (.unreadable text) ↔ ∃ token ∈ tokens f.entrySep text, f.pairSep ∉ token := by
  cases cut : pairs f.pairSep (tokens f.entrySep text) with
  | error token =>
    obtain ⟨before, after, split, -, missing⟩ := pairs_eq_error_iff.mp cut
    have member : token ∈ tokens f.entrySep text := split ▸ List.mem_append_cons_self
    exact iff_of_true (parseWith_of_unpaired usable unreserved cut) ⟨token, member, missing⟩
  | ok es =>
    have paired := exists_pairs_iff.mp ⟨es, cut⟩
    rw [parseWith_of_pairs usable unreserved cut]
    refine iff_of_false nofun ?_
    rintro ⟨token, member, missing⟩
    exact missing (paired token member)

theorem mem_names_iff (cut : pairs f.pairSep (tokens f.entrySep text) = .ok es) (name : String) :
    name ∈ (ofPairs es).names ↔ ∃ token ∈ tokens f.entrySep text, tokenName f.pairSep token = name := by
  obtain ⟨written, clear⟩ := pairs_eq_ok_iff.mp cut
  rw [mem_names_ofPairs, ← map_tokenName_writeEntry clear, ← written, List.mem_map]

theorem get?_eq_lastToken? (cut : pairs f.pairSep (tokens f.entrySep text) = .ok es) (name : String) :
    (ofPairs es).get? name = (lastToken? f text name).map (tokenValue f.pairSep) := by
  have bound : (ofPairs es).get? name = Table.last? name es := Table.get?_ofList es name
  have named : lastToken? f text name
      = ((tokens f.entrySep text).filter fun token => tokenName f.pairSep token = name).getLast? := by
    rw [lastToken?, tokens_eq_filter, List.filter_filter]
    simp only [Bool.decide_and, Bool.and_comm]
  -- tokens and entries stand in one row each, so the last token of a name was written of its last entry
  rw [bound, named, Table.last?_eq_getLast?, filter_tokens cut, List.getLast?_map, Option.map_map]
  refine Option.map_congr fun e last => ?_
  have member : e ∈ es := List.mem_of_mem_filter (List.mem_of_getLast? last)
  exact (tokenValue_writeEntry ((pairs_eq_ok_iff.mp cut).2 e member)).symm

end Read

/-- A format that does not pass its check is all that is told of a text. In any other the reserved name is
the empty point, and another text is refused as a whole exactly if a token that is not empty has no pair
separator. If there is none the point has the names of these tokens, each with the value of the last token
of that name. -/
theorem parseWith_decided (f : Format) (text : String) :
    (∀ cause, parseWith f text = .error (.invalidFormat cause) ↔ f.check = .error cause) ∧
    (f.check = .ok () →
      (text = "default" → parseWith f text = .ok empty) ∧
      (text ≠ "default" →
        (parseWith f text = .error (.unreadable text) ↔
          ∃ token ∈ text.toList.splitOn f.entrySep, token ≠ [] ∧ f.pairSep ∉ token) ∧
        ((∀ token ∈ text.toList.splitOn f.entrySep, token ≠ [] → f.pairSep ∈ token) →
          ∃ p, parseWith f text = .ok p ∧
            (∀ name, name ∈ p.names ↔ ∃ token ∈ text.toList.splitOn f.entrySep,
              token ≠ [] ∧ tokenName f.pairSep token = name) ∧
            ∀ name, p.get? name = (lastToken? f text name).map (tokenValue f.pairSep)))) := by
  constructor
  · intro cause
    cases checked : f.check with
    | error found => simp [parseWith_of_check checked]
    | ok u => simp [parseWith_ne_invalidFormat checked cause]
  · intro usable
    constructor
    · rintro rfl
      exact parseWith_reserved usable
    · intro unreserved
      constructor
      · rw [parseWith_eq_unreadable_iff usable unreserved]
        simp only [mem_tokens_iff, and_assoc]
      · intro paired
        obtain ⟨es, cut⟩ := exists_pairs_iff.mpr fun token member =>
          paired token (mem_tokens_iff.mp member).1 (mem_tokens_iff.mp member).2
        refine ⟨_, parseWith_of_pairs usable unreserved cut, fun name => ?_, get?_eq_lastToken? cut⟩
        rw [mem_names_iff cut]
        simp only [mem_tokens_iff, and_assoc]

/-- The reserved name among other tokens, a token that begins with the pair separator, one that ends with it
and a name that is repeated are read; a token without the separator behind them refuses them all. -/
theorem parseWith_decided_mixed :
    (∃ p, parseWith .canonical "k=1,default=,,=2,k=3=4" = .ok p ∧ p.get? "k" = some "3=4" ∧
        p.get? "" = some "2" ∧ p.get? "default" = some "" ∧ p.get? "x" = none) ∧
      parseWith .canonical "k=1,default=,,=2,default" = .error (.unreadable "k=1,default=,,=2,default") ∧
      ∀ text, parseWith ⟨'/', '/', .sha256⟩ text = .error (.invalidFormat (.equalSeparators '/')) := by
  have usable : Format.canonical.check = .ok () := rfl
  refine ⟨?_, ?_, fun text => ?_⟩
  · obtain ⟨-, answers⟩ := parseWith_decided .canonical "k=1,default=,,=2,k=3=4"
    obtain ⟨p, read, -, values⟩ := ((answers usable).2 (by decide)).2 (by decide)
    exact ⟨p, read, values "k", values "", values "default", values "x"⟩
  · obtain ⟨-, answers⟩ := parseWith_decided .canonical "k=1,default=,,=2,default"
    refine ((answers usable).2 (by decide)).1.mpr ?_
    decide
  · exact ((parseWith_decided ⟨'/', '/', .sha256⟩ text).1 _).mpr rfl

end AxisGrid.Point
