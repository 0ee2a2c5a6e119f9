import Phrasebook.Proofs.Dictionary.Reading
import Phrasebook.Proofs.Ledger.Upsert

/-!
Files that begin with a byte order mark. A dictionary text is read as if the mark were not there. A
ledger file is not: the mark is no white space, so it stays in front of the first line and becomes
the first character of an input. The ledger is the same only where nothing is read from the first
line, or where the lines below it have entries for the same inputs.
-/

namespace Phrasebook

open Text

namespace Text

theorem trim_cons_of_visible {c : Char} (t : Text) (h : isBlank c = false) :
    trim (c :: t) = c :: trimEnd t := by
  rw [trim, trimStart, List.dropWhile_cons_of_neg (by simp [h]), trimEnd, trimEnd,
    List.reverse_cons, List.dropWhile_append]
  split
  · rename_i hnil
    rw [List.isEmpty_iff.mp hnil, List.dropWhile_cons_of_neg (by simp [h])]
    rfl
  · rw [List.reverse_append]
    rfl

/-- What is left at the end of a text that shows is the white space at its start and what is left
at both ends. -/
theorem trimEnd_eq_append {t : Text} (h : trimStart t ≠ []) :
    trimEnd t = t.takeWhile isBlank ++ trim t := by
  obtain ⟨c, rest, hstart, hc⟩ := startsVisibly_dropWhile h
  have hshown : ¬ ((t.dropWhile isBlank).reverse.dropWhile isBlank).isEmpty = true := by
    rw [List.isEmpty_iff, List.dropWhile_eq_nil_iff]
    intro hblank
    have hcblank := hblank c (by simp [hstart])
    rw [hc] at hcblank
    cases hcblank
  have hreverse : t.reverse =
      (t.dropWhile isBlank).reverse ++ (t.takeWhile isBlank).reverse := by
    rw [← List.reverse_append, List.takeWhile_append_dropWhile]
  rw [trimEnd, hreverse, List.dropWhile_append, if_neg hshown, List.reverse_append,
    List.reverse_reverse]
  rfl

end Text

namespace Line

theorem unescape_append_of_forall {s : Text} (rest : Text) (h : ∀ c ∈ s, c ≠ '\\') :
    unescape (s ++ rest) = s ++ unescape rest := by
  induction s with
  | nil => rfl
  | cons c s ih =>
    rw [List.cons_append, unescape_cons _ (h c List.mem_cons_self),
      ih fun x hx => h x (List.mem_cons_of_mem c hx), List.cons_append]

/-- A line behind a mark is no comment, and the mark goes into its key with all the white space
that stands behind it. -/
theorem decode?_trim_mark (raw : Text) : decode? (trim (byteOrderMark :: raw)) =
    (cut? (trim raw)).map fun (key, value) =>
      (byteOrderMark :: (raw.takeWhile isBlank ++ unescape key), unescape value) := by
  have hplain : ∀ c ∈ byteOrderMark :: raw.takeWhile isBlank, c ≠ '\\' ∧ c ≠ separator := by
    have hblank : ∀ c, isBlank c = true → c ≠ '\\' ∧ c ≠ separator := by
      intro c hc
      refine ⟨?_, ?_⟩
      all_goals
        intro heq
        rw [heq] at hc
        exact absurd hc (by decide)
    intro c hc
    rcases List.mem_cons.mp hc with rfl | hc
    · decide
    · exact hblank c (List.mem_takeWhile_imp hc)
  have hcomment : ∀ s, isComment (byteOrderMark :: s) = false := fun _ => rfl
  rw [trim_cons_of_visible raw (by decide), decode?, hcomment, if_neg Bool.false_ne_true]
  by_cases hshown : trimStart raw = []
  · have hnil : trim raw = [] := by rw [trim, hshown]; rfl
    have hend : trimEnd raw = [] := by
      have hblank := trimStart_eq_nil_iff.mp hshown
      rw [trimEnd, List.dropWhile_eq_nil_iff.mpr fun c hc => hblank c (List.mem_reverse.mp hc)]
      rfl
    rw [hnil, hend, cut?_cons _ (by decide) (by decide)]
    rfl
  · rw [trimEnd_eq_append hshown, ← List.cons_append, cut?_append_of_forall _ hplain,
      Option.map_map]
    refine congrArg (Option.map · _) (funext fun pair => ?_)
    obtain ⟨key, value⟩ := pair
    simp only [Function.comp_apply]
    rw [unescape_append_of_forall key fun c hc => (hplain c hc).1, List.cons_append]

end Line

namespace Dictionary

open DictionaryReader

/-- Lines that are the same without marks and white space are read in the same way. -/
theorem linesFrom_eq_of_clean_eq {raws raws' : List Text} (h : raws.map clean = raws'.map clean)
    (r : DictionaryReader) (n : Nat) : r.linesFrom n raws = r.linesFrom n raws' := by
  induction raws generalizing raws' r n with
  | nil =>
    obtain rfl := List.map_eq_nil_iff.mp h.symm
    rfl
  | cons raw raws ih =>
    obtain ⟨raw', rest', rfl, hraw, hrest⟩ := List.map_eq_cons_iff.mp h.symm
    simp only [linesFrom, hraw]
    cases r.line (clean raw) with
    | error fault => rfl
    | ok r' => exact ih hrest.symm r' (n + 1)

/-- A byte order mark in front of a dictionary text is passed over. -/
theorem read_mark (content : Text) :
    Dictionary.read (byteOrderMark :: content) = Dictionary.read content := by
  have hmark : ∀ raw, clean (byteOrderMark :: raw) = clean raw := fun raw => by
    rw [clean, clean, List.dropWhile_cons_of_pos (by simp)]
  have hlines := lines_cons (c := byteOrderMark) content (by decide) (by decide)
  unfold Dictionary.read
  rw [hlines]
  cases lines content with
  | nil => rfl
  | cons first rest =>
    refine congrArg _ (linesFrom_eq_of_clean_eq ?_ {} 1)
    rw [List.headD_cons, List.tail_cons, List.map_cons, List.map_cons, hmark]

end Dictionary

namespace Entry

/-- What is read from a line is read behind a mark too, but for another input. -/
theorem ofLine?_mark {raw : Text} {e : Entry} (h : ofLine? raw = some e) :
    ofLine? (byteOrderMark :: raw) =
      some ⟨byteOrderMark :: (raw.takeWhile isBlank ++ e.input), e.draft, e.tokens⟩ := by
  obtain ⟨value, hdecode, -, hvalue, hparts⟩ := ofLine?_eq_some_iff.mp h
  refine ofLine?_eq_some_iff.mpr ⟨value, ?_, List.cons_ne_nil _ _, hvalue, hparts⟩
  rw [Line.decode?_trim_mark]
  unfold Line.decode? at hdecode
  split at hdecode
  · cases hdecode
  · obtain ⟨⟨key, value'⟩, hcut, hpair⟩ := Option.map_eq_some_iff.mp hdecode
    obtain ⟨hinput, hvalue⟩ := Prod.mk.inj hpair
    rw [hcut, Option.map_some]
    simp only [hinput, hvalue]

theorem input_ne_of_ofLine?_mark {raw : Text} {e e' : Entry} (h : ofLine? raw = some e)
    (hmarked : ofLine? (byteOrderMark :: raw) = some e') : e.input ≠ e'.input := by
  rw [ofLine?_mark h] at hmarked
  cases hmarked
  intro heq
  have hlength := congrArg List.length heq
  simp only [List.length_cons, List.length_append] at hlength
  omega

end Entry

namespace Ledger

open FileSystem

/-- What some entries are put into counts only for the inputs that they lack. -/
theorem get?_foldl_insert_congr {es : List Entry} {l l' : Ledger} {input : Text}
    (h : (∃ e ∈ es, e.input = input) ∨ l.get? input = l'.get? input) :
    (es.foldl insert l).get? input = (es.foldl insert l').get? input := by
  induction es generalizing l l' with
  | nil =>
    rcases h with ⟨e, he, -⟩ | hsame
    · cases he
    · exact hsame
  | cons a es ih =>
    refine ih ?_
    rw [get?_insert, get?_insert]
    by_cases ha : a.input = input
    · exact Or.inr (by rw [if_pos ha, if_pos ha])
    · rw [if_neg ha, if_neg ha]
      rcases h with ⟨e, he, hinput⟩ | hsame
      · rcases List.mem_cons.mp he with rfl | he
        · exact absurd hinput ha
        · exact Or.inl ⟨e, he, hinput⟩
      · exact Or.inr hsame

/-- The entry of a line is not seen where another one for its input follows. -/
theorem foldl_insert_insertLine {es : List Entry} {l : Ledger} {raw : Text}
    (h : ∀ e, Entry.ofLine? raw = some e → ∃ e' ∈ es, e'.input = e.input) :
    es.foldl insert (l.insertLine raw) = es.foldl insert l := by
  refine ext_get? fun input => get?_foldl_insert_congr ?_
  by_cases hcomes : ∃ e ∈ es, e.input = input
  · exact Or.inl hcomes
  · refine Or.inr (get?_insertLine_of_ne fun e hread heq => hcomes ?_)
    obtain ⟨e', he', hinput⟩ := h e hread
    exact ⟨e', he', hinput.trans heq⟩

theorem contains_foldl_insertLine {es : List Entry} {raw input : Text} :
    (es.foldl insert (empty.insertLine raw)).contains input = true ↔
      (∃ e ∈ es, e.input = input) ∨ ∃ e, Entry.ofLine? raw = some e ∧ e.input = input := by
  rw [contains_foldl_insert, insertLine]
  cases hread : Entry.ofLine? raw with
  | none =>
    have hempty : empty.contains input = false := rfl
    simp [hempty]
  | some e =>
    have hempty : empty.contains input = false := rfl
    simp [contains_insert, hempty]

/-- If two first lines with different inputs make no difference, the lines below have entries for
what is read from them. -/
theorem exists_below {es : List Entry} {raw raw' : Text} {e : Entry}
    (hsame : es.foldl insert (empty.insertLine raw) = es.foldl insert (empty.insertLine raw'))
    (hread : Entry.ofLine? raw = some e)
    (hne : ∀ e', Entry.ofLine? raw' = some e' → e'.input ≠ e.input) :
    ∃ e' ∈ es, e'.input = e.input := by
  have hcontains := (@contains_foldl_insertLine es raw e.input).mpr (Or.inr ⟨e, hread, rfl⟩)
  rw [hsame, contains_foldl_insertLine] at hcontains
  rcases hcontains with hbelow | ⟨e', hread', hinput⟩
  · exact hbelow
  · exact absurd hinput (hne e' hread')

/-- The first line of a text comes first, and those below it may hide what it says. -/
theorem ofText_eq_foldl (t : Text) : ofText t =
    ((lines t).tail.filterMap Entry.ofLine?).foldl insert
      (empty.insertLine ((lines t).headD [])) := by
  rw [ofText]
  cases lines t with
  | nil => rfl
  | cons first rest =>
    rw [List.headD_cons, List.tail_cons, ← foldl_insert_line, ← List.foldl_append,
      ← List.filterMap_append]
    rfl

/-- With a mark in front, a text is read as the same ledger exactly if whatever its first line is
read as, with the mark or without it, is read again for the same input from a line below. -/
theorem ofText_mark_eq_iff (content : Text) :
    ofText (byteOrderMark :: content) = ofText content ↔
      ∀ e, Entry.ofLine? (byteOrderMark :: (lines content).headD []) = some e ∨
          Entry.ofLine? ((lines content).headD []) = some e →
        ∃ e' ∈ (lines content).tail.filterMap Entry.ofLine?, e'.input = e.input := by
  have hlines := lines_cons (c := byteOrderMark) content (by decide) (by decide)
  rw [ofText_eq_foldl, ofText_eq_foldl content, hlines, List.headD_cons, List.tail_cons]
  constructor
  · intro hsame e hread
    rcases hread with hmarked | hplain
    · exact exists_below hsame hmarked fun e' hplain =>
        Entry.input_ne_of_ofLine?_mark hplain hmarked
    · exact exists_below hsame.symm hplain fun e' hmarked =>
        (Entry.input_ne_of_ofLine?_mark hplain hmarked).symm
  · intro hlater
    rw [foldl_insert_insertLine fun e hread => hlater e (Or.inl hread),
      foldl_insert_insertLine fun e hread => hlater e (Or.inr hread)]

/-- A mark in front of a dictionary text makes no difference. In front of a ledger file it makes
none exactly if nothing is read from the first line, be it with the mark or without it, for which
the lines below have no entry. -/
theorem mark_ignored_iff {content path : Text} {fs fs' : FileSystem}
    (hmarked : fs.contents path = .ok (Utf8.encode (byteOrderMark :: content)))
    (hplain : fs'.contents path = .ok (Utf8.encode content)) :
    Dictionary.read (byteOrderMark :: content) = Dictionary.read content ∧
    ((load path fs).1 = (load path fs').1 ↔
      ∀ e, Entry.ofLine? (byteOrderMark :: (lines content).headD []) = some e ∨
          Entry.ofLine? ((lines content).headD []) = some e →
        ∃ e' ∈ (lines content).tail.filterMap Entry.ofLine?, e'.input = e.input) := by
  refine ⟨Dictionary.read_mark content, ?_⟩
  rw [← ofText_mark_eq_iff, load_of_contents hmarked, load_of_contents hplain, ofBytes, ofBytes,
    Utf8.decodeLossy_encode, Utf8.decodeLossy_encode]
  exact ⟨Except.ok.inj, congrArg _⟩

def retold : Text := "a=b\na=a(a)\n\uFEFFa=c".toList

theorem mark_ignored_retold :
    Dictionary.read (byteOrderMark :: retold) = Dictionary.read retold ∧
    (load ['l'] (soleFile (Utf8.encode (byteOrderMark :: retold)))).1 =
      (load ['l'] (soleFile (Utf8.encode retold))).1 := by
  obtain ⟨hread, hload⟩ := @mark_ignored_iff retold ['l'] _ _ (contents_soleFile _)
    (contents_soleFile _)
  refine ⟨hread, hload.mpr fun e hfirst => ?_⟩
  have hmarked : Entry.ofLine? (byteOrderMark :: (lines retold).headD []) =
      some ⟨"\uFEFFa".toList, ['b'], []⟩ := by decide +kernel
  have hplain : Entry.ofLine? ((lines retold).headD []) = some ⟨['a'], ['b'], []⟩ := by
    decide +kernel
  have hlater : (lines retold).tail.filterMap Entry.ofLine? =
      [letter 'a', ⟨"\uFEFFa".toList, ['c'], []⟩] := by decide +kernel
  rw [hlater]
  rcases hfirst with hfirst | hfirst
  · rw [hmarked] at hfirst
    cases hfirst
    exact ⟨_, List.mem_cons_of_mem _ List.mem_cons_self, rfl⟩
  · rw [hplain] at hfirst
    cases hfirst
    exact ⟨_, List.mem_cons_self, rfl⟩

/-- A mark in front of the line of `a` gets into the input: a ledger file with a mark is not read as
one without it. -/
theorem mark_not_ignored_in_line_of_letter :
    (load ['l'] (soleFile (Utf8.encode "a=a(a)".toList))).1 = .ok (empty.insert (letter 'a')) ∧
    (load ['l'] (soleFile (Utf8.encode "\uFEFFa=a(a)".toList))).1 =
      .ok (empty.insert ⟨"\uFEFFa".toList, ['a'], [['a']]⟩) ∧
    ¬ ∀ (content path : Text) (fs fs' : FileSystem),
      fs.contents path = .ok (Utf8.encode (byteOrderMark :: content)) →
      fs'.contents path = .ok (Utf8.encode content) → (load path fs).1 = (load path fs').1 := by
  have hplain : (load ['l'] (soleFile (Utf8.encode "a=a(a)".toList))).1 =
      .ok (empty.insert (letter 'a')) := by decide +kernel
  have hmarked : (load ['l'] (soleFile (Utf8.encode "\uFEFFa=a(a)".toList))).1 =
      .ok (empty.insert ⟨"\uFEFFa".toList, ['a'], [['a']]⟩) := by decide +kernel
  refine ⟨hplain, hmarked, fun h => ?_⟩
  have hsame := h "a=a(a)".toList ['l'] _ _ (contents_soleFile _) (contents_soleFile _)
  have hinserted := hmarked.symm.trans (hsame.trans hplain)
  exact absurd (Except.ok.inj hinserted) (by decide)

end Ledger

end Phrasebook
