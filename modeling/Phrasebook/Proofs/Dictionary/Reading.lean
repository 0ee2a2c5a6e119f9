import Phrasebook.Proofs.Dictionary.Basic
import Phrasebook.Proofs.Dictionary.Placement

/-!
What a dictionary text is read as. The tables have the entries of their sections in the order of
the text, and the reading ends at the first line that offends: a word whose key stands before it,
or a pattern that is none. What carries the reading is that after each line the tables are those
of the lines so far.
-/

namespace Phrasebook

open Text DictionaryReader Section

namespace DictionaryReader

/-- What is wrong with a line that follows some others. -/
inductive Offends (before : List Text) (line : Text) : LineFault → Prop
  /-- It is a word with the key of an earlier one. -/
  | key {key value : Text} (hentry : isEntry line = true) (hplace : behind before = .word)
      (hpair : pair? line = some (key, value))
      (htaken : key ∈ (pairsIn .word before).map Prod.fst) :
      Offends before line (.duplicateKey key)
  /-- It is a rule with a pattern that is not accepted. -/
  | rule {source template : Text} {fault : Pattern.Fault} (hentry : isEntry line = true)
      (hplace : behind before = .rule) (hpair : pair? line = some (source, template))
      (hfault : Rule.compile source template = .error fault) :
      Offends before line (.invalidPattern source fault)
  /-- It is an exemption with a pattern that is not accepted. -/
  | exemption {fault : Pattern.Fault} (hentry : isEntry line = true)
      (hplace : behind before = .exemption) (hfault : Exemption.compile line = .error fault) :
      Offends before line (.invalidPattern line fault)

/-- The words have different keys, and all patterns are accepted. -/
structure Acceptable (ls : List Text) : Prop where
  keys : ((pairsIn .word ls).map Prod.fst).Nodup
  rules : ∀ p ∈ pairsIn .rule ls, ∃ r, Rule.compile p.1 p.2 = .ok r
  exemptions : ∀ source ∈ entriesIn .exemption ls, ∃ e, Exemption.compile source = .ok e

/-- The tables of a dictionary have the entries of some lines, each table those of its section. -/
structure Tabulates (ls : List Text) (d : Dictionary) : Prop where
  words : d.words.entries = (pairsIn .word ls).map fun p => ⟨p.1, p.2⟩
  rules : d.rules.map Except.ok = (pairsIn .rule ls).map fun p => Rule.compile p.1 p.2
  ignores : d.ignores = entriesIn .ignore ls
  exemptions : d.exemptions.map Except.ok = (entriesIn .exemption ls).map Exemption.compile
  known : d.known = (entriesIn .known ls).foldl (fun known token => known.insert token) []

theorem pair?_eq_some_iff {line key value : Text} : pair? line = some (key, value) ↔
    Line.decode? line = some (key, value) ∧ key ≠ [] ∧ value ≠ [] := by
  simp [pair?, Option.filter_eq_some_iff]

section Lines

variable {ls : List Text} {line : Text} {d d' : Dictionary}

theorem Tabulates.acceptable (h : Tabulates ls d) : Acceptable ls where
  keys := by
    have hdistinct := d.words.distinct
    rwa [h.words, List.map_map] at hdistinct
  rules := by
    intro p hp
    have hmem : Rule.compile p.1 p.2 ∈ d.rules.map Except.ok :=
      h.rules ▸ List.mem_map_of_mem hp
    obtain ⟨r, -, hr⟩ := List.mem_map.mp hmem
    exact ⟨r, hr.symm⟩
  exemptions := by
    intro source hsource
    have hmem : Exemption.compile source ∈ d.exemptions.map Except.ok :=
      h.exemptions ▸ List.mem_map_of_mem hsource
    obtain ⟨e, -, he⟩ := List.mem_map.mp hmem
    exact ⟨e, he.symm⟩

/-- The lines decide what the dictionary is. -/
theorem Tabulates.unique (h : Tabulates ls d) (h' : Tabulates ls d') : d = d' := by
  have hok : ∀ {α : Type}, Function.Injective (Except.ok : α → Except Pattern.Fault α) := by
    intro α a b hab
    exact Except.ok.inj hab
  obtain ⟨⟨entries, hdistinct⟩, rules, ignores, exemptions, known⟩ := d
  obtain ⟨⟨entries', hdistinct'⟩, rules', ignores', exemptions', known'⟩ := d'
  have hwords := h.words.trans h'.words.symm
  have hrules := List.map_injective_iff.mpr hok (h.rules.trans h'.rules.symm)
  have hexemptions := List.map_injective_iff.mpr hok (h.exemptions.trans h'.exemptions.symm)
  have hignores := h.ignores.trans h'.ignores.symm
  have hknown := h.known.trans h'.known.symm
  dsimp only at hwords hrules hexemptions hignores hknown
  subst hwords hrules hexemptions hignores hknown
  rfl

theorem Acceptable.of_append {more : List Text} (h : Acceptable (ls ++ more)) :
    Acceptable ls where
  keys := h.keys.sublist ((pairsIn_grows .word ls more).sublist.map _)
  rules := fun p hp => h.rules p ((pairsIn_grows .rule ls more).mem hp)
  exemptions := fun source hs => h.exemptions source ((entriesIn_grows .exemption ls more).mem hs)

/-- Lines are not acceptable if one of them offends. -/
theorem Offends.not_acceptable {fault : LineFault} (h : Offends ls line fault)
    (more : List Text) : ¬ Acceptable (ls ++ line :: more) := by
  intro hwhole
  rw [List.append_cons] at hwhole
  have haccept := hwhole.of_append
  cases h with
  | key hentry hplace hpair htaken =>
    have hkeys := haccept.keys
    rw [pairsIn_concat, if_pos ⟨hentry, hplace⟩, hpair, List.map_append] at hkeys
    exact List.disjoint_of_nodup_append hkeys htaken (by simp)
  | rule hentry hplace hpair hfault =>
    obtain ⟨r, hr⟩ := haccept.rules _ (by
      rw [pairsIn_concat, if_pos ⟨hentry, hplace⟩, hpair]
      exact List.mem_append_right _ (List.mem_singleton_self _))
    rw [hfault] at hr
    cases hr
  | exemption hentry hplace hfault =>
    obtain ⟨e, he⟩ := haccept.exemptions line (by
      rw [entriesIn_concat, if_pos ⟨hentry, hplace⟩]
      exact List.mem_append_right _ (List.mem_singleton_self _))
    rw [hfault] at he
    cases he

theorem Tabulates.concat_of_not_isEntry (h : Tabulates ls d) (hentry : isEntry line = false) :
    Tabulates (ls ++ [line]) d := by
  obtain ⟨hwords, hrules, hignores, hexemptions, hknown⟩ := h
  refine ⟨?_, ?_, ?_, ?_, ?_⟩
  all_goals simp [pairsIn_concat, entriesIn_concat, *]

/-- A line that is no pair adds nothing where pairs are asked for. -/
theorem Tabulates.concat_of_not_pair (h : Tabulates ls d) (hpair : pair? line = none)
    (hplace : behind ls = .word ∨ behind ls = .rule) : Tabulates (ls ++ [line]) d := by
  obtain ⟨hwords, hrules, hignores, hexemptions, hknown⟩ := h
  rcases hplace with hplace | hplace
  all_goals
    refine ⟨?_, ?_, ?_, ?_, ?_⟩
    all_goals simp [pairsIn_concat, entriesIn_concat, *]

/-- An entry goes into the table of its section, or it offends. -/
theorem Tabulates.entry_cases (h : Tabulates ls d) (hentry : isEntry line = true) :
    (∃ d', entry d line (behind ls) = .ok d' ∧ Tabulates (ls ++ [line]) d') ∨
    ∃ fault, entry d line (behind ls) = .error fault ∧ Offends ls line fault := by
  obtain ⟨hwords, hrules, hignores, hexemptions, hknown⟩ := id h
  cases hplace : behind ls with
  | word =>
    cases hpair : pair? line with
    | none =>
      refine Or.inl ⟨d, ?_, h.concat_of_not_pair hpair (Or.inl hplace)⟩
      simp only [entry, hpair]
      rfl
    | some p =>
      obtain ⟨key, value⟩ := p
      simp only [entry, hpair, Dictionary.insertWord]
      rcases d.words.insert_cases ⟨key, value⟩ with ⟨-, table, hinsert, htable⟩ | ⟨htaken, hinsert⟩
      · rw [hinsert]
        refine Or.inl ⟨{ d with words := table }, rfl, ⟨?_, ?_, ?_, ?_, ?_⟩⟩
        all_goals simp [pairsIn_concat, entriesIn_concat, *]
      · rw [hinsert]
        rw [hwords, List.map_map] at htaken
        exact Or.inr ⟨.duplicateKey key, rfl, .key hentry hplace hpair htaken⟩
  | rule =>
    cases hpair : pair? line with
    | none =>
      refine Or.inl ⟨d, ?_, h.concat_of_not_pair hpair (Or.inr hplace)⟩
      simp only [entry, hpair]
      rfl
    | some p =>
      obtain ⟨source, template⟩ := p
      simp only [entry, hpair]
      cases hcompile : Rule.compile source template with
      | error fault =>
        exact Or.inr ⟨.invalidPattern source fault, rfl, .rule hentry hplace hpair hcompile⟩
      | ok r =>
        refine Or.inl ⟨d.addRule r, rfl, ⟨?_, ?_, ?_, ?_, ?_⟩⟩
        all_goals simp [pairsIn_concat, entriesIn_concat, Dictionary.addRule, *]
  | ignore =>
    refine Or.inl ⟨d.addIgnore line, rfl, ⟨?_, ?_, ?_, ?_, ?_⟩⟩
    all_goals simp [pairsIn_concat, entriesIn_concat, Dictionary.addIgnore, *]
  | exemption =>
    simp only [entry]
    cases hcompile : Exemption.compile line with
    | error fault =>
      exact Or.inr ⟨.invalidPattern line fault, rfl, .exemption hentry hplace hcompile⟩
    | ok e =>
      refine Or.inl ⟨d.addExemption e, rfl, ⟨?_, ?_, ?_, ?_, ?_⟩⟩
      all_goals simp [pairsIn_concat, entriesIn_concat, Dictionary.addExemption, *]
  | known =>
    refine Or.inl ⟨d.addKnown line, rfl, ⟨?_, ?_, ?_, ?_, ?_⟩⟩
    all_goals simp [pairsIn_concat, entriesIn_concat, Dictionary.addKnown, *]

end Lines

/-- A reader has read some lines: it stands in the section behind them and has their entries. -/
structure HasRead (ls : List Text) (r : DictionaryReader) : Prop where
  current : r.current = behind ls
  tables : Tabulates ls r.dictionary

theorem hasRead_nil : HasRead [] {} := ⟨rfl, rfl, rfl, rfl, rfl, rfl⟩

/-- One line more is read, or it offends. -/
theorem HasRead.line_cases {ls : List Text} {r : DictionaryReader} (h : HasRead ls r)
    (line : Text) : (∃ r', r.line line = .ok r' ∧ HasRead (ls ++ [line]) r') ∨
      ∃ fault, r.line line = .error fault ∧ Offends ls line fault := by
  unfold DictionaryReader.line
  cases hlabel : label? line with
  | some label =>
    have hentry : isEntry line = false := by simp [isEntry, hlabel]
    refine Or.inl ⟨_, rfl, ?_, h.tables.concat_of_not_isEntry hentry⟩
    rw [behind_concat, hlabel, ← h.current]
    rfl
  | none =>
    by_cases hblank : line.isEmpty = true
    · have hentry : isEntry line = false := by simp [isEntry, hblank]
      refine Or.inl ⟨r, if_pos hblank, ?_, h.tables.concat_of_not_isEntry hentry⟩
      rw [behind_concat, hlabel, ← h.current]
      rfl
    · have hentry : isEntry line = true := by simp [isEntry, hblank, hlabel]
      rw [if_neg hblank, h.current]
      rcases h.tables.entry_cases hentry with ⟨d, hdone, htables⟩ | ⟨fault, hfault, hoffends⟩
      · refine Or.inl ⟨{ dictionary := d, current := behind ls }, by rw [hdone]; rfl, ?_, htables⟩
        exact (behind_concat_of_isEntry ls hentry).symm
      · exact Or.inr ⟨fault, by rw [hfault]; rfl, hoffends⟩

theorem linesFrom_append (r : DictionaryReader) (n : Nat) (front back : List Text) :
    r.linesFrom n (front ++ back) = (r.linesFrom n front).bind fun r' =>
      r'.linesFrom (n + front.length) back := by
  induction front generalizing r n with
  | nil => rfl
  | cons raw front ih =>
    simp only [List.cons_append, linesFrom]
    cases hline : r.line (clean raw) with
    | error fault => rfl
    | ok r' =>
      rw [List.length_cons, Nat.add_comm front.length 1, ← Nat.add_assoc]
      exact ih r' (n + 1)

/-- Lines are all read, or the reading ends at the first one that offends. -/
theorem linesFrom_cases (raws : List Text) :
    (∃ r, linesFrom {} 1 raws = .ok r ∧ HasRead (raws.map clean) r) ∨
    ∃ e before raw after, linesFrom {} 1 raws = .error e ∧ raws = before ++ raw :: after ∧
      e.line = before.length + 1 ∧ Acceptable (before.map clean) ∧
      Offends (before.map clean) (clean raw) e.fault := by
  induction raws using List.reverseRecOn with
  | nil => exact Or.inl ⟨{}, rfl, hasRead_nil⟩
  | append_singleton raws raw ih =>
    rw [linesFrom_append, List.map_append, List.map_singleton]
    rcases ih with ⟨r, hdone, hread⟩ | ⟨e, before, raw', after, hfault, rfl, hrest⟩
    · rw [hdone]
      simp only [Except.bind, linesFrom]
      rcases hread.line_cases (clean raw) with ⟨r', hline, hread'⟩ | ⟨fault, hline, hoffends⟩
      · rw [hline]
        exact Or.inl ⟨r', rfl, hread'⟩
      · rw [hline]
        exact Or.inr ⟨_, raws, raw, [], rfl, rfl, Nat.add_comm 1 _, hread.tables.acceptable,
          hoffends⟩
    · rw [hfault]
      exact Or.inr ⟨e, before, raw', after ++ [raw], rfl, by simp, hrest⟩

end DictionaryReader

namespace Dictionary

def cleanLines (content : Text) : List Text := (lines content).map clean

/-- A text is read into the tables of its lines, or the reading ends at the first offence. -/
theorem read_cases (content : Text) :
    (∃ d, Dictionary.read content = .ok d ∧ Tabulates (cleanLines content) d) ∨
    ∃ e before raw after, Dictionary.read content = .error e ∧
      lines content = before ++ raw :: after ∧ e.line = before.length + 1 ∧
      Acceptable (before.map clean) ∧ Offends (before.map clean) (clean raw) e.fault := by
  unfold Dictionary.read
  rcases linesFrom_cases (lines content) with ⟨r, hdone, hread⟩ | ⟨e, before, raw, after, hfault, h⟩
  · rw [hdone]
    exact Or.inl ⟨r.dictionary, rfl, hread.tables⟩
  · rw [hfault]
    exact Or.inr ⟨e, before, raw, after, rfl, h⟩

/-- A text is read exactly if its lines are acceptable. -/
theorem read_ok_iff {content : Text} :
    (∃ d, Dictionary.read content = .ok d) ↔ Acceptable (cleanLines content) := by
  rcases read_cases content with ⟨d, hdone, htables⟩ |
    ⟨e, before, raw, after, hfault, hlines, -, -, hoffends⟩
  · exact ⟨fun _ => htables.acceptable, fun _ => ⟨d, hdone⟩⟩
  · refine ⟨fun hok => ?_, fun haccept => ?_⟩
    · obtain ⟨d, hdone⟩ := hok
      rw [hfault] at hdone
      cases hdone
    · rw [cleanLines, hlines, List.map_append, List.map_cons] at haccept
      exact absurd haccept (hoffends.not_acceptable _)

theorem tabulates_of_read {content : Text} {d : Dictionary}
    (h : Dictionary.read content = .ok d) : Tabulates (cleanLines content) d := by
  rcases read_cases content with ⟨d', hdone, htables⟩ | ⟨e, _, _, _, hfault, -⟩
  · rw [h] at hdone
    cases hdone
    exact htables
  · rw [h] at hfault
    cases hfault

/-- A dictionary with the entries of acceptable lines is what these are read as. -/
theorem read_eq_ok_iff {content : Text} {d : Dictionary} :
    Dictionary.read content = .ok d ↔ Tabulates (cleanLines content) d := by
  refine ⟨tabulates_of_read, fun htables => ?_⟩
  obtain ⟨d', hdone⟩ := read_ok_iff.mpr htables.acceptable
  rw [hdone, (tabulates_of_read hdone).unique htables]

/-- The known tokens are those of some lines, each once. -/
theorem known_of_tabulates {ls : List Text} {d : Dictionary} (h : Tabulates ls d) :
    d.known.Nodup ∧ ∀ token, token ∈ d.known ↔ token ∈ entriesIn .known ls := by
  rw [h.known]
  induction entriesIn .known ls using List.reverseRecOn with
  | nil => simp
  | append_singleton tokens last ih =>
    obtain ⟨hnodup, hmem⟩ := ih
    rw [List.foldl_append, List.foldl_cons, List.foldl_nil]
    refine ⟨hnodup.insert, fun token => ?_⟩
    rw [List.mem_insert_iff, hmem, List.mem_append, List.mem_singleton, or_comm]

/-- A dictionary text is read exactly if the words that are pairs with two sides have different
keys, whatever the sections in which they stand, and the patterns of all rules and exemptions are
accepted. Each table then has the entries of its section in the order of the text, the known tokens
without their repetitions. Otherwise the reading ends at the first line that offends, and the error
has the number of this line among all lines of the text and the key or pattern that is wrong. -/
theorem read_by_sections (content : Text) :
    ((∃ d, Dictionary.read content = .ok d) ↔
      ((pairsIn .word (cleanLines content)).map Prod.fst).Nodup ∧
      (∀ p ∈ pairsIn .rule (cleanLines content), ∃ r, Rule.compile p.1 p.2 = .ok r) ∧
      ∀ source ∈ entriesIn .exemption (cleanLines content),
        ∃ e, Exemption.compile source = .ok e) ∧
    (∀ d, Dictionary.read content = .ok d →
      d.words.entries = (pairsIn .word (cleanLines content)).map (fun p => ⟨p.1, p.2⟩) ∧
      d.rules.map Except.ok =
        (pairsIn .rule (cleanLines content)).map (fun p => Rule.compile p.1 p.2) ∧
      d.ignores = entriesIn .ignore (cleanLines content) ∧
      d.exemptions.map Except.ok =
        (entriesIn .exemption (cleanLines content)).map Exemption.compile ∧
      d.known.Nodup ∧
      ∀ token, token ∈ d.known ↔ token ∈ entriesIn .known (cleanLines content)) ∧
    ∀ e, Dictionary.read content = .error e → ∃ before raw after,
      lines content = before ++ raw :: after ∧ e.line = before.length + 1 ∧
      Offends (before.map clean) (clean raw) e.fault ∧
      ∀ earlier raw' between fault, before = earlier ++ raw' :: between →
        ¬ Offends (earlier.map clean) (clean raw') fault := by
  refine ⟨?_, fun d hdone => ?_, fun e hfault => ?_⟩
  · rw [read_ok_iff]
    exact ⟨fun h => ⟨h.keys, h.rules, h.exemptions⟩, fun ⟨hkeys, hrules, hexemptions⟩ =>
      ⟨hkeys, hrules, hexemptions⟩⟩
  · have htables := tabulates_of_read hdone
    exact ⟨htables.words, htables.rules, htables.ignores, htables.exemptions,
      known_of_tabulates htables⟩
  · rcases read_cases content with ⟨d, hdone, -⟩ |
      ⟨e', before, raw, after, hfault', hlines, hnumber, haccept, hoffends⟩
    · rw [hfault] at hdone
      cases hdone
    · cases hfault.symm.trans hfault'
      refine ⟨before, raw, after, hlines, hnumber, hoffends, ?_⟩
      rintro earlier raw' between fault rfl hearlier
      rw [List.map_append, List.map_cons] at haccept
      exact hearlier.not_acceptable _ haccept

/-- A text with a byte order mark, sections that come back, a marker without a label, a blank line,
a comment and a token that is repeated. -/
def interleaved : Text :=
  ("\uFEFFa=1\n===== ignore\r\nx y\n=====\n\nz\n======= Words\n// c=3\nb=2\n" ++
    "=====ignorecheck\nHP\nHP").toList

def repeated : Text := "a=1\n\n===== word\na=2".toList

/-- The first text is read into two words, two literals and one token. The second one is not read,
because of its fourth line. -/
theorem read_by_sections_interleaved :
    (∃ d, Dictionary.read interleaved = .ok d ∧
      d.words.entries = [⟨['a'], ['1']⟩, ⟨['b'], ['2']⟩] ∧ d.ignores = ["x y".toList, ['z']] ∧
      d.known.Nodup ∧ ∀ token, token ∈ d.known ↔ token = "HP".toList) ∧
    ∃ before raw after, lines repeated = before ++ raw :: after ∧ before.length = 3 ∧
      Offends (before.map clean) (clean raw) (.duplicateKey ['a']) := by
  -- One evaluation for all sections, since each of them asks for all lines.
  obtain ⟨hwords, hrules, hignores, hexemptions, hknown⟩ :
      pairsIn .word (cleanLines interleaved) = [(['a'], ['1']), (['b'], ['2'])] ∧
      pairsIn .rule (cleanLines interleaved) = [] ∧
      entriesIn .ignore (cleanLines interleaved) = ["x y".toList, ['z']] ∧
      entriesIn .exemption (cleanLines interleaved) = [] ∧
      entriesIn .known (cleanLines interleaved) = ["HP".toList, "HP".toList] := by
    decide +kernel
  have hrepeated : Dictionary.read repeated = .error ⟨4, .duplicateKey ['a']⟩ := by
    decide +kernel
  refine ⟨?_, ?_⟩
  · obtain ⟨hread, htables, -⟩ := read_by_sections interleaved
    rw [hwords, hrules, hexemptions] at hread
    obtain ⟨d, hdone⟩ := hread.mpr ⟨by decide, by simp, by simp⟩
    obtain ⟨hentries, -, hliterals, -, hnodup, htokens⟩ := htables d hdone
    rw [hwords] at hentries
    rw [hignores] at hliterals
    rw [hknown] at htokens
    exact ⟨d, hdone, hentries, hliterals, hnodup, by simpa using htokens⟩
  · obtain ⟨before, raw, after, hlines, hnumber, hoffends, -⟩ :=
      (read_by_sections repeated).2.2 _ hrepeated
    exact ⟨before, raw, after, hlines, by simpa using hnumber.symm, hoffends⟩

end Dictionary

end Phrasebook
