import Phrasebook.Proofs.Dictionary.Reading
import Phrasebook.Proofs.Line.Framing
import Phrasebook.Proofs.Pattern.Basic

/-!
Dictionary texts that were written line by line from pairs. Every line is an entry of the section
in which it is written, so words and rules are read back as they were, in their order, whatever
their sides hold.
-/

namespace Phrasebook

open Text DictionaryReader Section

namespace Line

def encodeAll (pairs : List (Text × Text)) : Text :=
  pairs.flatMap fun p => encode p.1 p.2 ++ ['\n']

/-- The line of a pair is neither blank nor a marker. -/
theorem isEntry_encode (key value : Text) : isEntry (encode key value) = true := by
  obtain ⟨c, rest, hstart, -⟩ := encode_starts key value
  have hmarker : (List.replicate 5 '=').isPrefixOf (encode key value) = false := by
    rw [Bool.eq_false_iff, ne_eq, List.isPrefixOf_iff_prefix]
    intro hprefix
    have htwo : [separator, separator] <+: List.replicate 5 '=' := ⟨['=', '=', '='], rfl⟩
    exact not_separators_prefix_encode key value (htwo.trans hprefix)
  rw [isEntry, label?, hmarker, hstart]
  rfl

theorem pair?_encode {key value : Text} (hkey : key ≠ []) (hvalue : value ≠ []) :
    pair? (encode key value) = some (key, value) :=
  pair?_eq_some_iff.mpr ⟨decode?_encode key value, hkey, hvalue⟩

/-- The lines of pairs are found again, and what follows them has lines of its own. -/
theorem cleanLines_encodeAll_append (pairs : List (Text × Text)) (rest : Text) :
    Dictionary.cleanLines (encodeAll pairs ++ rest) =
      pairs.map (fun p => encode p.1 p.2) ++ Dictionary.cleanLines rest := by
  have htext : encodeAll pairs =
      (pairs.map fun p => encode p.1 p.2).flatMap fun line => line ++ ['\n'] := by
    rw [List.flatMap_map]
    rfl
  have hfree : ∀ line ∈ pairs.map fun p => encode p.1 p.2, '\n' ∉ line ∧ '\r' ∉ line := by
    intro line hline
    obtain ⟨p, -, rfl⟩ := List.mem_map.mp hline
    exact ⟨fun hc => (ne_of_mem_encode hc).1 rfl, fun hc => (ne_of_mem_encode hc).2 rfl⟩
  rw [Dictionary.cleanLines, htext, lines_flatMap_newline_append _ hfree, List.map_append,
    List.map_map]
  refine congrArg (· ++ _) (List.map_congr_left fun p _ => ?_)
  exact clean_encode p.1 p.2

theorem cleanLines_encodeAll (pairs : List (Text × Text)) :
    Dictionary.cleanLines (encodeAll pairs) = pairs.map fun p => encode p.1 p.2 := by
  have hlines := cleanLines_encodeAll_append pairs []
  rwa [List.append_nil, show Dictionary.cleanLines [] = [] from rfl, List.append_nil] at hlines

end Line

namespace DictionaryReader

/-- Stripping a line does not depend on how it was ended. -/
theorem clean_dropLastIf (raw : Text) : clean (dropLastIf '\r' raw) = clean raw := by
  unfold dropLastIf
  split
  · rename_i hlast
    obtain ⟨front, rfl⟩ := List.getLast?_eq_some_iff.mp (by simpa using hlast)
    have hreturn : ∀ c ∈ ['\r'], isBlank c = true := by
      intro c hc
      rw [List.mem_singleton.mp hc]
      rfl
    have hdrop : (front ++ ['\r']).dropWhile (· == byteOrderMark) =
        front.dropWhile (· == byteOrderMark) ++ ['\r'] := by
      rw [List.dropWhile_append]
      split
      · rename_i hnil
        rw [List.isEmpty_iff.mp hnil]
        rfl
      · rfl
    rw [List.dropLast_concat, clean, clean, hdrop, trim_append_blank _ hreturn]
  · rfl

theorem cleanLines_append_newline {raw : Text} (rest : Text) (h : '\n' ∉ raw) :
    Dictionary.cleanLines (raw ++ '\n' :: rest) = clean raw :: Dictionary.cleanLines rest := by
  rw [Dictionary.cleanLines, lines_append_newline rest h, List.map_cons, clean_dropLastIf]
  rfl

/-- Pairs that are written behind some lines stand in the section there. -/
theorem append_encode (s : Section) (ls : List Text) {pairs : List (Text × Text)}
    (h : ∀ p ∈ pairs, p.1 ≠ [] ∧ p.2 ≠ []) :
    entriesIn s (ls ++ pairs.map fun p => Line.encode p.1 p.2) =
      entriesIn s ls ++ (if behind ls = s then pairs.map fun p => Line.encode p.1 p.2 else []) ∧
    pairsIn s (ls ++ pairs.map fun p => Line.encode p.1 p.2) =
      pairsIn s ls ++ if behind ls = s then pairs else [] := by
  have hentry : ∀ line ∈ pairs.map fun p => Line.encode p.1 p.2, isEntry line = true := by
    intro line hline
    obtain ⟨p, -, rfl⟩ := List.mem_map.mp hline
    exact Line.isEntry_encode p.1 p.2
  have hpairs : (pairs.map fun p => Line.encode p.1 p.2).filterMap pair? = pairs := by
    have hpair : ∀ p ∈ pairs, (pair? ∘ fun p => Line.encode p.1 p.2) p = some p := fun p hp =>
      Line.pair?_encode (h p hp).1 (h p hp).2
    rw [List.filterMap_map, List.filterMap_congr hpair, List.filterMap_some]
  obtain ⟨-, hentries⟩ := entriesIn_append_of_isEntry s ls hentry
  refine ⟨hentries, ?_⟩
  rw [pairsIn, hentries, List.filterMap_append, pairsIn]
  split
  · rw [hpairs]
  · rfl

section Written

variable {ls : List Text} {d : Dictionary} {pairs : List (Text × Text)}

/-- Words that are written in a section of words come behind the others. -/
theorem Tabulates.append_words {table : WordTable} (h : Tabulates ls d) (hplace : behind ls = .word)
    (hsides : ∀ p ∈ pairs, p.1 ≠ [] ∧ p.2 ≠ [])
    (htable : table.entries = d.words.entries ++ pairs.map fun p => ⟨p.1, p.2⟩) :
    Tabulates (ls ++ pairs.map fun p => Line.encode p.1 p.2) { d with words := table } := by
  obtain ⟨hwords, hrules, hignores, hexemptions, hknown⟩ := h
  have hlines := fun s => append_encode s ls hsides
  refine ⟨?_, ?_, ?_, ?_, ?_⟩
  all_goals simp [*]

/-- Rules that are written in a section of rules come behind the others. -/
theorem Tabulates.append_rules {rules : List Rule} (h : Tabulates ls d) (hplace : behind ls = .rule)
    (hsides : ∀ p ∈ pairs, p.1 ≠ [] ∧ p.2 ≠ [])
    (hcompiled : rules.map Except.ok = pairs.map fun p => Rule.compile p.1 p.2) :
    Tabulates (ls ++ pairs.map fun p => Line.encode p.1 p.2)
      { d with rules := d.rules ++ rules } := by
  obtain ⟨hwords, hrules, hignores, hexemptions, hknown⟩ := h
  have hlines := fun s => append_encode s ls hsides
  refine ⟨?_, ?_, ?_, ?_, ?_⟩
  all_goals simp [*]

theorem Tabulates.append_marker {s : Section} {marker : Text} (h : Tabulates ls d)
    (hmarker : Begins s marker) : Tabulates (ls ++ [marker]) d := by
  obtain ⟨label, hlabel, -⟩ := hmarker
  exact h.concat_of_not_isEntry (by simp [isEntry, hlabel])

/-- A word that is written in front of all lines comes before the others. -/
theorem Tabulates.cons_word {key value : Text} {table : WordTable} (h : Tabulates ls d)
    (hkey : key ≠ []) (hvalue : value ≠ [])
    (htable : table.entries = ⟨key, value⟩ :: d.words.entries) :
    Tabulates (Line.encode key value :: ls) { d with words := table } := by
  obtain ⟨hwords, hrules, hignores, hexemptions, hknown⟩ := h
  have hlines := fun s => (entriesIn_cons_of_isEntry s ls (Line.isEntry_encode key value)).2
  have hpair := Line.pair?_encode hkey hvalue
  refine ⟨?_, ?_, ?_, ?_, ?_⟩
  all_goals simp [pairsIn, *]

end Written

end DictionaryReader

/-- A pattern keeps the source from which it was read. -/
theorem Pattern.source_of_compile {source : Text} {p : Pattern}
    (h : Pattern.compile source = .ok p) : p.source = source := by
  obtain ⟨hparse, -⟩ := Pattern.compile_eq_ok_iff.mp h
  obtain ⟨k, -, rfl⟩ := Pattern.parse_eq_ok_iff.mp hparse
  rfl

/-- Pairs whose patterns are accepted make rules, in the same order. -/
theorem Rule.exists_compiled {pairs : List (Text × Text)}
    (h : ∀ p ∈ pairs, ∃ pattern, Pattern.compile p.1 = .ok pattern) :
    ∃ rules : List Rule, rules.map Except.ok = pairs.map (fun p => Rule.compile p.1 p.2) ∧
      rules.map (fun r => (r.pattern.source, r.template)) = pairs ∧
      ∀ r ∈ rules, Pattern.compile r.pattern.source = .ok r.pattern := by
  induction pairs with
  | nil => exact ⟨[], rfl, rfl, by simp⟩
  | cons p pairs ih =>
    obtain ⟨rules, hcompiled, hpairs, hpatterns⟩ :=
      ih fun q hq => h q (List.mem_cons_of_mem p hq)
    obtain ⟨pattern, hpattern⟩ := h p List.mem_cons_self
    have hsource := Pattern.source_of_compile hpattern
    refine ⟨⟨pattern, p.2⟩ :: rules, ?_, ?_, ?_⟩
    · rw [List.map_cons, List.map_cons, hcompiled, Rule.compile, hpattern]
      rfl
    · rw [List.map_cons, hpairs, hsource]
    · exact List.forall_mem_cons.mpr ⟨hsource ▸ hpattern, hpatterns⟩

namespace Dictionary

open Line (encodeAll encode)

/-- Words that are written line by line, with different keys and with both sides, are read as just
these words in this order. So are rules that are written below a marker for them, with patterns
that are accepted, whether or not words stand above it. -/
theorem written_pairs_read_back {words : List (Text × Text)} (hkeys : (words.map Prod.fst).Nodup)
    (hsides : ∀ p ∈ words, p.1 ≠ [] ∧ p.2 ≠ []) :
    ∃ table : WordTable, table.entries = words.map (fun p => ⟨p.1, p.2⟩) ∧
      Dictionary.read (encodeAll words) = .ok { words := table } ∧
      ∀ marker rules, '\n' ∉ marker → Begins .rule (clean marker) →
        (∀ p ∈ rules, p.1 ≠ [] ∧ p.2 ≠ [] ∧ ∃ pattern, Pattern.compile p.1 = .ok pattern) →
        ∃ table' : List Rule, table'.map (fun r => (r.pattern.source, r.template)) = rules ∧
          (∀ r ∈ table', Pattern.compile r.pattern.source = .ok r.pattern) ∧
          Dictionary.read (encodeAll words ++ (marker ++ '\n' :: encodeAll rules)) =
            .ok { words := table, rules := table' } := by
  have hdistinct : ((words.map fun p => (⟨p.1, p.2⟩ : Word)).map Word.key).Nodup := by
    rwa [List.map_map]
  have hwords : Tabulates (words.map fun p => encode p.1 p.2)
      { words := ⟨words.map fun p => ⟨p.1, p.2⟩, hdistinct⟩ } :=
    hasRead_nil.tables.append_words rfl hsides rfl
  refine ⟨⟨words.map fun p => ⟨p.1, p.2⟩, hdistinct⟩, rfl, read_eq_ok_iff.mpr ?_,
    fun marker rules hline hmarker hrules => ?_⟩
  · rw [Line.cleanLines_encodeAll]
    exact hwords
  · obtain ⟨table', hcompiled, hpairs, hpatterns⟩ :=
      Rule.exists_compiled fun p hp => (hrules p hp).2.2
    refine ⟨table', hpairs, hpatterns, read_eq_ok_iff.mpr ?_⟩
    rw [Line.cleanLines_encodeAll_append, cleanLines_append_newline _ hline,
      Line.cleanLines_encodeAll, List.append_cons]
    exact (hwords.append_marker hmarker).append_rules (hmarker.entriesIn_concat .rule _).1
      (fun p hp => ⟨(hrules p hp).1, (hrules p hp).2.1⟩) hcompiled

/-- Words that begin like a comment, like a marker and with a byte order mark, and end in white
space or hold line ends. -/
def awkward : List (Text × Text) :=
  [("//a".toList, ['\r', '\n']), ("===== regex".toList, [' ']), ("\uFEFF ".toList, ['='])]

/-- They are read back, and so are two rules with one pattern below them. -/
theorem written_pairs_read_back_awkward : ∃ (table : WordTable) (rules : List Rule),
    table.entries = awkward.map (fun p => ⟨p.1, p.2⟩) ∧
    rules.map (fun r => (r.pattern.source, r.template)) = [(['a'], ['b']), (['a'], ['c'])] ∧
    Dictionary.read (encodeAll awkward) = .ok { words := table } ∧
    Dictionary.read (encodeAll awkward ++ ("====== Reg\r".toList ++
      '\n' :: encodeAll [(['a'], ['b']), (['a'], ['c'])])) =
        .ok { words := table, rules := rules } := by
  have hpattern : ∃ pattern, Pattern.compile ['a'] = .ok pattern := ⟨_, rfl⟩
  have hmarker : Begins .rule (clean "====== Reg\r".toList) := ⟨['R', 'e', 'g'], by decide +kernel,
    by decide +kernel⟩
  obtain ⟨table, htable, hread, hbelow⟩ :=
    @written_pairs_read_back awkward (by decide) (by decide)
  obtain ⟨rules, hrules, -, hboth⟩ := hbelow "====== Reg\r".toList
    [(['a'], ['b']), (['a'], ['c'])] (by decide) hmarker (by simp [hpattern])
  exact ⟨table, rules, htable, hrules, hread, hboth⟩

end Dictionary

end Phrasebook
