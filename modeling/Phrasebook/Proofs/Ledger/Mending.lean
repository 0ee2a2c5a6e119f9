import Phrasebook.Proofs.Dictionary.Writing
import Phrasebook.Proofs.Ledger.Entries

/-!
How an open text is mended. A word for it is written on a line of its own above all that the
dictionary file holds. The text then resolves, whatever else the dictionary has, and the next
reconciliation takes it out of the ledger.
-/

namespace Phrasebook

open Text DictionaryReader

namespace Dictionary

/-- A word in front of a text that can be read is one word more, in front of the others. -/
theorem read_cons_word {content key value : Text} {d : Dictionary} {table : WordTable}
    (hread : Dictionary.read content = .ok d) (hkey : key ≠ []) (hvalue : value ≠ [])
    (htable : table.entries = ⟨key, value⟩ :: d.words.entries) :
    Dictionary.read (Line.encode key value ++ '\n' :: content) =
      .ok { d with words := table } := by
  have hnewline : '\n' ∉ Line.encode key value := fun hmem => (Line.ne_of_mem_encode hmem).1 rfl
  rw [read_eq_ok_iff, cleanLines_append_newline content hnewline, Line.clean_encode]
  exact (tabulates_of_read hread).cons_word hkey hvalue htable

/-- A word gives its value for the text that it is, unless an exemption leaves the text alone. -/
theorem resolve_of_mem_words {d : Dictionary} {key value : Text}
    (h : ⟨key, value⟩ ∈ d.words.entries) :
    d.resolve key = .complete (if d.exemptions.any (·.covers key) then key else value) := by
  have hlookup : d.lookup key = some value := WordTable.lookup_eq_some_iff.mpr h
  rw [resolve, hlookup]
  split
  · rfl
  · rfl

end Dictionary

namespace Ledger

/-- Whatever a text holds that a dictionary has no word for, and whatever dictionary text can be
read: with a line for the text in front, the dictionary text is read as the word and all that was
there. The text then resolves to its new value, or to itself where an exemption covers it, and no
ledger keeps it when it is reconciled. -/
theorem mended_by_line {content input value : Text} {d : Dictionary}
    (hread : Dictionary.read content = .ok d) (hinput : input ≠ [])
    (hnew : input ∉ d.words.entries.map Word.key) (hvalue : value ≠ []) :
    ∃ d', Dictionary.read (Line.encode input value ++ '\n' :: content) = .ok d' ∧
      d'.words.entries = ⟨input, value⟩ :: d.words.entries ∧ d'.rules = d.rules ∧
      d'.ignores = d.ignores ∧ d'.exemptions = d.exemptions ∧ d'.known = d.known ∧
      d'.resolve input =
        ⟨true, if d.exemptions.any (·.covers input) then input else value, []⟩ ∧
      ∀ l : Ledger, (l.reconcile d').contains input = false := by
  have hdistinct : ((⟨input, value⟩ :: d.words.entries).map Word.key).Nodup :=
    List.nodup_cons.mpr ⟨hnew, d.words.distinct⟩
  obtain ⟨table, htable⟩ : ∃ table : WordTable,
      table.entries = ⟨input, value⟩ :: d.words.entries := ⟨⟨_, hdistinct⟩, rfl⟩
  have hresolve : ({ d with words := table } : Dictionary).resolve input =
      .complete (if d.exemptions.any (·.covers input) then input else value) :=
    Dictionary.resolve_of_mem_words (htable ▸ List.mem_cons_self)
  refine ⟨{ d with words := table }, Dictionary.read_cons_word hread hinput hvalue htable, htable,
    rfl, rfl, rfl, rfl, hresolve, fun l => ?_⟩
  rw [Bool.eq_false_iff, ne_eq, contains_reconcile, hresolve]
  rintro ⟨-, hopen⟩
  cases hopen

def unmended : Text := "\uFEFFb=c\n===== ignore\nx".toList

def unmendedDictionary : Dictionary :=
  { words := ⟨[⟨['b'], ['c']⟩], by decide⟩, ignores := [['x']] }

/-- An open text that begins like a comment and holds a separator and a newline is mended. -/
theorem mended_by_line_unmended : ∃ d,
    Dictionary.read (Line.encode "// a=\n".toList ['y'] ++ '\n' :: unmended) = .ok d ∧
    d.words.entries = [⟨"// a=\n".toList, ['y']⟩, ⟨['b'], ['c']⟩] ∧ d.ignores = [['x']] ∧
    d.resolve "// a=\n".toList = ⟨true, ['y'], []⟩ ∧
    ∀ l : Ledger, (l.reconcile d).contains "// a=\n".toList = false := by
  have hread : Dictionary.read unmended = .ok unmendedDictionary := by decide +kernel
  obtain ⟨d, hdone, hwords, -, hignores, -, -, hresolve, hreconcile⟩ :=
    @mended_by_line _ "// a=\n".toList ['y'] _ hread (by decide) (by decide) (by decide)
  exact ⟨d, hdone, hwords, hignores, hresolve, hreconcile⟩

end Ledger

end Phrasebook
