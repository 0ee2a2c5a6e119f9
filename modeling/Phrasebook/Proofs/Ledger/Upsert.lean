import Phrasebook.Proofs.Ledger.Storage
import Phrasebook.Proofs.Line.Joining
import Phrasebook.Proofs.Text.Utf8

/-!
Appending to a file that was left by other means. The new line stands directly behind what the
file holds, so it is a line of its own only if the last line there is ended. An unfinished line of
white space does no harm. Any other one does: some entry that is appended to it is not read back.
-/

namespace Phrasebook

open Text

namespace Entry

theorem ofLine?_append_of_blank {blanks : Text} (raw : Text)
    (h : ∀ c ∈ blanks, isBlank c = true) : ofLine? (blanks ++ raw) = ofLine? raw := by
  rw [ofLine?, ofLine?, trim_append_of_blank raw h]

theorem ofLine?_of_blank {blanks : Text} (h : ∀ c ∈ blanks, isBlank c = true) :
    ofLine? blanks = none := by
  have hempty := ofLine?_append_of_blank [] h
  rw [List.append_nil] at hempty
  exact hempty

/-- Behind text that shows there is an input that is not read back, whatever the draft and the
tokens. -/
theorem exists_lost_input {raw : Text} (h : trimStart raw ≠ []) : ∃ input, input ≠ [] ∧
    ∀ e e' : Entry, e.input = input → ofLine? (raw ++ e.toLine) = some e' → e'.input ≠ input := by
  obtain ⟨input, hinput, hlost⟩ := Line.exists_lost_key h
  refine ⟨input, hinput, fun e e' he hread => ?_⟩
  obtain ⟨value, hdecode, -⟩ := ofLine?_eq_some_iff.mp hread
  rw [toLine, trim_append h (Line.encode_ends _ _), he] at hdecode
  exact hlost _ _ _ hdecode

end Entry

namespace Ledger

open FileSystem

def insertLine (l : Ledger) (raw : Text) : Ledger := (Entry.ofLine? raw).elim l l.insert

/-- The line of an entry was appended to a file, be it by itself or when the entry was recorded as
new in some ledger. -/
def Appended (path : Text) (e : Entry) (fs fs' : FileSystem) : Prop :=
  append path e fs = (.ok (), fs') ∨
    ∃ l l' : Ledger, l.recordAndAppend path e fs = ((l', .ok true), fs')

theorem Appended.append {path : Text} {e : Entry} {fs fs' : FileSystem}
    (h : Appended path e fs fs') : append path e fs = (.ok (), fs') := by
  rcases h with happend | ⟨l, l', hrecord⟩
  · exact happend
  · rcases recordAndAppend_cases hrecord with ⟨-, herror, -⟩ | ⟨-, -, hold, -⟩ |
      ⟨-, -, -, ⟨fault, -, herror⟩ | ⟨happend, -⟩⟩
    · cases herror
    · cases hold
    · cases herror
    · exact happend

theorem get?_insertLine_of_ne {l : Ledger} {raw input : Text}
    (h : ∀ e, Entry.ofLine? raw = some e → e.input ≠ input) :
    (l.insertLine raw).get? input = l.get? input := by
  unfold insertLine
  cases hread : Entry.ofLine? raw with
  | none => rfl
  | some e => rw [Option.elim_some, get?_insert, if_neg (h e hread)]

/-- One more line is one more entry, if it holds one. -/
theorem foldl_insert_line (l : Ledger) (raw : Text) :
    ([raw].filterMap Entry.ofLine?).foldl insert l = l.insertLine raw := by
  unfold insertLine
  cases hread : Entry.ofLine? raw with
  | none => simp [hread]
  | some e => simp [hread]

/-- A text is read in two steps: first the lines that are ended, then the unfinished one. A line
that is written behind the text goes on with the latter. -/
theorem exists_ofText_finished (t : Text) : ∃ l : Ledger,
    ofText t = l.insertLine (unfinished t) ∧
    ∀ e : Entry, ofText (t ++ (e.toLine ++ ['\n'])) = l.insertLine (unfinished t ++ e.toLine) := by
  obtain ⟨finished, hfinished⟩ := exists_finished t
  have hnewline := newline_not_mem_unfinished t
  have hofText : ∀ {text raw : Text}, lines text = finished ++ [raw] →
      ofText text = ((finished.filterMap Entry.ofLine?).foldl insert empty).insertLine raw := by
    intro text raw hlines
    rw [ofText, hlines, List.filterMap_append, List.foldl_append, foldl_insert_line]
  refine ⟨(finished.filterMap Entry.ofLine?).foldl insert empty, ?_, fun e => hofText ?_⟩
  · have hlines := hfinished []
    rw [List.append_nil, List.append_nil] at hlines
    by_cases hnil : unfinished t = []
    · have hempty : lines [] = [] := rfl
      rw [ofText, hlines, hnil, hempty, List.append_nil]
      rfl
    · rw [lines_of_not_mem hnil hnewline] at hlines
      exact hofText hlines
  · have hline : '\n' ∉ unfinished t ++ e.toLine := by
      rw [List.mem_append, not_or]
      exact ⟨hnewline, fun hmem => (Entry.ne_of_mem_toLine hmem).1 rfl⟩
    have hend : EndsVisibly (unfinished t ++ e.toLine) := (Line.encode_ends _ _).append _
    rw [hfinished, ← List.append_assoc, lines_append_newline [] hline,
      dropLastIf_of_endsVisibly (by decide) hend]
    rfl

/-- Behind white space the line of an entry is read as if it stood alone. -/
theorem ofText_append_eq_insertLine {t : Text} (e : Entry)
    (h : ∀ c ∈ unfinished t, isBlank c = true) :
    ofText (t ++ (e.toLine ++ ['\n'])) = (ofText t).insertLine e.toLine := by
  obtain ⟨l, ht, happended⟩ := exists_ofText_finished t
  rw [happended, ht, insertLine, insertLine, insertLine, Entry.ofLine?_append_of_blank _ h,
    Entry.ofLine?_of_blank h]
  rfl

theorem ofText_append_of_blank {t : Text} {e : Entry} (he : e.Legible)
    (h : ∀ c ∈ unfinished t, isBlank c = true) :
    ofText (t ++ (e.toLine ++ ['\n'])) = (ofText t).insert e := by
  rw [ofText_append_eq_insertLine e h, insertLine, Entry.ofLine?_toLine he, Option.elim_some]

/-- Behind text that shows, some entry is not put into the ledger. -/
theorem exists_lost_entry {t : Text} (h : trimStart (unfinished t) ≠ []) :
    ∃ e : Entry, e.Legible ∧ ofText (t ++ (e.toLine ++ ['\n'])) ≠ (ofText t).insert e := by
  obtain ⟨l, ht, happended⟩ := exists_ofText_finished t
  obtain ⟨input, hinput, hlost⟩ := Entry.exists_lost_input h
  -- The entry must not stand in the file already.
  obtain ⟨draft, hnew⟩ : ∃ draft, l.get? input ≠ some ⟨input, draft, []⟩ := by
    cases hold : l.get? input with
    | none => exact ⟨[], by simp⟩
    | some e =>
      refine ⟨'a' :: e.draft, fun heq => ?_⟩
      have hdraft := congrArg Entry.draft (Option.some.inj heq)
      exact List.cons_ne_self _ _ hdraft.symm
  refine ⟨⟨input, draft, []⟩, ⟨hinput, by simp, by simp⟩, fun heq => hnew ?_⟩
  have hget := get?_insertLine_of_ne (l := l) fun e' => hlost ⟨input, draft, []⟩ e' rfl
  rw [← hget, ← happended, heq, get?_insert, if_pos rfl]

theorem ofBytes_append_line (bytes : Bytes) (e : Entry) :
    ofBytes (bytes ++ Utf8.encode (e.toLine ++ ['\n'])) =
      ofText (Utf8.decodeLossy bytes ++ (e.toLine ++ ['\n'])) := by
  rw [ofBytes, Utf8.decodeLossy_append_encode]

/-- Appending an entry to a file, or where there is none, puts it into the ledger of the file and
changes nothing else there, whatever the entry, exactly if nothing but white space stands behind
the last newline of the file. The system must not refuse to write, for then nothing is appended. -/
theorem appended_is_inserted_iff {path : Text} {fs : FileSystem} {bytes : Bytes}
    (hfile : fs.contents path = .ok bytes ∨
      fs.bytes? (Path.location path) = none ∧ bytes = []) (hwrite : fs.refuses.write = none) :
    (∀ e fs', e.Legible → Appended path e fs fs' →
      load path fs' = (.ok ((ofBytes bytes).insert e), fs')) ↔
    ∀ c ∈ unfinished (Utf8.decodeLossy bytes), isBlank c = true := by
  constructor
  · intro hinserted
    rcases hfile with hread | ⟨-, rfl⟩
    · refine trimStart_eq_nil_iff.mp ?_
      by_contra hshown
      obtain ⟨e, he, hlost⟩ := exists_lost_entry hshown
      obtain ⟨fs', happend⟩ := exists_append e hread hwrite
      have hload := hinserted e fs' he (Or.inl happend)
      rw [load_of_contents (contents_append hread happend), ofBytes_append_line] at hload
      exact hlost (Except.ok.inj (congrArg Prod.fst hload))
    · intro c hc
      cases hc
  · intro hblank e fs' he happended
    have hbytes : (fs.bytes? (Path.location path)).getD [] = bytes := by
      rcases hfile with hread | ⟨hnone, rfl⟩
      · obtain ⟨-, -, -, hbytes⟩ := contents_eq_ok_iff.mp hread
        rw [hbytes, Option.getD_some]
      · rw [hnone, Option.getD_none]
    rw [load_of_contents (contents_append_getD happended.append), hbytes, ofBytes_append_line,
      ofText_append_of_blank he hblank]
    rfl

def letter (c : Char) : Entry := ⟨[c], [c], [[c]]⟩

theorem legible_letter_b : (letter 'b').Legible := ⟨by decide, by decide, by decide⟩

theorem appended_is_inserted_behind_blank : ∃ fs',
    append ['l'] (letter 'b') (soleFile (Utf8.encode "a=a(a)\n\t".toList)) = (.ok (), fs') ∧
    load ['l'] fs' = (.ok ((empty.insert (letter 'a')).insert (letter 'b')), fs') := by
  have hread := contents_soleFile (Utf8.encode "a=a(a)\n\t".toList)
  have hblank : ∀ c ∈ unfinished (Utf8.decodeLossy (Utf8.encode "a=a(a)\n\t".toList)),
      isBlank c = true := by
    have hunfinished : unfinished "a=a(a)\n\t".toList = ['\t'] := rfl
    intro c hc
    rw [Utf8.decodeLossy_encode, hunfinished, List.mem_singleton] at hc
    rw [hc]
    rfl
  have hold : ofBytes (Utf8.encode "a=a(a)\n\t".toList) = empty.insert (letter 'a') := by
    decide +kernel
  obtain ⟨fs', happend⟩ := exists_append (letter 'b') hread rfl
  have hload := (appended_is_inserted_iff (Or.inl hread) rfl).mpr hblank (letter 'b') fs'
    legible_letter_b (Or.inl happend)
  rw [hold] at hload
  exact ⟨fs', happend, hload⟩

/-- In a file whose last line lacks its newline, the entry of `a` gets the line of `b` into its
draft, and there is no entry for `b`. -/
theorem appended_not_inserted_behind_letter : ∃ fs',
    append ['l'] (letter 'b') (soleFile (Utf8.encode "a=a(a)".toList)) = (.ok (), fs') ∧
    load ['l'] (soleFile (Utf8.encode "a=a(a)".toList)) =
      (.ok (empty.insert (letter 'a')), soleFile (Utf8.encode "a=a(a)".toList)) ∧
    load ['l'] fs' = (.ok (empty.insert ⟨['a'], "a(a)b=b".toList, [['b']]⟩), fs') ∧
    load ['l'] fs' ≠ (.ok ((empty.insert (letter 'a')).insert (letter 'b')), fs') := by
  have hread := contents_soleFile (Utf8.encode "a=a(a)".toList)
  have hold : ofBytes (Utf8.encode "a=a(a)".toList) = empty.insert (letter 'a') := by
    decide +kernel
  have hnew : ofBytes (Utf8.encode "a=a(a)".toList ++
      Utf8.encode ((letter 'b').toLine ++ ['\n'])) =
      empty.insert ⟨['a'], "a(a)b=b".toList, [['b']]⟩ := by decide +kernel
  obtain ⟨fs', happend⟩ := exists_append (letter 'b') hread rfl
  have hload := load_of_contents (contents_append hread happend)
  rw [hnew] at hload
  refine ⟨fs', happend, hold ▸ load_of_contents hread, hload, fun heq => ?_⟩
  have hsame := Except.ok.inj (congrArg Prod.fst (hload.symm.trans heq))
  exact absurd hsame (by decide)

end Ledger

end Phrasebook
