import Mathlib.Data.List.Induction
import Phrasebook.Dictionary.Reader

/-!
Where the lines of a dictionary text belong. A line stands in the section of the last marker
before it whose label is known, however often a section comes back and whatever lies between its
parts. So the entries of a section can be told from the lines alone, without a reader that keeps a
state, and one line more adds at most one entry.
-/

namespace Phrasebook

open Text DictionaryReader

namespace Section

/-- The section behind some lines: that of the last marker among them whose label is known, and
the words if there is none. -/
def behind (before : List Text) : Section :=
  ((before.filterMap label?).filterMap ofLabel?).getLastD .word

def isEntry (line : Text) : Bool := !line.isEmpty && (label? line).isNone

def entriesIn (s : Section) (ls : List Text) : List Text :=
  (ls.zipIdx.filter fun (line, n) => isEntry line && behind (ls.take n) == s).map Prod.fst

def pairsIn (s : Section) (ls : List Text) : List (Text × Text) :=
  (entriesIn s ls).filterMap pair?

def Begins (s : Section) (line : Text) : Prop := ∃ label, label? line = some label ∧
  ofLabel? label = some s

theorem label?_of_isEntry {line : Text} (h : isEntry line = true) : label? line = none := by
  rw [isEntry, Bool.and_eq_true, Option.isNone_iff_eq_none] at h
  exact h.2

/-- Only a marker whose label is known changes the section. -/
theorem behind_concat (ls : List Text) (line : Text) :
    behind (ls ++ [line]) = ((label? line).bind ofLabel?).getD (behind ls) := by
  unfold behind
  cases hlabel : label? line with
  | none => simp [hlabel]
  | some label => cases hknown : ofLabel? label <;> simp [hlabel, hknown]

theorem behind_concat_of_isEntry (ls : List Text) {line : Text} (h : isEntry line = true) :
    behind (ls ++ [line]) = behind ls := by
  rw [behind_concat, label?_of_isEntry h]
  rfl

/-- One line more is one entry more, in the section behind the others, or none. -/
theorem entriesIn_concat (s : Section) (ls : List Text) (line : Text) :
    entriesIn s (ls ++ [line]) =
      entriesIn s ls ++ if isEntry line = true ∧ behind ls = s then [line] else [] := by
  have hbefore : (ls.zipIdx.filter fun (l, n) => isEntry l && behind ((ls ++ [line]).take n) == s) =
      ls.zipIdx.filter fun (l, n) => isEntry l && behind (ls.take n) == s := by
    refine List.filter_congr fun p hp => ?_
    have hlt := List.snd_lt_of_mem_zipIdx hp
    simp only [List.take_append_of_le_length (show p.2 ≤ ls.length by omega)]
  rw [entriesIn, List.zipIdx_append, List.filter_append, List.map_append, hbefore]
  refine congrArg (entriesIn s ls ++ ·) ?_
  simp only [List.zipIdx_singleton, Nat.zero_add, List.filter_cons, List.filter_nil,
    List.take_left, Bool.and_eq_true, beq_iff_eq]
  split
  · rfl
  · rfl

theorem pairsIn_concat (s : Section) (ls : List Text) (line : Text) :
    pairsIn s (ls ++ [line]) = pairsIn s ls ++
      if isEntry line = true ∧ behind ls = s then (pair? line).toList else [] := by
  rw [pairsIn, entriesIn_concat, List.filterMap_append]
  split
  · cases hpair : pair? line <;> simp [pairsIn, hpair]
  · simp [pairsIn]

/-- What stands in a section stays there if lines follow. -/
theorem entriesIn_grows (s : Section) (ls more : List Text) :
    entriesIn s ls <+: entriesIn s (ls ++ more) := by
  induction more using List.reverseRecOn with
  | nil => simp
  | append_singleton more line ih =>
    rw [← List.append_assoc, entriesIn_concat]
    exact ih.trans (List.prefix_append _ _)

theorem pairsIn_grows (s : Section) (ls more : List Text) :
    pairsIn s ls <+: pairsIn s (ls ++ more) :=
  (entriesIn_grows s ls more).filterMap pair?

/-- Lines that are all entries belong to the section behind which they stand. -/
theorem entriesIn_append_of_isEntry (s : Section) (ls : List Text) {more : List Text}
    (h : ∀ line ∈ more, isEntry line = true) :
    behind (ls ++ more) = behind ls ∧
      entriesIn s (ls ++ more) = entriesIn s ls ++ if behind ls = s then more else [] := by
  induction more using List.reverseRecOn with
  | nil => simp
  | append_singleton more line ih =>
    obtain ⟨hbehind, hentries⟩ := ih fun l hl => h l (List.mem_append_left _ hl)
    have hline := h line (List.mem_append_right _ (List.mem_singleton_self line))
    rw [← List.append_assoc, behind_concat_of_isEntry _ hline, entriesIn_concat, hbehind, hentries]
    refine ⟨rfl, ?_⟩
    by_cases hs : behind ls = s
    · simp [hline, hs]
    · simp [hs]

/-- An entry in front of all other lines is a word, and does not move the others. -/
theorem entriesIn_cons_of_isEntry (s : Section) {line : Text} (ls : List Text)
    (h : isEntry line = true) :
    behind (line :: ls) = behind ls ∧
      entriesIn s (line :: ls) = (if s = .word then [line] else []) ++ entriesIn s ls := by
  induction ls using List.reverseRecOn with
  | nil =>
    have hsole : ∀ l ∈ [line], isEntry l = true := List.forall_mem_singleton.mpr h
    obtain ⟨hbehind, hentries⟩ := entriesIn_append_of_isEntry s [] hsole
    refine ⟨hbehind, hentries.trans ?_⟩
    simp only [entriesIn, behind, List.zipIdx_nil, List.filter_nil, List.map_nil,
      List.filterMap_nil, List.getLastD_nil, List.nil_append, List.append_nil, eq_comm]
  | append_singleton ls last ih =>
    obtain ⟨hbehind, hentries⟩ := ih
    rw [← List.cons_append, behind_concat, behind_concat, entriesIn_concat, entriesIn_concat,
      hbehind, hentries, List.append_assoc]
    exact ⟨rfl, rfl⟩

/-- A marker is no entry, and its section stands behind it. -/
theorem Begins.entriesIn_concat {s : Section} {line : Text} (h : Begins s line) (s' : Section)
    (ls : List Text) :
    behind (ls ++ [line]) = s ∧ entriesIn s' (ls ++ [line]) = entriesIn s' ls := by
  obtain ⟨label, hlabel, hknown⟩ := h
  have hentry : isEntry line = false := by simp [isEntry, hlabel]
  rw [behind_concat, Section.entriesIn_concat, hentry, hlabel, Option.bind_some, hknown]
  simp

end Section

end Phrasebook
