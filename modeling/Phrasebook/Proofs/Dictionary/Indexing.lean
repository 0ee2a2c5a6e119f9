import Mathlib.Data.Finset.Card
import Mathlib.Data.List.Induction
import Phrasebook.Dictionary.Reader
import Phrasebook.Proofs.Dictionary.Basic

/-!
The tables of a dictionary after any additions to it. A word whose key is taken is refused, so the
words have the keys in the order in which they came first, each with its first value.

In memory the words are found through an index that leads from a key to a place. What keeps the
two in step is that the index has a place for a key exactly if the word at that place has the key.
A new word comes to the place behind the others, and the index learns of it in the same addition.
-/

namespace Phrasebook

inductive Addition where
  | word (w : Word)
  | rule (r : Rule)
  | ignore (literal : Text)
  | exemption (e : Exemption)
  | known (token : Text)

namespace Addition

def word? : Addition → Option Word
  | .word w => some w
  | _ => none

def rule? : Addition → Option Rule
  | .rule r => some r
  | _ => none

def ignore? : Addition → Option Text
  | .ignore literal => some literal
  | _ => none

def exemption? : Addition → Option Exemption
  | .exemption e => some e
  | _ => none

def known? : Addition → Option Text
  | .known token => some token
  | _ => none

end Addition

/-- A text has the hash of its string. -/
instance : Hashable Text := ⟨fun t => hash (String.ofList t)⟩

/-- The tables as they are kept in memory. -/
structure Store where
  words : List Word := []
  /-- The place of each key among the words. -/
  index : Std.HashMap Text Nat := {}
  rules : List Rule := []
  ignores : List Text := []
  exemptions : List Exemption := []
  known : Std.HashSet Text := {}

namespace Store

def add (s : Store) : Addition → Except DuplicateKey Unit × Store
  | .word w =>
    if s.index.contains w.key then (.error ⟨w.key⟩, s)
    else
      (.ok (), { s with
        index := s.index.insert w.key s.words.length
        words := s.words ++ [w] })
  | .rule r => (.ok (), { s with rules := s.rules ++ [r] })
  | .ignore literal => (.ok (), { s with ignores := s.ignores ++ [literal] })
  | .exemption e => (.ok (), { s with exemptions := s.exemptions ++ [e] })
  | .known token => (.ok (), { s with known := s.known.insert token })

def ofAdditions (additions : List Addition) : Store :=
  additions.foldl (fun s a => (s.add a).2) {}

/-- The value of the word at the place of a key. There is no answer where the place lies behind
the last word. -/
def lookup (s : Store) (key : Text) : Option (Option Text) :=
  match s.index[key]? with
  | none => some none
  | some i => s.words[i]?.map fun w => some w.value

/-- The tables in memory are those of a dictionary, and the index leads to each word. -/
structure Represents (s : Store) (d : Dictionary) : Prop where
  words : s.words = d.words.entries
  index : ∀ (key : Text) (i : Nat), s.index[key]? = some i ↔
    (s.words.map Word.key)[i]? = some key
  rules : s.rules = d.rules
  ignores : s.ignores = d.ignores
  exemptions : s.exemptions = d.exemptions
  known : ∀ token, token ∈ s.known ↔ token ∈ d.known
  count : s.known.size = d.known.length

end Store

namespace Dictionary

def add (d : Dictionary) : Addition → Except DuplicateKey Dictionary
  | .word w => d.insertWord w.key w.value
  | .rule r => .ok (d.addRule r)
  | .ignore literal => .ok (d.addIgnore literal)
  | .exemption e => .ok (d.addExemption e)
  | .known token => .ok (d.addKnown token)

def addOrStay (d : Dictionary) (a : Addition) : Dictionary :=
  match d.add a with
  | .ok d' => d'
  | .error _ => d

def ofAdditions (additions : List Addition) : Dictionary := additions.foldl addOrStay {}

/-- A word is put behind the others, or refused because its key is taken. -/
theorem add_word_cases (d : Dictionary) (w : Word) :
    (w.key ∉ d.words.entries.map Word.key ∧ ∃ table : WordTable,
      d.add (.word w) = .ok { d with words := table } ∧
        table.entries = d.words.entries ++ [w]) ∨
    (w.key ∈ d.words.entries.map Word.key ∧ d.add (.word w) = .error ⟨w.key⟩) := by
  rcases d.words.insert_cases w with ⟨hfree, table, hinsert, hentries⟩ | ⟨htaken, hinsert⟩
  · refine Or.inl ⟨hfree, table, ?_, hentries⟩
    simp only [add, insertWord, hinsert]
    rfl
  · refine Or.inr ⟨htaken, ?_⟩
    simp only [add, insertWord, hinsert]
    rfl

/-- Nothing but a word is refused. -/
theorem add_eq_error_iff {d : Dictionary} {a : Addition} {e : DuplicateKey} :
    d.add a = .error e ↔
      ∃ w, a = .word w ∧ e = ⟨w.key⟩ ∧ w.key ∈ d.words.entries.map Word.key := by
  cases a with
  | word w =>
    rcases d.add_word_cases w with ⟨hfree, table, hadd, -⟩ | ⟨htaken, hadd⟩
    · rw [hadd]
      refine ⟨fun herror => (by cases herror), fun hword => ?_⟩
      obtain ⟨w', heq, -, htaken⟩ := hword
      cases heq
      exact absurd htaken hfree
    · rw [hadd]
      refine ⟨fun herror => ?_, fun hword => ?_⟩
      · cases herror
        exact ⟨w, rfl, rfl, htaken⟩
      · obtain ⟨w', heq, rfl, -⟩ := hword
        cases heq
        rfl
  | _ => simp [add]

end Dictionary

theorem eraseDups_concat_of_mem {keys : List Text} {key : Text} (h : key ∈ keys) :
    (keys ++ [key]).eraseDups = keys.eraseDups := by
  rw [List.eraseDups_append]
  simp [List.removeAll, h]

theorem eraseDups_concat_of_not_mem {keys : List Text} {key : Text} (h : key ∉ keys) :
    (keys ++ [key]).eraseDups = keys.eraseDups ++ [key] := by
  rw [List.eraseDups_append]
  simp [List.removeAll, h, List.eraseDups_cons]

namespace WordTable

/-- The table has the keys of some words in the order in which they come first, each with its
first value. -/
structure HasFirst (table : WordTable) (ws : List Word) : Prop where
  keys : table.entries.map Word.key = (ws.map Word.key).eraseDups
  values : ∀ key, table.lookup key = (ws.find? fun w => w.key == key).map Word.value

variable {table table' : WordTable} {ws : List Word} {w : Word}

theorem HasFirst.mem_keys_iff (h : table.HasFirst ws) {key : Text} :
    key ∈ table.entries.map Word.key ↔ key ∈ ws.map Word.key := by
  rw [h.keys, List.mem_eraseDups]

theorem HasFirst.concat_free (h : table.HasFirst ws) (hfree : w.key ∉ table.entries.map Word.key)
    (hentries : table'.entries = table.entries ++ [w]) : table'.HasFirst (ws ++ [w]) where
  keys := by
    rw [hentries, List.map_append, List.map_append, List.map_singleton, h.keys,
      eraseDups_concat_of_not_mem (mt h.mem_keys_iff.mpr hfree)]
  values := by
    intro key
    have hold := h.values key
    unfold lookup at hold ⊢
    rw [hentries, List.find?_append, List.find?_append, Option.map_or, Option.map_or, hold]

theorem HasFirst.concat_taken (h : table.HasFirst ws)
    (htaken : w.key ∈ table.entries.map Word.key) : table.HasFirst (ws ++ [w]) where
  keys := by
    rw [List.map_append, List.map_singleton, h.keys,
      eraseDups_concat_of_mem (h.mem_keys_iff.mp htaken)]
  values := by
    intro key
    rw [List.find?_append, Option.map_or, ← h.values key]
    by_cases hkey : w.key = key
    · -- The key has a value already, so the one that is refused does not count.
      obtain ⟨v, hv, hvkey⟩ := List.mem_map.mp htaken
      have hvalue : table.lookup key = some v.value :=
        lookup_eq_some_iff.mpr (by rwa [← hkey, ← hvkey])
      rw [hvalue, Option.some_or]
    · simp [hkey]

end WordTable

namespace Dictionary

/-- The tables hold what is in some lists: the words with the first value for each key, the tokens
each once, and the rest as it is. -/
structure Holds (d : Dictionary) (ws : List Word) (rules : List Rule) (ignores : List Text)
    (exemptions : List Exemption) (tokens : List Text) : Prop where
  words : d.words.HasFirst ws
  rules : d.rules = rules
  ignores : d.ignores = ignores
  exemptions : d.exemptions = exemptions
  known : ∀ token, token ∈ d.known ↔ token ∈ tokens
  once : d.known.Nodup

def HoldsAll (d : Dictionary) (additions : List Addition) : Prop :=
  d.Holds (additions.filterMap Addition.word?) (additions.filterMap Addition.rule?)
    (additions.filterMap Addition.ignore?) (additions.filterMap Addition.exemption?)
    (additions.filterMap Addition.known?)

theorem filterMap_concat {α β : Type} (f : α → Option β) (as : List α) (a : α) :
    (as ++ [a]).filterMap f = as.filterMap f ++ (f a).toList := by
  rw [List.filterMap_append]
  cases h : f a <;> simp [h]

/-- Each addition goes to the table of its kind. -/
theorem HoldsAll.concat {d : Dictionary} {additions : List Addition} (h : d.HoldsAll additions)
    (a : Addition) : (d.addOrStay a).HoldsAll (additions ++ [a]) := by
  unfold HoldsAll at h ⊢
  cases a <;> simp only [filterMap_concat, Addition.word?, Addition.rule?, Addition.ignore?,
    Addition.exemption?, Addition.known?, Option.toList_none, Option.toList_some, List.append_nil]
  case word w =>
    rcases d.add_word_cases w with ⟨hfree, table, hadd, hentries⟩ | ⟨htaken, hadd⟩
    · simp only [addOrStay, hadd]
      exact { h with words := h.words.concat_free hfree hentries }
    · simp only [addOrStay, hadd]
      exact { h with words := h.words.concat_taken htaken }
  case rule r => exact { h with rules := congrArg (· ++ [r]) h.rules }
  case ignore literal => exact { h with ignores := congrArg (· ++ [literal]) h.ignores }
  case exemption e => exact { h with exemptions := congrArg (· ++ [e]) h.exemptions }
  case known token =>
    refine { h with known := fun t => ?_, once := h.once.insert }
    rw [List.mem_append, List.mem_singleton, ← h.known t]
    exact List.mem_insert_iff.trans or_comm

theorem holdsAll_ofAdditions (additions : List Addition) :
    (ofAdditions additions).HoldsAll additions := by
  induction additions using List.reverseRecOn with
  | nil => exact ⟨⟨rfl, fun _ => rfl⟩, rfl, rfl, rfl, fun _ => Iff.rfl, List.nodup_nil⟩
  | append_singleton additions a ih =>
    rw [ofAdditions, List.foldl_concat]
    exact ih.concat a

end Dictionary

namespace Store

theorem getElem?_concat_eq_some_iff {keys : List Text} {key other : Text} {i : Nat} :
    (keys ++ [key])[i]? = some other ↔
      keys[i]? = some other ∨ (i = keys.length ∧ key = other) := by
  rcases Nat.lt_trichotomy i keys.length with hlt | rfl | hgt
  · rw [List.getElem?_append_left hlt]
    simp [Nat.ne_of_lt hlt]
  · simp
  · have hlength : (keys ++ [key]).length ≤ i := by
      rw [List.length_append, List.length_singleton]
      exact hgt
    simp [List.getElem?_eq_none hlength, List.getElem?_eq_none (Nat.le_of_lt hgt),
      Nat.ne_of_gt hgt]

namespace Represents

variable {s : Store} {d : Dictionary}

/-- The index has a place for a key if a word has the key. -/
theorem contains_iff (h : s.Represents d) {key : Text} :
    s.index.contains key = true ↔ key ∈ d.words.entries.map Word.key := by
  rw [Std.HashMap.contains_eq_isSome_getElem?, Option.isSome_iff_exists, ← h.words,
    List.mem_iff_getElem?]
  exact exists_congr fun i => h.index key i

/-- The index never leads behind the last word. -/
theorem lookup_eq (h : s.Represents d) (key : Text) : s.lookup key = some (d.lookup key) := by
  unfold lookup
  cases hplace : s.index[key]? with
  | none =>
    have hmiss : s.index.contains key = false := by
      rw [Std.HashMap.contains_eq_isSome_getElem?, hplace, Option.isSome_none]
    have hnone : d.lookup key = none := by
      refine Option.eq_none_iff_forall_ne_some.mpr fun value hvalue => ?_
      have hmem := List.mem_map_of_mem (f := Word.key) (WordTable.lookup_eq_some_iff.mp hvalue)
      rw [h.contains_iff.mpr hmem] at hmiss
      cases hmiss
    rw [hnone]
  | some i =>
    have hkey := (h.index key i).mp hplace
    rw [List.getElem?_map] at hkey
    obtain ⟨w, hw, rfl⟩ := Option.map_eq_some_iff.mp hkey
    have hvalue : d.lookup w.key = some w.value :=
      WordTable.lookup_eq_some_iff.mpr (h.words ▸ List.mem_of_getElem? hw)
    simp only [hw, hvalue, Option.map_some]

/-- A new word and its place. -/
theorem add_word (h : s.Represents d) {w : Word} {table : WordTable}
    (hfree : w.key ∉ d.words.entries.map Word.key)
    (hentries : table.entries = d.words.entries ++ [w]) :
    Represents { s with
      index := s.index.insert w.key s.words.length
      words := s.words ++ [w] } { d with words := table } := by
  refine { h with words := ?_, index := fun key i => ?_ }
  · rw [h.words, hentries]
  · rw [List.map_append, List.map_singleton, getElem?_concat_eq_some_iff,
      Std.HashMap.getElem?_insert, List.length_map]
    by_cases hkey : w.key = key
    · -- No word had the key, so its place is the one behind the others and no other.
      subst hkey
      have hnone : (s.words.map Word.key)[i]? ≠ some w.key := fun hsome =>
        hfree (h.words ▸ List.mem_of_getElem? hsome)
      rw [if_pos (beq_self_eq_true w.key), Option.some.injEq, or_iff_right hnone,
        and_iff_left rfl, eq_comm]
    · rw [if_neg (by simpa using hkey), h.index, or_iff_left fun hlast => hkey hlast.2]

/-- Each addition does the same to the tables and to the dictionary, and changes nothing where it
is refused. -/
theorem add (h : s.Represents d) (a : Addition) :
    (∃ d', d.add a = .ok d' ∧ (s.add a).1 = .ok () ∧ (s.add a).2.Represents d') ∨
    ∃ e, d.add a = .error e ∧ s.add a = (.error e, s) := by
  cases a with
  | word w =>
    rcases d.add_word_cases w with ⟨hfree, table, hadd, hentries⟩ | ⟨htaken, hadd⟩
    · have hmiss : ¬ s.index.contains w.key = true := mt h.contains_iff.mp hfree
      refine Or.inl ⟨_, hadd, ?_⟩
      simp only [Store.add, if_neg hmiss]
      exact ⟨trivial, h.add_word hfree hentries⟩
    · exact Or.inr ⟨_, hadd, if_pos (h.contains_iff.mpr htaken)⟩
  | rule r => exact Or.inl ⟨_, rfl, rfl, { h with rules := congrArg (· ++ [r]) h.rules }⟩
  | ignore literal =>
    exact Or.inl ⟨_, rfl, rfl, { h with ignores := congrArg (· ++ [literal]) h.ignores }⟩
  | exemption e =>
    exact Or.inl ⟨_, rfl, rfl, { h with exemptions := congrArg (· ++ [e]) h.exemptions }⟩
  | known token =>
    refine Or.inl ⟨_, rfl, rfl, { h with known := fun t => ?_, count := ?_ }⟩
    · have hinsert : t ∈ s.known.insert token ↔ t = token ∨ t ∈ s.known := by
        rw [Std.HashSet.mem_insert, beq_iff_eq, eq_comm]
      exact hinsert.trans ((or_congr_right (h.known t)).trans List.mem_insert_iff.symm)
    · simp only [Store.add, Dictionary.addKnown, Std.HashSet.size_insert, List.length_insert,
        h.known token, h.count]
      split <;> rfl

theorem after (h : s.Represents d) (a : Addition) : (s.add a).2.Represents (d.addOrStay a) := by
  unfold Dictionary.addOrStay
  rcases h.add a with ⟨d', hd, -, hrepresents⟩ | ⟨e, hd, hs⟩
  · rwa [hd]
  · rwa [hd, hs]

end Represents

/-- The tables in memory stay in step with the dictionary. -/
theorem represents_ofAdditions (additions : List Addition) :
    (ofAdditions additions).Represents (Dictionary.ofAdditions additions) := by
  -- By induction from the end: the last addition is made to tables that are in step.
  induction additions using List.reverseRecOn with
  | nil =>
    exact ⟨rfl, fun key i => by simp [ofAdditions], rfl, rfl, rfl,
      fun token => by simp [ofAdditions, Dictionary.ofAdditions], rfl⟩
  | append_singleton additions a ih =>
    rw [ofAdditions, Dictionary.ofAdditions, List.foldl_concat, List.foldl_concat]
    exact ih.after a

theorem Represents.add_eq_error_iff {s s' : Store} {d : Dictionary} (h : s.Represents d)
    {a : Addition} {e : DuplicateKey} :
    s.add a = (.error e, s') ↔ s' = s ∧ d.add a = .error e := by
  rcases h.add a with ⟨d', hd, hs, -⟩ | ⟨e', hd, hs⟩
  · rw [hd]
    refine ⟨fun herror => ?_, fun herror => (by cases herror.2)⟩
    rw [herror] at hs
    cases hs
  · rw [hd, hs, Prod.mk.injEq, Except.error.injEq, Except.error.injEq, eq_comm (a := s), and_comm]

end Store

namespace Dictionary

/-- What can be said of a dictionary and of its tables in memory after some additions. A word is
refused if its key is taken, and nothing else is; what is refused changes no table. -/
structure InStep (d : Dictionary) (s : Store) (additions : List Addition) : Prop where
  holds : d.HoldsAll additions
  distinct : (d.words.entries.map Word.key).Nodup
  found : ∀ key value, d.lookup key = some value ↔ ⟨key, value⟩ ∈ d.words.entries
  count : d.known.length = (additions.filterMap Addition.known?).toFinset.card
  refused : ∀ a e, d.add a = .error e ↔
    ∃ w, a = .word w ∧ e = ⟨w.key⟩ ∧ w.key ∈ d.words.entries.map Word.key
  represents : s.Represents d
  within : ∀ (key : Text) (i : Nat), s.index[key]? = some i → i < s.words.length
  reads : ∀ key, s.lookup key = some (d.lookup key)
  unchanged : ∀ a e s', s.add a = (.error e, s') ↔ s' = s ∧ d.add a = .error e

/-- Whatever is added, in whatever order and whether it is refused or not, the tables stay in
step. -/
theorem tables_in_step (additions : List Addition) :
    (ofAdditions additions).InStep (Store.ofAdditions additions) additions := by
  have hholds := holdsAll_ofAdditions additions
  have hrepresents := Store.represents_ofAdditions additions
  refine ⟨hholds, (ofAdditions additions).words.distinct, fun _ _ => WordTable.lookup_eq_some_iff,
    ?_, fun _ _ => add_eq_error_iff, hrepresents, ?_, hrepresents.lookup_eq,
    fun _ _ _ => hrepresents.add_eq_error_iff⟩
  · rw [← List.toFinset_card_of_nodup hholds.once]
    congr 1
    ext token
    rw [List.mem_toFinset, List.mem_toFinset, hholds.known]
  · intro key i hplace
    have hlt := (List.getElem?_eq_some_iff.mp ((hrepresents.index key i).mp hplace)).1
    rwa [List.length_map] at hlt

end Dictionary

namespace DictionaryReader

/-- A line adds something to the dictionary, or nothing. -/
theorem entry_cases {d d' : Dictionary} {line : Text} {place : Section}
    (h : entry d line place = .ok d') : d' = d ∨ ∃ a, d.add a = .ok d' := by
  cases place with
  | ignore =>
    cases h
    exact Or.inr ⟨.ignore line, rfl⟩
  | known =>
    cases h
    exact Or.inr ⟨.known line, rfl⟩
  | exemption =>
    simp only [entry] at h
    split at h
    · rename_i e _
      cases h
      exact Or.inr ⟨.exemption e, rfl⟩
    · cases h
  | rule =>
    simp only [entry] at h
    split at h
    · cases h
      exact Or.inl rfl
    · split at h
      · rename_i r _
        cases h
        exact Or.inr ⟨.rule r, rfl⟩
      · cases h
  | word =>
    simp only [entry] at h
    split at h
    · cases h
      exact Or.inl rfl
    · rename_i key value _
      split at h
      · rename_i d'' hinsert
        cases h
        exact Or.inr ⟨.word ⟨key, value⟩, hinsert⟩
      · cases h

theorem exists_ofAdditions_of_line {r r' : DictionaryReader} {line : Text}
    (h : r.line line = .ok r') (hbefore : ∃ as, r.dictionary = .ofAdditions as) :
    ∃ as, r'.dictionary = .ofAdditions as := by
  unfold DictionaryReader.line at h
  split at h
  · cases h
    exact hbefore
  · split at h
    · cases h
      exact hbefore
    · cases hentry : entry r.dictionary line r.current with
      | error fault =>
        rw [hentry] at h
        cases h
      | ok d =>
        rw [hentry] at h
        cases h
        rcases entry_cases hentry with rfl | ⟨a, hadd⟩
        · exact hbefore
        · obtain ⟨as, hdictionary⟩ := hbefore
          refine ⟨as ++ [a], ?_⟩
          rw [Dictionary.ofAdditions, List.foldl_concat, ← Dictionary.ofAdditions, ← hdictionary,
            Dictionary.addOrStay, hadd]

theorem exists_ofAdditions_of_linesFrom {r r' : DictionaryReader} {n : Nat} {raws : List Text}
    (h : r.linesFrom n raws = .ok r') (hbefore : ∃ as, r.dictionary = .ofAdditions as) :
    ∃ as, r'.dictionary = .ofAdditions as := by
  induction raws generalizing r n with
  | nil =>
    cases h
    exact hbefore
  | cons raw raws ih =>
    simp only [linesFrom] at h
    split at h
    · rename_i hline
      exact ih h (exists_ofAdditions_of_line hline hbefore)
    · cases h

end DictionaryReader

/-- Every dictionary that is read from a text comes of additions. -/
theorem Dictionary.exists_ofAdditions_of_read {content : Text} {d : Dictionary}
    (h : Dictionary.read content = .ok d) : ∃ additions, d = ofAdditions additions := by
  unfold Dictionary.read at h
  cases hlines : DictionaryReader.linesFrom {} 1 (Text.lines content) with
  | error e =>
    rw [hlines] at h
    cases h
  | ok r =>
    rw [hlines] at h
    cases h
    exact DictionaryReader.exists_ofAdditions_of_linesFrom hlines ⟨[], rfl⟩

end Phrasebook
