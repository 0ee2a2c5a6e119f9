import Mathlib.Data.List.Basic
import Mathlib.Data.List.Induction
import Phrasebook.Ledger.Basic
import Phrasebook.Proofs.Line.RoundTrip

/-!
Entries on lines, and entries by their inputs. A line is read back as the entry it was written
for exactly if there is an input and the tokens hold nothing that stands before or between tokens,
as tokens of a resolution never do. Whatever else is read as an entry is of the same kind. The
lines of a file are read as if their entries were put into the empty ledger one by one.
-/

namespace Phrasebook

open Text

/-- The tokens of a resolution are runs of letters. -/
theorem Dictionary.of_mem_tokens {d : Dictionary} {t token : Text}
    (h : token ∈ (d.resolve t).tokens) : token ≠ [] ∧ ∀ c ∈ token, isLetter c = true := by
  have hliterals : ∀ t, ∀ token ∈ (Resolution.ofLiterals d t).tokens,
      token ≠ [] ∧ ∀ c ∈ token, isLetter c = true := by
    intro t token htoken
    unfold Resolution.ofLiterals at htoken
    dsimp only at htoken
    split at htoken
    · cases htoken
    · exact of_mem_runs (List.mem_filter.mp htoken).1
  unfold resolve at h
  split at h
  · cases h
  split at h
  · cases h
  · dsimp only at h
    split at h
    · cases h
    · exact hliterals _ _ h

namespace Entry

/-- What an entry needs in order to be read back from its line. -/
structure Legible (e : Entry) : Prop where
  input_ne : e.input ≠ []
  token_ne : ∀ token ∈ e.tokens, token ≠ []
  token_free : ∀ token ∈ e.tokens, ',' ∉ token ∧ '(' ∉ token

theorem legible_ofResolution (d : Dictionary) {t : Text} (h : t ≠ []) :
    (ofResolution t (d.resolve t)).Legible where
  input_ne := h
  token_ne := fun _ htoken => (Dictionary.of_mem_tokens htoken).1
  token_free := by
    intro token htoken
    have hletters := (Dictionary.of_mem_tokens htoken).2
    refine ⟨fun hmem => ?_, fun hmem => ?_⟩
    · exact absurd (hletters _ hmem) (by decide)
    · exact absurd (hletters _ hmem) (by decide)

theorem not_mem_intercalate {c : Char} (hcomma : c ≠ ',') {tokens : List Text}
    (h : ∀ token ∈ tokens, c ∉ token) : c ∉ [','].intercalate tokens := by
  induction tokens with
  | nil => simp
  | cons token tokens ih =>
    have htoken := h token List.mem_cons_self
    have hothers := ih fun t ht => h t (List.mem_cons_of_mem token ht)
    cases tokens with
    | nil => simpa using htoken
    | cons next tokens =>
      rw [List.intercalate_cons_cons]
      simp only [List.mem_append, List.mem_singleton, not_or]
      exact ⟨⟨htoken, hcomma⟩, hothers⟩

/-- The draft and the tokens are found again in a summary, whatever the draft holds. -/
theorem splitSummary_summary {e : Entry} (h : e.Legible) :
    splitSummary e.summary = (e.draft, e.tokens) := by
  have hbody : ∀ c ∈ ([','].intercalate e.tokens).reverse, (c != '(') = true := by
    intro c hc
    have hne : c ≠ '(' := by
      intro heq
      subst heq
      exact not_mem_intercalate (by decide) (fun token ht => (h.token_free token ht).2)
        (List.mem_reverse.mp hc)
    simpa using hne
  have hreverse : e.summary.reverse =
      ')' :: (([','].intercalate e.tokens).reverse ++ '(' :: e.draft.reverse) := by
    simp [summary]
  rw [splitSummary, hreverse]
  simp only [List.dropWhile_append_of_pos hbody, List.takeWhile_append_of_pos hbody,
    List.dropWhile_cons_of_neg, List.takeWhile_cons_of_neg, bne_self_eq_false,
    Bool.false_eq_true, not_false_eq_true, List.append_nil, List.reverse_reverse]
  rw [runs_intercalate h.token_ne fun token ht => (h.token_free token ht).1]

/-- A line is read as an entry if it is a pair, neither side is empty and the entry has the key as
its input and the parts of the value. -/
theorem ofLine?_eq_some_iff {raw : Text} {e : Entry} : ofLine? raw = some e ↔ ∃ value,
    Line.decode? (trim raw) = some (e.input, value) ∧ e.input ≠ [] ∧ value ≠ [] ∧
      splitSummary value = (e.draft, e.tokens) := by
  unfold ofLine?
  cases hdecode : Line.decode? (trim raw) with
  | none => simp
  | some pair =>
    obtain ⟨input, value⟩ := pair
    obtain ⟨_, draft, tokens⟩ := e
    simp only [Option.some.injEq, Prod.mk.injEq]
    constructor
    · intro hread
      split at hread
      · cases hread
      · rename_i hsides
        cases hread
        simp only [Bool.or_eq_true, List.isEmpty_iff, not_or] at hsides
        exact ⟨value, ⟨rfl, rfl⟩, hsides.1, hsides.2, rfl⟩
    · intro hpair
      obtain ⟨_, ⟨rfl, rfl⟩, hinput, hvalue, hparts⟩ := hpair
      rw [if_neg (by simp [hinput, hvalue]), hparts]

/-- The line of an entry with an input is read as an entry for this input, whatever the tokens
hold. -/
theorem ofLine?_toLine_eq {e : Entry} (h : e.input ≠ []) :
    ofLine? e.toLine = some ⟨e.input, (splitSummary e.summary).1, (splitSummary e.summary).2⟩ := by
  have hsummary : e.summary ≠ [] := by simp [summary]
  refine ofLine?_eq_some_iff.mpr ⟨e.summary, ?_, h, hsummary, rfl⟩
  rw [toLine, Line.trim_encode, Line.decode?_encode]

/-- An entry is read back from its line. -/
theorem ofLine?_toLine {e : Entry} (h : e.Legible) : ofLine? e.toLine = some e := by
  rw [ofLine?_toLine_eq h.input_ne, splitSummary_summary h]

/-- A token that is found in a value is not empty and holds nothing that stands before or between
tokens. -/
theorem of_mem_splitSummary {value token : Text} (h : token ∈ (splitSummary value).2) :
    token ≠ [] ∧ ',' ∉ token ∧ '(' ∉ token := by
  unfold splitSummary at h
  split at h
  · split at h
    · cases h
    · obtain ⟨hne, hcomma⟩ := of_mem_runs h
      refine ⟨hne, fun hmem => by simpa using hcomma _ hmem, fun hmem => ?_⟩
      have hbody := List.mem_takeWhile_imp (List.mem_reverse.mp (mem_of_mem_runs h hmem))
      simp at hbody
  · cases h

/-- What is read from a line can be read back, whatever the line is. -/
theorem legible_of_ofLine? {raw : Text} {e : Entry} (h : ofLine? raw = some e) : e.Legible := by
  obtain ⟨value, -, hinput, -, hparts⟩ := ofLine?_eq_some_iff.mp h
  have htokens : ∀ token ∈ e.tokens, token ≠ [] ∧ ',' ∉ token ∧ '(' ∉ token := by
    intro token htoken
    have hmem : token ∈ (splitSummary value).2 := by rwa [hparts]
    exact of_mem_splitSummary hmem
  exact ⟨hinput, fun token ht => (htokens token ht).1, fun token ht => (htokens token ht).2⟩

/-- An entry is read back from its line exactly if it has an input and each of its tokens is not
empty and holds neither a comma nor an opening parenthesis. So what a dictionary makes of a text
is always read back, whatever the text and the draft hold. -/
theorem read_back_iff :
    (∀ e : Entry, ofLine? e.toLine = some e ↔
      e.input ≠ [] ∧ ∀ token ∈ e.tokens, token ≠ [] ∧ ',' ∉ token ∧ '(' ∉ token) ∧
    ∀ (d : Dictionary) (t : Text), t ≠ [] →
      ofLine? (ofResolution t (d.resolve t)).toLine = some (ofResolution t (d.resolve t)) := by
  refine ⟨fun e => ⟨fun hread => ?_, fun hplain => ?_⟩, fun d t ht => ?_⟩
  · have hlegible := legible_of_ofLine? hread
    exact ⟨hlegible.input_ne, fun token ht =>
      ⟨hlegible.token_ne token ht, hlegible.token_free token ht⟩⟩
  · obtain ⟨hinput, htokens⟩ := hplain
    exact ofLine?_toLine ⟨hinput, fun token ht => (htokens token ht).1,
      fun token ht => (htokens token ht).2⟩
  · exact ofLine?_toLine (legible_ofResolution d ht)

def nested : Entry := ⟨"=(a,b)\n".toList, "a(b,c)=(".toList, ["d".toList, "e)".toList]⟩

def joined : Entry := ⟨"a".toList, "a".toList, ["b,c".toList]⟩

/-- The first of these entries is read back and the second is not; and a text with all that stands
between the parts of a line is read back with what an empty dictionary makes of it. -/
theorem read_back_nested :
    ofLine? nested.toLine = some nested ∧ ofLine? joined.toLine ≠ some joined ∧
    ofLine? (ofResolution "a(b,=\n".toList (({} : Dictionary).resolve "a(b,=\n".toList)).toLine =
      some ⟨"a(b,=\n".toList, "a(b,=\n".toList, ["a".toList, "b".toList]⟩ := by
  refine ⟨(read_back_iff.1 nested).mpr ⟨by decide, by decide⟩, fun hread => ?_,
    read_back_iff.2 {} _ (by decide)⟩
  have htokens := ((read_back_iff.1 joined).mp hread).2
  exact absurd htokens (by decide)

theorem ne_of_mem_toLine {e : Entry} {c : Char} (h : c ∈ e.toLine) : c ≠ '\n' ∧ c ≠ '\r' :=
  Line.ne_of_mem_encode h

end Entry

namespace Ledger

/-- An entry hides the old one for its input and nothing else. -/
theorem find?_insertEntry (e : Entry) (l : List Entry) (input : Text) :
    (insertEntry e l).find? (·.input == input) =
      if e.input = input then some e else l.find? (·.input == input) := by
  induction l with
  | nil =>
    by_cases h : e.input = input
    · simp [insertEntry, h]
    · simp [insertEntry, h]
  | cons a l ih =>
    simp only [insertEntry]
    split
    · by_cases h : e.input = input
      · simp [h]
      · simp [List.find?_cons, h]
    split
    · rename_i heq
      by_cases h : e.input = input
      · simp [h]
      · have ha : (a.input == input) = false := by simpa [heq] using h
        simp [h, ha]
    · rename_i hne
      by_cases ha : a.input = input
      · have h : ¬ e.input = input := fun heq => hne (heq.trans ha.symm)
        simp [ha, h]
      · have hbeq : (a.input == input) = false := by simpa using ha
        simp only [List.find?_cons, hbeq, ih]

theorem get?_insert (l : Ledger) (e : Entry) (input : Text) :
    (l.insert e).get? input = if e.input = input then some e else l.get? input :=
  find?_insertEntry e l.entries input

theorem contains_insert {l : Ledger} {e : Entry} {input : Text} :
    (l.insert e).contains input = true ↔ e.input = input ∨ l.contains input = true := by
  rw [contains, get?_insert]
  split
  · simp [*]
  · simp [*, contains]

theorem mem_of_get? {l : Ledger} {e : Entry} {input : Text} (h : l.get? input = some e) :
    e ∈ l.entries ∧ e.input = input :=
  ⟨List.mem_of_find?_eq_some h, by simpa using List.find?_some h⟩

/-- Each entry is the one that its input leads to. -/
theorem get?_of_mem {l : Ledger} {e : Entry} (h : e ∈ l.entries) : l.get? e.input = some e := by
  obtain ⟨entries, hordered⟩ := l
  simp only [get?] at h ⊢
  induction entries with
  | nil => cases h
  | cons a entries ih =>
    obtain ⟨hhead, htail⟩ := List.pairwise_cons.mp hordered
    rcases List.mem_cons.mp h with rfl | hmem
    · simp
    · have hne : a.input ≠ e.input := by
        intro heq
        have hlt := hhead e hmem
        rw [heq, precedes_irrefl] at hlt
        cases hlt
      have hbeq : (a.input == e.input) = false := by simpa using hne
      rw [List.find?_cons, hbeq]
      exact ih htail hmem

theorem contains_iff {l : Ledger} {input : Text} :
    l.contains input = true ↔ ∃ e ∈ l.entries, e.input = input := by
  rw [contains, Option.isSome_iff_exists]
  constructor
  · intro hfound
    obtain ⟨e, he⟩ := hfound
    exact ⟨e, mem_of_get? he⟩
  · intro hmem
    obtain ⟨e, he, rfl⟩ := hmem
    exact ⟨e, get?_of_mem he⟩

theorem mem_inputs {l : Ledger} {input : Text} : input ∈ l.inputs ↔ l.contains input = true := by
  rw [inputs, List.mem_map, contains_iff]

/-- No input comes twice. -/
theorem nodup_inputs (l : Ledger) : l.inputs.Nodup := by
  refine List.pairwise_map.mpr (l.ordered.imp fun {a b} hlt heq => ?_)
  rw [heq, precedes_irrefl] at hlt
  cases hlt

theorem ext {l l' : Ledger} (h : l.entries = l'.entries) : l = l' := by
  cases l
  cases l'
  cases h
  rfl

theorem nodup_entries (l : Ledger) : l.entries.Nodup := by
  refine l.ordered.imp fun {a b} hlt heq => ?_
  rw [heq, precedes_irrefl] at hlt
  cases hlt

/-- A ledger is told by what its inputs lead to. -/
theorem ext_get? {l l' : Ledger} (h : ∀ input, l.get? input = l'.get? input) : l = l' := by
  have hsub : ∀ {l l' : Ledger}, (∀ input, l.get? input = l'.get? input) →
      ∀ e ∈ l.entries, e ∈ l'.entries := by
    intro l l' h e he
    exact (mem_of_get? ((h e.input).symm.trans (get?_of_mem he))).1
  have hperm : l.entries.Perm l'.entries := by
    refine (List.perm_ext_iff_of_nodup l.nodup_entries l'.nodup_entries).mpr fun e => ?_
    exact ⟨hsub h e, hsub (fun input => (h input).symm) e⟩
  refine ext (hperm.eq_of_pairwise (fun a b _ _ hab hba => ?_) l.ordered l'.ordered)
  have hcycle := precedes_trans hab hba
  rw [precedes_irrefl] at hcycle
  cases hcycle

theorem insertEntry_of_forall_precedes {e : Entry} {l : List Entry}
    (h : ∀ a ∈ l, precedes a.input e.input = true) : insertEntry e l = l ++ [e] := by
  induction l with
  | nil => rfl
  | cons a l ih =>
    have ha := h a List.mem_cons_self
    have hne : ¬ e.input = a.input := by
      intro heq
      rw [heq, precedes_irrefl] at ha
      cases ha
    have hnot : ¬ precedes e.input a.input = true := by
      intro hlt
      have hcycle := precedes_trans hlt ha
      rw [precedes_irrefl] at hcycle
      cases hcycle
    rw [insertEntry, if_neg hnot, if_neg hne, ih fun b hb => h b (List.mem_cons_of_mem a hb)]
    rfl

/-- Entries in order make the ledger that they are the entries of. -/
theorem foldl_insert_entries (l : Ledger) : l.entries.foldl insert empty = l := by
  have hentries : ∀ es : List Entry, es.Pairwise (fun a b => precedes a.input b.input) →
      (es.foldl insert empty).entries = es := by
    intro es hordered
    induction es using List.reverseRecOn with
    | nil => rfl
    | append_singleton es e ih =>
      obtain ⟨hbefore, -, hlast⟩ := List.pairwise_append.mp hordered
      rw [List.foldl_append, List.foldl_cons, List.foldl_nil]
      simp only [insert, ih hbefore]
      exact insertEntry_of_forall_precedes fun a ha => hlast a ha e (List.mem_singleton_self e)
  exact ext (hentries l.entries l.ordered)

theorem mem_foldl_insert {es : List Entry} {l : Ledger} {e : Entry}
    (h : e ∈ (es.foldl insert l).entries) : e ∈ es ∨ e ∈ l.entries := by
  induction es generalizing l with
  | nil => exact Or.inr h
  | cons a es ih =>
    rcases ih h with he | he
    · exact Or.inl (List.mem_cons_of_mem a he)
    · rcases mem_insertEntry he with rfl | he
      · exact Or.inl List.mem_cons_self
      · exact Or.inr he

/-- Whatever a file holds, what is read from it can be read back. -/
theorem legible_of_mem_ofBytes {bytes : Bytes} {e : Entry} (h : e ∈ (ofBytes bytes).entries) :
    e.Legible := by
  rcases mem_foldl_insert h with he | he
  · obtain ⟨raw, -, hraw⟩ := List.mem_filterMap.mp he
    exact Entry.legible_of_ofLine? hraw
  · cases he

/-- An entry that was read from a file has an input. -/
theorem input_ne_of_mem_ofBytes {bytes : Bytes} {e : Entry} (h : e ∈ (ofBytes bytes).entries) :
    e.input ≠ [] := (legible_of_mem_ofBytes h).input_ne

theorem contains_foldl_insert {es : List Entry} {l : Ledger} {input : Text} :
    (es.foldl insert l).contains input = true ↔
      (∃ e ∈ es, e.input = input) ∨ l.contains input = true := by
  induction es generalizing l with
  | nil => simp
  | cons a es ih =>
    rw [List.foldl_cons, ih, contains_insert]
    simp only [List.mem_cons, exists_eq_or_imp]
    rw [or_left_comm, or_assoc]

def linesOf (es : List Entry) : Text := es.flatMap fun e => e.toLine ++ ['\n']

theorem lines_linesOf (es : List Entry) : lines (linesOf es) = es.map Entry.toLine := by
  have htext : linesOf es = (es.map Entry.toLine).flatMap fun line => line ++ ['\n'] := by
    rw [List.flatMap_map]
    rfl
  rw [htext]
  refine lines_flatMap_newline fun line hline => ?_
  obtain ⟨e, -, rfl⟩ := List.mem_map.mp hline
  exact ⟨fun hc => (Entry.ne_of_mem_toLine hc).1 rfl, fun hc => (Entry.ne_of_mem_toLine hc).2 rfl⟩

/-- The lines of a file are read one by one. -/
theorem ofBytes_linesOf_eq (es : List Entry) : ofBytes (Utf8.encode (linesOf es)) =
    (es.filterMap (Entry.ofLine? ∘ Entry.toLine)).foldl insert empty := by
  rw [ofBytes, Utf8.decodeLossy_encode, ofText, lines_linesOf, List.filterMap_map]

theorem ofBytes_linesOf {es : List Entry} (h : ∀ e ∈ es, e.Legible) :
    ofBytes (Utf8.encode (linesOf es)) = es.foldl insert empty := by
  have hsome : ∀ e ∈ es, (Entry.ofLine? ∘ Entry.toLine) e = some e := fun e he =>
    Entry.ofLine?_toLine (h e he)
  rw [ofBytes_linesOf_eq, List.filterMap_congr hsome, List.filterMap_some]

/-- A file with a line for each of some entries is read as a ledger for their inputs. -/
theorem contains_ofBytes_linesOf {es : List Entry} (h : ∀ e ∈ es, e.input ≠ []) {input : Text} :
    (ofBytes (Utf8.encode (linesOf es))).contains input = true ↔ ∃ e ∈ es, e.input = input := by
  rw [ofBytes_linesOf_eq, contains_foldl_insert]
  constructor
  · rintro (⟨e', he', rfl⟩ | hnone)
    · obtain ⟨e, he, hread⟩ := List.mem_filterMap.mp he'
      rw [Function.comp_apply, Entry.ofLine?_toLine_eq (h e he)] at hread
      cases hread
      exact ⟨e, he, rfl⟩
    · cases hnone
  · rintro ⟨e, he, rfl⟩
    have hread := Entry.ofLine?_toLine_eq (h e he)
    exact Or.inl ⟨_, List.mem_filterMap.mpr ⟨e, he, hread⟩, rfl⟩

theorem toText_eq (l : Ledger) : l.toText = linesOf l.entries := rfl

/-- A ledger is read back from its bytes. -/
theorem ofBytes_toBytes {l : Ledger} (h : ∀ e ∈ l.entries, e.Legible) : ofBytes l.toBytes = l := by
  rw [toBytes, toText_eq, ofBytes_linesOf h, foldl_insert_entries]

theorem refresh_eq_some_iff {d : Dictionary} {a e : Entry} :
    refresh d a = some e ↔
      (d.resolve a.input).resolved = false ∧ e = .ofResolution a.input (d.resolve a.input) := by
  unfold refresh
  dsimp only
  split
  · simp [*]
  · simp [*, eq_comm]

theorem mem_reconcile {l : Ledger} {d : Dictionary} {e : Entry} :
    e ∈ (l.reconcile d).entries ↔ ∃ a ∈ l.entries, refresh d a = some e :=
  List.mem_filterMap

/-- A reconciliation keeps the inputs that stay unresolved. -/
theorem contains_reconcile {l : Ledger} {d : Dictionary} {input : Text} :
    (l.reconcile d).contains input = true ↔
      l.contains input = true ∧ (d.resolve input).resolved = false := by
  simp only [contains_iff, mem_reconcile]
  constructor
  · intro hmem
    obtain ⟨e, ⟨a, ha, hrefresh⟩, rfl⟩ := hmem
    obtain ⟨hopen, rfl⟩ := refresh_eq_some_iff.mp hrefresh
    exact ⟨⟨a, ha, rfl⟩, hopen⟩
  · intro hold
    obtain ⟨⟨a, ha, rfl⟩, hopen⟩ := hold
    exact ⟨_, ⟨a, ha, refresh_eq_some_iff.mpr ⟨hopen, rfl⟩⟩, rfl⟩

end Ledger

end Phrasebook
