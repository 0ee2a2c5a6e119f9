import Phrasebook.Proofs.Resolution.Verdict

/-!
Only the rules have an order that matters. Two candidates that may each be taken before the other
are one and the same, since keys are distinct; so the order in which candidates are tried does not
depend on the order in which they were found. Everything else a resolution asks of a dictionary is
a question of membership, and words that do not stand in the text are never asked for.
-/

namespace Phrasebook

open Text

namespace Candidate

/-- Candidates that may each be taken before the other stand at the same place. -/
theorem Stands.same_place {t : Text} {a b : Candidate} (ha : a.Stands t) (hb : b.Stands t)
    (hab : a.precedes b = true) (hba : b.precedes a = true) :
    a.index = b.index ∧ a.length = b.length := by
  cases hafull : a.full with
  | true =>
    have hbfull : b.full = true := by simpa [precedes, hafull] using hab
    obtain ⟨hindex, hlength⟩ := ha.full_iff.mp hafull
    obtain ⟨hindex', hlength'⟩ := hb.full_iff.mp hbfull
    exact ⟨hindex.trans hindex'.symm, hlength.trans hlength'.symm⟩
  | false =>
    have hbfull : b.full = false := by
      cases hbfull : b.full with
      | true => simp [precedes, hafull, hbfull] at hba
      | false => rfl
    simp only [precedes, hafull, hbfull, Bool.or_self, Bool.false_eq_true, if_false,
      Bool.or_eq_true, Bool.and_eq_true, decide_eq_true_eq, beq_iff_eq] at hab hba
    omega

/-- At one place of a text stands one key of a given length. -/
theorem Stands.key_eq {t : Text} {a b : Candidate} (ha : a.Stands t) (hb : b.Stands t)
    (hindex : a.index = b.index) (hlength : a.length = b.length) : a.key = b.key := by
  obtain ⟨front, back, ht, hfront⟩ := ha.place
  obtain ⟨front', back', ht', hfront'⟩ := hb.place
  have hcut : front ++ (a.key ++ back) = front' ++ (b.key ++ back') := by
    rw [← List.append_assoc, ← List.append_assoc, ← ht, ← ht']
  have hrest := (append_inj_of_width_eq hcut (by omega)).2
  have hwidth : width a.key = width b.key := by
    rw [← ha.length_eq, ← hb.length_eq, hlength]
  exact (append_inj_of_width_eq hrest hwidth).1

/-- The order of the candidates of a word table has no ties. -/
theorem eq_of_precedes {table : WordTable} {cover : List Shield} {t : Text} {a b : Candidate}
    (ha : a ∈ candidates table.entries cover t) (hb : b ∈ candidates table.entries cover t)
    (hab : a.precedes b = true) (hba : b.precedes a = true) : a = b := by
  have hstands := stands_of_mem_candidates ha
  have hstands' := stands_of_mem_candidates hb
  obtain ⟨hindex, hlength⟩ := hstands.same_place hstands' hab hba
  have hkey := hstands.key_eq hstands' hindex hlength
  obtain ⟨v, hv, i, -, -, rfl⟩ := mem_candidates_iff.mp ha
  obtain ⟨w, hw, j, -, -, rfl⟩ := mem_candidates_iff.mp hb
  obtain rfl := WordTable.eq_of_key_eq hv hw hkey
  obtain rfl : i = j := hindex
  rfl

end Candidate

/-- However the candidates of a word table are arranged, they are tried in the same order. -/
theorem inOrder_eq_of_perm {table : WordTable} {cover : List Shield} {t : Text}
    {found : List Candidate} (h : found.Perm (candidates table.entries cover t)) :
    inOrder found = inOrder (candidates table.entries cover t) := by
  have hperm : (inOrder found).Perm (inOrder (candidates table.entries cover t)) :=
    (inOrder_perm found).trans (h.trans (inOrder_perm _).symm)
  refine List.Perm.eq_of_pairwise (fun a b ha hb hab hba => ?_) (pairwise_inOrder found)
    (pairwise_inOrder _) hperm
  exact Candidate.eq_of_precedes (h.mem_iff.mp (mem_inOrder.mp ha)) (mem_inOrder.mp hb) hab hba

namespace Dictionary

/-- Two dictionaries that have the same to say about a text: the same rules in the same order, and
apart from order and repetition the same exemptions, ignored literals, known tokens and those
words that are the text or stand in the expanded text. -/
structure AgreeOn (t : Text) (d d' : Dictionary) : Prop where
  rules : d.rules = d'.rules
  exemptions : ∀ e, e ∈ d.exemptions ↔ e ∈ d'.exemptions
  ignores : ∀ literal, literal ∈ d.ignores ↔ literal ∈ d'.ignores
  known : ∀ token, token ∈ d.known ↔ token ∈ d'.known
  words : ∀ w : Word,
    (w.key = t ∨ ∃ index, WholeWordAt (Expansion.ofRules d.rules t).text w.key index) →
    (w ∈ d.words.entries ↔ w ∈ d'.words.entries)

namespace AgreeOn

variable {t : Text} {d d' : Dictionary}

theorem lookup_eq (h : AgreeOn t d d') : d.lookup t = d'.lookup t := by
  refine Option.ext fun value => ?_
  rw [lookup, lookup, WordTable.lookup_eq_some_iff, WordTable.lookup_eq_some_iff]
  exact h.words ⟨t, value⟩ (Or.inl rfl)

theorem mem_shields (h : AgreeOn t d d') (expanded : Text) (s : Shield) :
    s ∈ shields d.ignores expanded ↔ s ∈ shields d'.ignores expanded := by
  rw [mem_shields_iff, mem_shields_iff]
  simp only [h.ignores]

theorem mem_candidates (h : AgreeOn t d d') (c : Candidate) :
    c ∈ candidates d.words.entries (shields d.ignores (Expansion.ofRules d.rules t).text)
        (Expansion.ofRules d.rules t).text ↔
      c ∈ candidates d'.words.entries (shields d'.ignores (Expansion.ofRules d.rules t).text)
        (Expansion.ofRules d.rules t).text := by
  rw [mem_candidates_iff, mem_candidates_iff]
  constructor
  · intro hfound
    obtain ⟨w, hw, index, hword, hopen, rfl⟩ := hfound
    rw [any_eq_of_mem_iff (h.mem_shields _)] at hopen
    exact ⟨w, (h.words w (Or.inr ⟨index, hword⟩)).mp hw, index, hword, hopen, rfl⟩
  · intro hfound
    obtain ⟨w, hw, index, hword, hopen, rfl⟩ := hfound
    rw [← any_eq_of_mem_iff (h.mem_shields _)] at hopen
    exact ⟨w, (h.words w (Or.inr ⟨index, hword⟩)).mpr hw, index, hword, hopen, rfl⟩

theorem inOrder_eq (h : AgreeOn t d d') :
    inOrder (candidates d.words.entries (shields d.ignores (Expansion.ofRules d.rules t).text)
        (Expansion.ofRules d.rules t).text) =
      inOrder (candidates d'.words.entries
        (shields d'.ignores (Expansion.ofRules d.rules t).text)
        (Expansion.ofRules d.rules t).text) := by
  refine inOrder_eq_of_perm ?_
  refine (List.perm_ext_iff_of_nodup ?_ ?_).mpr h.mem_candidates
  · exact nodup_candidates d.words.distinct _ _
  · exact nodup_candidates d'.words.distinct _ _

theorem leftover_eq (h : AgreeOn t d d') (expanded value : Text) :
    Resolution.leftover d (shields d.ignores expanded) value =
      Resolution.leftover d' (shields d'.ignores expanded) value := by
  refine List.filter_congr fun run _ => ?_
  have hknown : d.isKnown run = d'.isKnown run := by
    rw [Bool.eq_iff_iff, isKnown, isKnown, List.contains_iff_mem, List.contains_iff_mem]
    exact h.known run
  rw [hknown, any_eq_of_mem_iff (h.mem_shields expanded)]

theorem ofLiterals_eq (h : AgreeOn t d d') :
    Resolution.ofLiterals d (Expansion.ofRules d.rules t).text =
      Resolution.ofLiterals d' (Expansion.ofRules d.rules t).text := by
  simp only [Resolution.ofLiterals, h.inOrder_eq, h.leftover_eq]

end AgreeOn

/-- Dictionaries that agree on a text resolve it to the same value, with the same verdict and the
same tokens in the same order. -/
theorem resolve_eq_of_agreeOn {t : Text} {d d' : Dictionary} (h : AgreeOn t d d') :
    d.resolve t = d'.resolve t := by
  have hexempt : d.exemptions.any (·.covers t) = d'.exemptions.any (·.covers t) :=
    any_eq_of_mem_iff h.exemptions _
  simp only [resolve, hexempt, h.lookup_eq, ← h.rules, h.ofLiterals_eq]

def numberRule : Rule := ⟨⟨"[0-9]".toList, .set (CharSet.between '0' '9'), 0, []⟩, ['#']⟩

def repeats (c : Char) : Exemption :=
  ⟨[c, '+'], ⟨Exemption.anchored [c, '+'], .seq (.look .textStart) (.seq
    (.group none (.times 1 none true (.set (CharSet.single c)))) (.look .textEnd)), 0, []⟩⟩

def pets : Dictionary where
  words := ⟨[⟨"cat".toList, ['猫']⟩, ⟨"dog".toList, ['犬']⟩], by decide⟩
  rules := [numberRule]
  ignores := ["ok".toList, "a-b".toList]
  exemptions := [repeats 'y', repeats 'z']
  known := [['x'], ['y']]

def petsShuffled : Dictionary where
  words := ⟨[⟨"bird".toList, ['鳥']⟩, ⟨"dog".toList, ['犬']⟩, ⟨"cat".toList, ['猫']⟩], by decide⟩
  rules := [numberRule]
  ignores := ["a-b".toList, "ok".toList, "a-b".toList]
  exemptions := [repeats 'z', repeats 'z', repeats 'y']
  known := [['y'], ['x']]

theorem resolve_eq_of_agreeOn_pets :
    AgreeOn "dog 7 cat ok".toList pets petsShuffled ∧
    pets.resolve "dog 7 cat ok".toList = petsShuffled.resolve "dog 7 cat ok".toList ∧
    pets.resolve "dog 7 cat ok".toList = ⟨true, "犬 # 猫 ok".toList, []⟩ := by
  have hagree : AgreeOn "dog 7 cat ok".toList pets petsShuffled := by
    refine ⟨rfl, ?_, ?_, ?_, ?_⟩
    · intro e
      simp only [pets, petsShuffled, List.mem_cons, List.not_mem_nil, or_false]
      grind
    · intro literal
      simp [pets, petsShuffled, or_comm]
    · intro token
      simp [pets, petsShuffled, or_comm]
    · intro w hw
      have hbird : w ≠ ⟨"bird".toList, ['鳥']⟩ := by
        rintro rfl
        rcases hw with hkey | ⟨index, hword⟩
        · exact absurd hkey (by decide)
        · have hnone : occurrences (Expansion.ofRules pets.rules "dog 7 cat ok".toList).text
              "bird".toList = [] := by decide +kernel
          have hmem := mem_occurrences_iff.mpr hword
          simp only [hnone, List.not_mem_nil] at hmem
      simp only [pets, petsShuffled, List.mem_cons, List.not_mem_nil, or_false]
      grind
  exact ⟨hagree, resolve_eq_of_agreeOn hagree, by decide +kernel⟩

end Dictionary

end Phrasebook
