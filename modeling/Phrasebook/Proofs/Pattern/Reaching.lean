import Mathlib.Data.Nat.Bitwise
import Phrasebook.Pattern.Reach
import Phrasebook.Proofs.Pattern.Matching

/-!
The sets of places are what the matches of a tree lead to. So a tree is found in a text exactly if
it matches some stretch of it, whichever alternatives and numbers of rounds that takes.
-/

namespace Phrasebook.Pattern

theorem testBit_ofBits (bits : List Bool) (i : Nat) :
    (ofBits bits).testBit i = true ↔ bits[i]? = some true := by
  induction bits generalizing i with
  | nil => simp [ofBits]
  | cons b bits ih =>
    have hhalf : (2 * ofBits bits + b.toNat) / 2 = ofBits bits := by
      have := b.toNat_le
      omega
    cases i with
    | zero => cases b <;> simp [ofBits, Nat.testBit_zero]
    | succ i => rw [ofBits, Nat.testBit_succ, hhalf, ih, List.getElem?_cons_succ]

theorem testBit_setPlaces (s : CharSet) (t : Text) (i : Nat) :
    (setPlaces s t).testBit i = true ↔ ∃ c, t[i]? = some c ∧ s.contains c = true := by
  rw [setPlaces, testBit_ofBits, List.getElem?_map, Option.map_eq_some_iff]

theorem getElem?_lookBits (l : Look) (before : Option Char) (t : Text) (i : Nat) :
    (lookBits l before t)[i]? = some true ↔
      i ≤ t.length ∧ l.holds (if i = 0 then before else t[i - 1]?) t[i]? = true := by
  induction t generalizing before i with
  | nil => cases i <;> simp [lookBits]
  | cons c t ih =>
    cases i with
    | zero => simp [lookBits]
    | succ i =>
      rw [lookBits, List.getElem?_cons_succ, ih]
      cases i <;> simp

theorem testBit_lookPlaces (l : Look) (t : Text) (i : Nat) :
    (lookPlaces l t).testBit i = true ↔
      i ≤ t.length ∧ l.holds (before? t i) t[i]? = true := by
  rw [lookPlaces, testBit_ofBits, getElem?_lookBits]
  rfl

def Within (t : Text) (places : Nat) : Prop := ∀ i, places.testBit i = true → i ≤ t.length

/-- An advance leads from a set of places to all those that a relation leads to. -/
def Advance.Follows (f : Advance) (t : Text) (leads : Nat → Nat → Prop) : Prop :=
  ∀ places, Within t places → ∀ j,
    (f.run places).testBit j = true ↔ ∃ i, places.testBit i = true ∧ leads i j

namespace Advance

variable {f : Advance} {t : Text} {e : Expr}

theorem Follows.within (h : f.Follows t (Matches t e)) {places : Nat} (hplaces : Within t places) :
    Within t (f.run places) := by
  intro j hj
  obtain ⟨i, -, hmatch⟩ := (h places hplaces j).mp hj
  exact hmatch.bounds.2

/-- Where nothing changes any more, the rounds that are left out would change nothing. -/
theorem exactly_succ (f : Advance) (n places : Nat) :
    f.exactly (n + 1) places = f.exactly n (f.run places) := by
  by_cases hfixed : f.run places = places
  · have hstays : ∀ n, f.exactly n places = places := by
      intro n
      cases n with
      | zero => rfl
      | succ n => simp only [exactly, hfixed, if_true]
    rw [hfixed, hstays, hstays]
  · simp only [exactly, hfixed, if_false]

theorem upTo_succ (f : Advance) (n places : Nat) :
    f.upTo (n + 1) places = f.upTo n (places ||| f.run places) := by
  by_cases hfixed : places ||| f.run places = places
  · have hstays : ∀ n, f.upTo n places = places := by
      intro n
      cases n with
      | zero => rfl
      | succ n => simp only [upTo, hfixed, if_true]
    rw [hfixed, hstays, hstays]
  · simp only [upTo, hfixed, if_false]

theorem Follows.testBit_exactly (h : f.Follows t (Matches t e)) (n : Nat) {places : Nat}
    (hplaces : Within t places) (j : Nat) :
    (f.exactly n places).testBit j = true ↔
      ∃ i, places.testBit i = true ∧ Rounds t e n i j := by
  induction n generalizing places with
  | zero =>
    simp only [exactly, rounds_zero_iff]
    constructor
    · intro hj
      exact ⟨j, hj, rfl, hplaces j hj⟩
    · rintro ⟨i, hi, rfl, -⟩
      exact hi
  | succ n ih =>
    simp only [exactly_succ, ih (h.within hplaces), rounds_succ_iff, h places hplaces]
    constructor
    · rintro ⟨k, ⟨i, hi, hmatch⟩, hrounds⟩
      exact ⟨i, hi, k, hmatch, hrounds⟩
    · rintro ⟨i, hi, k, hmatch, hrounds⟩
      exact ⟨k, ⟨i, hi, hmatch⟩, hrounds⟩

theorem Follows.testBit_upTo (h : f.Follows t (Matches t e)) (n : Nat) {places : Nat}
    (hplaces : Within t places) (j : Nat) :
    (f.upTo n places).testBit j = true ↔
      ∃ i m, places.testBit i = true ∧ m ≤ n ∧ Rounds t e m i j := by
  induction n generalizing places with
  | zero =>
    simp only [upTo, Nat.le_zero]
    constructor
    · intro hj
      exact ⟨j, 0, hj, rfl, .none (hplaces j hj)⟩
    · rintro ⟨i, m, hi, rfl, hrounds⟩
      obtain ⟨rfl, -⟩ := rounds_zero_iff.mp hrounds
      exact hi
  | succ n ih =>
    have hnext : ∀ k, (places ||| f.run places).testBit k = true ↔
        places.testBit k = true ∨ ∃ i, places.testBit i = true ∧ Matches t e i k := by
      intro k
      rw [Nat.testBit_or, Bool.or_eq_true, h places hplaces]
    have hwithin : Within t (places ||| f.run places) := by
      intro k hk
      rcases (hnext k).mp hk with hold | ⟨i, -, hmatch⟩
      · exact hplaces k hold
      · exact hmatch.bounds.2
    rw [upTo_succ, ih hwithin]
    constructor
    · rintro ⟨k, m, hk, hm, hrounds⟩
      rcases (hnext k).mp hk with hold | ⟨i, hi, hmatch⟩
      · exact ⟨k, m, hold, Nat.le_succ_of_le hm, hrounds⟩
      · exact ⟨i, m + 1, hi, Nat.succ_le_succ hm, .next hmatch hrounds⟩
    · rintro ⟨i, m, hi, hm, hrounds⟩
      cases hrounds with
      | none hle => exact ⟨j, 0, (hnext j).mpr (Or.inl hi), Nat.zero_le _, .none hle⟩
      | next hmatch hrest =>
        exact ⟨_, _, (hnext _).mpr (Or.inr ⟨i, hi, hmatch⟩), Nat.le_of_succ_le_succ hm, hrest⟩

/-- First the rounds that are due, then those that are allowed. As many as the text has places are
enough if there is no bound. -/
theorem Follows.times (h : f.Follows t (Matches t e)) (least : Nat) (extra : Option Nat)
    (greedy : Bool) :
    (⟨fun places => f.upTo (extra.getD (t.length + 1)) (f.exactly least places)⟩ :
      Advance).Follows t (Matches t (.times least extra greedy e)) := by
  intro places hplaces j
  have hdue := fun k => h.testBit_exactly least hplaces k
  have hwithin : Within t (f.exactly least places) := by
    intro k hk
    obtain ⟨i, -, hrounds⟩ := (hdue k).mp hk
    exact hrounds.bounds.2
  rw [h.testBit_upTo _ hwithin]
  simp only [hdue, matches_times_iff]
  constructor
  · rintro ⟨k, m, ⟨i, hi, hleast⟩, hm, hrounds⟩
    refine ⟨i, hi, least + m, Nat.le_add_right _ _, ?_, rounds_add_iff.mpr ⟨k, hleast, hrounds⟩⟩
    rintro bound rfl
    exact Nat.add_le_add_left hm least
  · rintro ⟨i, hi, n, hn, hmost, hrounds⟩
    obtain ⟨m, rfl⟩ := Nat.exists_eq_add_of_le hn
    obtain ⟨k, hleast, hrest⟩ := rounds_add_iff.mp hrounds
    cases extra with
    | some bound =>
      exact ⟨k, m, ⟨i, hi, hleast⟩, Nat.le_of_add_le_add_left (hmost bound rfl), hrest⟩
    | none =>
      obtain ⟨short, -, hshort, hrest⟩ := hrest.exists_short
      have hj := hrest.bounds.2
      exact ⟨k, short, ⟨i, hi, hleast⟩, by simp only [Option.getD_none]; omega, hrest⟩

end Advance

/-- A tree advances from a place to the ends of its matches there. -/
theorem follows_advance (t : Text) (e : Expr) : (advance t e).Follows t (Matches t e) := by
  induction e with
  | empty =>
    intro places hplaces j
    simp only [advance, id, matches_empty_iff]
    constructor
    · intro hj
      exact ⟨j, hj, rfl, hplaces j hj⟩
    · rintro ⟨i, hi, rfl, -⟩
      exact hi
  | set s _ =>
    intro places hplaces j
    simp only [advance, matches_set_iff, Nat.testBit_shiftLeft, Nat.testBit_and, Bool.and_eq_true,
      testBit_setPlaces, decide_eq_true_eq]
    constructor
    · rintro ⟨hj, hi, hc⟩
      exact ⟨j - 1, hi, by omega, hc⟩
    · rintro ⟨i, hi, rfl, hc⟩
      exact ⟨Nat.le_add_left 1 i, hi, hc⟩
  | look l =>
    intro places hplaces j
    simp only [advance, matches_look_iff, Nat.testBit_and, Bool.and_eq_true, testBit_lookPlaces]
    constructor
    · rintro ⟨hj, hl⟩
      exact ⟨j, hj, rfl, hl⟩
    · rintro ⟨i, hi, rfl, hl⟩
      exact ⟨hi, hl⟩
  | group number body ih =>
    intro places hplaces j
    simp only [advance, matches_group_iff]
    exact ih places hplaces j
  | seq first second ih₁ ih₂ =>
    intro places hplaces j
    simp only [advance, matches_seq_iff, ih₂ _ (ih₁.within hplaces), ih₁ places hplaces]
    constructor
    · rintro ⟨k, ⟨i, hi, hfirst⟩, hsecond⟩
      exact ⟨i, hi, k, hfirst, hsecond⟩
    · rintro ⟨i, hi, k, hfirst, hsecond⟩
      exact ⟨k, ⟨i, hi, hfirst⟩, hsecond⟩
  | alt preferred other ih₁ ih₂ =>
    intro places hplaces j
    simp only [advance, matches_alt_iff, Nat.testBit_or, Bool.or_eq_true, ih₁ places hplaces,
      ih₂ places hplaces]
    constructor
    · rintro (⟨i, hi, hmatch⟩ | ⟨i, hi, hmatch⟩)
      · exact ⟨i, hi, Or.inl hmatch⟩
      · exact ⟨i, hi, Or.inr hmatch⟩
    · rintro ⟨i, hi, hmatch | hmatch⟩
      · exact Or.inl ⟨i, hi, hmatch⟩
      · exact Or.inr ⟨i, hi, hmatch⟩
  | times least extra greedy body ih => exact ih.times least extra greedy

/-- A tree is found in a text exactly if it matches some stretch of it. -/
theorem matchesIn_iff {t : Text} {e : Expr} :
    e.matchesIn t = true ↔ ∃ i j, Matches t e i j := by
  have hall : ∀ i, (allPlaces t).testBit i = true ↔ i ≤ t.length := by
    intro i
    rw [allPlaces, Nat.one_shiftLeft, Nat.testBit_two_pow_sub_one, decide_eq_true_eq]
    omega
  have hreach := follows_advance t e (allPlaces t) fun i hi => (hall i).mp hi
  rw [Expr.matchesIn, bne_iff_ne]
  constructor
  · intro hne
    obtain ⟨j, hj⟩ := Nat.exists_testBit_of_ne_zero hne
    obtain ⟨i, -, hmatch⟩ := (hreach j).mp hj
    exact ⟨i, j, hmatch⟩
  · rintro ⟨i, j, hmatch⟩ hzero
    have hi := (hall i).mpr (Nat.le_trans hmatch.bounds.1 hmatch.bounds.2)
    have hj := (hreach j).mpr ⟨i, hi, hmatch⟩
    rw [hzero, Nat.zero_testBit] at hj
    cases hj

end Phrasebook.Pattern
