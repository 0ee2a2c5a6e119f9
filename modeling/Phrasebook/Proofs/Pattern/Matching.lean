import Phrasebook.Pattern.Match

/-!
What a tree matches, by its form. A repetition matches what some allowed number of rounds of its
body match one after the other. Rounds that match the empty text can be left out, so without an
upper bound no more rounds are needed than there are characters.
-/

namespace Phrasebook.Pattern

section Forms

variable {t : Text} {i j : Nat}

/-- A match lies within the text. -/
theorem Matches.bounds {e : Expr} (h : Matches t e i j) : i ≤ j ∧ j ≤ t.length := by
  induction h with
  | empty hi => exact ⟨Nat.le_refl _, hi⟩
  | set hc _ =>
    obtain ⟨hlt, -⟩ := List.getElem?_eq_some_iff.mp hc
    exact ⟨Nat.le_succ _, hlt⟩
  | look hi _ => exact ⟨Nat.le_refl _, hi⟩
  | group _ ih => exact ih
  | seq _ _ ih₁ ih₂ => exact ⟨Nat.le_trans ih₁.1 ih₂.1, ih₂.2⟩
  | preferred _ ih => exact ih
  | other _ ih => exact ih
  | enough hi => exact ⟨Nat.le_refl _, hi⟩
  | due _ _ ih₁ ih₂ => exact ⟨Nat.le_trans ih₁.1 ih₂.1, ih₂.2⟩
  | more _ _ ih₁ ih₂ => exact ⟨Nat.le_trans ih₁.1 ih₂.1, ih₂.2⟩
  | again _ _ ih₁ ih₂ => exact ⟨Nat.le_trans ih₁.1 ih₂.1, ih₂.2⟩

theorem matches_empty_iff : Matches t .empty i j ↔ i = j ∧ j ≤ t.length := by
  constructor
  · intro h
    cases h with
    | empty hi => exact ⟨rfl, hi⟩
  · rintro ⟨rfl, hi⟩
    exact .empty hi

theorem matches_set_iff {s : CharSet} {levels : Nat} :
    Matches t (.set s levels) i j ↔ j = i + 1 ∧ ∃ c, t[i]? = some c ∧ s.contains c = true := by
  constructor
  · intro h
    cases h with
    | set hc hs => exact ⟨rfl, _, hc, hs⟩
  · rintro ⟨rfl, c, hc, hs⟩
    exact .set hc hs

theorem matches_look_iff {l : Look} :
    Matches t (.look l) i j ↔
      i = j ∧ j ≤ t.length ∧ l.holds (before? t j) t[j]? = true := by
  constructor
  · intro h
    cases h with
    | look hi hl => exact ⟨rfl, hi, hl⟩
  · rintro ⟨rfl, hi, hl⟩
    exact .look hi hl

theorem matches_group_iff {number : Option Nat} {body : Expr} :
    Matches t (.group number body) i j ↔ Matches t body i j := by
  constructor
  · intro h
    cases h with
    | group hbody => exact hbody
  · exact .group

theorem matches_seq_iff {first second : Expr} :
    Matches t (.seq first second) i j ↔ ∃ k, Matches t first i k ∧ Matches t second k j := by
  constructor
  · intro h
    cases h with
    | seq hfirst hsecond => exact ⟨_, hfirst, hsecond⟩
  · rintro ⟨k, hfirst, hsecond⟩
    exact .seq hfirst hsecond

theorem matches_alt_iff {preferred other : Expr} :
    Matches t (.alt preferred other) i j ↔ Matches t preferred i j ∨ Matches t other i j := by
  constructor
  · intro h
    cases h with
    | preferred hpreferred => exact .inl hpreferred
    | other hother => exact .inr hother
  · rintro (hpreferred | hother)
    · exact .preferred hpreferred
    · exact .other hother

/-- The start of the text is the only place where it begins. -/
theorem matches_textStart_iff : Matches t (.look .textStart) i j ↔ i = 0 ∧ j = 0 := by
  rw [matches_look_iff]
  constructor
  · rintro ⟨rfl, hi, hholds⟩
    cases i with
    | zero => exact ⟨rfl, rfl⟩
    | succ i => simp [Look.holds, before?, Nat.not_le.mpr hi] at hholds
  · rintro ⟨rfl, rfl⟩
    exact ⟨rfl, Nat.zero_le _, rfl⟩

theorem matches_textEnd_iff : Matches t (.look .textEnd) i j ↔ i = t.length ∧ j = t.length := by
  rw [matches_look_iff]
  constructor
  · rintro ⟨rfl, hi, hholds⟩
    have hend : t.length ≤ i := List.getElem?_eq_none_iff.mp (by simpa [Look.holds] using hholds)
    exact ⟨Nat.le_antisymm hi hend, Nat.le_antisymm hi hend⟩
  · rintro ⟨rfl, rfl⟩
    exact ⟨rfl, Nat.le_refl _, by simp [Look.holds]⟩

theorem matches_ofSeq_cons_iff {e : Expr} {es : List Expr} :
    Matches t (.ofSeq (e :: es)) i j ↔ ∃ k, Matches t e i k ∧ Matches t (.ofSeq es) k j := by
  cases es with
  | nil =>
    simp only [Expr.ofSeq, matches_empty_iff]
    constructor
    · intro h
      exact ⟨j, h, rfl, h.bounds.2⟩
    · rintro ⟨k, h, rfl, -⟩
      exact h
  | cons e' es => rw [Expr.ofSeq, matches_seq_iff]; exact nofun

theorem matches_ofSeq_append_iff {es es' : List Expr} :
    Matches t (.ofSeq (es ++ es')) i j ↔
      ∃ k, Matches t (.ofSeq es) i k ∧ Matches t (.ofSeq es') k j := by
  induction es generalizing i with
  | nil =>
    simp only [List.nil_append, Expr.ofSeq, matches_empty_iff]
    constructor
    · intro h
      exact ⟨i, ⟨rfl, Nat.le_trans h.bounds.1 h.bounds.2⟩, h⟩
    · rintro ⟨k, ⟨rfl, -⟩, h⟩
      exact h
  | cons e es ih =>
    simp only [List.cons_append, matches_ofSeq_cons_iff, ih]
    constructor
    · rintro ⟨k, he, m, hes, hes'⟩
      exact ⟨m, ⟨k, he, hes⟩, hes'⟩
    · rintro ⟨m, ⟨k, he, hes⟩, hes'⟩
      exact ⟨k, he, m, hes, hes'⟩

end Forms

/-- `Rounds t e n i j`: so many matches of a tree, one behind the other. -/
inductive Rounds (t : Text) (e : Expr) : Nat → Nat → Nat → Prop where
  | none {i : Nat} : i ≤ t.length → Rounds t e 0 i i
  | next {n i k j : Nat} : Matches t e i k → Rounds t e n k j → Rounds t e (n + 1) i j

section Rounds

variable {t : Text} {e : Expr} {i j : Nat}

theorem Rounds.bounds {n : Nat} (h : Rounds t e n i j) : i ≤ j ∧ j ≤ t.length := by
  induction h with
  | none hi => exact ⟨Nat.le_refl _, hi⟩
  | next he _ ih => exact ⟨Nat.le_trans he.bounds.1 ih.1, ih.2⟩

theorem rounds_zero_iff : Rounds t e 0 i j ↔ i = j ∧ j ≤ t.length := by
  constructor
  · intro h
    cases h with
    | none hi => exact ⟨rfl, hi⟩
  · rintro ⟨rfl, hi⟩
    exact .none hi

theorem rounds_succ_iff {n : Nat} :
    Rounds t e (n + 1) i j ↔ ∃ k, Matches t e i k ∧ Rounds t e n k j := by
  constructor
  · intro h
    cases h with
    | next he hrest => exact ⟨_, he, hrest⟩
  · rintro ⟨k, he, hrest⟩
    exact .next he hrest

theorem rounds_add_iff {m n : Nat} :
    Rounds t e (m + n) i j ↔ ∃ k, Rounds t e m i k ∧ Rounds t e n k j := by
  induction m generalizing i with
  | zero =>
    rw [Nat.zero_add]
    constructor
    · intro h
      exact ⟨i, .none (Nat.le_trans h.bounds.1 h.bounds.2), h⟩
    · rintro ⟨k, hnone, h⟩
      obtain ⟨rfl, -⟩ := rounds_zero_iff.mp hnone
      exact h
  | succ m ih =>
    rw [Nat.succ_add]
    simp only [Nat.succ_eq_add_one, rounds_succ_iff, ih]
    constructor
    · rintro ⟨k, he, l, hm, hn⟩
      exact ⟨l, ⟨k, he, hm⟩, hn⟩
    · rintro ⟨l, ⟨k, he, hm⟩, hn⟩
      exact ⟨k, he, l, hm, hn⟩

theorem rounds_concat_iff {n : Nat} :
    Rounds t e (n + 1) i j ↔ ∃ k, Rounds t e n i k ∧ Matches t e k j := by
  rw [rounds_add_iff]
  constructor
  · rintro ⟨k, hrounds, hlast⟩
    obtain ⟨l, he, hnone⟩ := rounds_succ_iff.mp hlast
    obtain ⟨rfl, -⟩ := rounds_zero_iff.mp hnone
    exact ⟨k, hrounds, he⟩
  · rintro ⟨k, hrounds, he⟩
    exact ⟨k, hrounds, .next he (.none he.bounds.2)⟩

/-- Rounds without width can be left out. -/
theorem Rounds.exists_short {n : Nat} (h : Rounds t e n i j) :
    ∃ m, m ≤ n ∧ m ≤ j - i ∧ Rounds t e m i j := by
  induction h with
  | none hi => exact ⟨0, Nat.le_refl _, Nat.zero_le _, .none hi⟩
  | @next n i k j he hrest ih =>
    obtain ⟨m, hmn, hm, hshort⟩ := ih
    have hik := he.bounds.1
    have hkj := hrest.bounds.1
    by_cases heq : k = i
    · subst heq
      exact ⟨m, by omega, hm, hshort⟩
    · exact ⟨m + 1, by omega, by omega, .next he hshort⟩

/-- A repetition matches what a number of rounds within its bounds match. -/
theorem matches_times_iff {least : Nat} {extra : Option Nat} {greedy : Bool} :
    Matches t (.times least extra greedy e) i j ↔
      ∃ n, least ≤ n ∧ (∀ m, extra = some m → n ≤ least + m) ∧ Rounds t e n i j := by
  constructor
  · intro h
    generalize hexpr : Expr.times least extra greedy e = repetition at h
    induction h generalizing least extra with
    | enough hi =>
      cases hexpr
      exact ⟨0, Nat.le_refl _, fun m _ => Nat.zero_le _, .none hi⟩
    | due he _ _ ih =>
      cases hexpr
      obtain ⟨n, hleast, hmost, hrounds⟩ := ih rfl
      exact ⟨n + 1, by omega, fun m hm => by have := hmost m hm; omega, .next he hrounds⟩
    | more he _ _ ih =>
      cases hexpr
      obtain ⟨n, -, hmost, hrounds⟩ := ih rfl
      refine ⟨n + 1, Nat.zero_le _, fun m hm => ?_, .next he hrounds⟩
      have hbound := hmost _ rfl
      cases hm
      omega
    | again he _ _ ih =>
      cases hexpr
      obtain ⟨n, -, -, hrounds⟩ := ih rfl
      exact ⟨n + 1, Nat.zero_le _, nofun, .next he hrounds⟩
    | _ => cases hexpr
  · rintro ⟨n, hleast, hmost, hrounds⟩
    induction hrounds generalizing least extra with
    | none hi =>
      obtain rfl := Nat.le_zero.mp hleast
      exact .enough hi
    | @next n i k j he _ ih =>
      cases least with
      | succ least =>
        refine .due he (ih (by omega) fun m hm => ?_)
        have hbound := hmost m hm
        omega
      | zero =>
        cases extra with
        | none => exact .again he (ih (Nat.zero_le _) nofun)
        | some extra =>
          have hbound := hmost extra rfl
          cases extra with
          | zero => omega
          | succ extra =>
            refine .more he (ih (Nat.zero_le _) fun m hm => ?_)
            cases hm
            omega

end Rounds

end Phrasebook.Pattern
