import Mathlib.Data.List.Induction
import Phrasebook.Proofs.Resolution.Candidate

/-!
The walk over the candidates of a text. One trial either changes nothing or replaces one
stretch of the draft. However the walk goes, the text behind everything that was taken is
still in the draft as it was, moved by the shift.
-/

namespace Phrasebook

open Text

theorem append_cases_of_width_le {a b c d : Text} (h : a ++ b = c ++ d)
    (hwidth : width a ≤ width c) : ∃ middle, c = a ++ middle ∧ b = middle ++ d := by
  rcases List.append_eq_append_iff.mp h with hmiddle | ⟨middle, rfl, rfl⟩
  · exact hmiddle
  · have hzero : width middle = 0 := by
      rw [width_append] at hwidth
      omega
    rw [width_eq_zero_iff.mp hzero]
    exact ⟨[], by simp, by simp⟩

theorem append_inj_of_width_eq {a b c d : Text} (h : a ++ b = c ++ d)
    (hwidth : width a = width c) : a = c ∧ b = d := by
  obtain ⟨middle, rfl, rfl⟩ := append_cases_of_width_le h (Nat.le_of_eq hwidth)
  have hzero : width middle = 0 := by
    rw [width_append] at hwidth
    omega
  rw [width_eq_zero_iff.mp hzero]
  simp

def Candidate.growth (c : Candidate) : Int := width c.value - width c.key

def growth : List Candidate → Int
  | [] => 0
  | c :: cs => c.growth + growth cs

@[simp] theorem growth_nil : growth [] = 0 := rfl

@[simp] theorem growth_cons (c : Candidate) (cs : List Candidate) :
    growth (c :: cs) = c.growth + growth cs := rfl

@[simp] theorem growth_append (as bs : List Candidate) :
    growth (as ++ bs) = growth as + growth bs := by
  induction as with
  | nil => simp
  | cons a as ih => simp only [List.cons_append, growth_cons, ih, Int.add_assoc]

theorem growth_nonneg {cs : List Candidate} (h : ∀ c ∈ cs, 0 ≤ c.growth) : 0 ≤ growth cs := by
  induction cs with
  | nil => simp
  | cons c cs ih =>
    have hfirst := h c List.mem_cons_self
    have hrest := ih fun a ha => h a (List.mem_cons_of_mem c ha)
    rw [growth_cons]
    omega

def reached : List Candidate → Nat
  | [] => 0
  | c :: cs => max c.stop (reached cs)

@[simp] theorem reached_append (as bs : List Candidate) :
    reached (as ++ bs) = max (reached as) (reached bs) := by
  induction as with
  | nil => simp [reached]
  | cons a as ih => simp only [List.cons_append, reached, ih, Nat.max_assoc]

theorem lt_reached_iff {n : Nat} {cs : List Candidate} :
    n < reached cs ↔ ∃ c ∈ cs, n < c.stop := by
  induction cs with
  | nil => simp [reached]
  | cons c cs ih => simp [reached, ih]

namespace Draft

abbrev fresh (t : Text) : Draft := { text := t }

/-- A candidate is put in exactly where its key stands at its shifted place. -/
theorem splice?_eq_some_iff {d d' : Draft} {c : Candidate} :
    d.splice? c = some d' ↔ ∃ front back, d.text = front ++ c.key ++ back ∧
      (width front : Int) = c.index + d.shift ∧ c.length = width c.key ∧
      d' = ⟨front ++ c.value ++ back, d.shift + c.growth⟩ := by
  constructor
  · intro h
    unfold splice? at h
    split at h
    · cases h
    · rename_i start hstart
      split at h
      · cases h
      · rename_i front rest hfront
        split at h
        · cases h
        · rename_i middle back hmiddle
          split at h
          · rename_i hkey
            cases h
            subst hkey
            obtain ⟨htext, hwidth⟩ := eq_append_of_splitAt? hfront
            obtain ⟨rfl, hlength⟩ := eq_append_of_splitAt? hmiddle
            refine ⟨front, back, by rw [htext, List.append_assoc], ?_, hlength.symm, ?_⟩
            · rw [hwidth]
              exact hstart.symm
            · simp only [Candidate.growth, mk.injEq, true_and]
              omega
          · cases h
  · intro hstill
    obtain ⟨front, back, htext, hplace, hlength, rfl⟩ := hstill
    unfold splice?
    have hfront : splitAt? d.text (width front) = some (front, c.key ++ back) := by
      rw [htext, List.append_assoc]
      exact splitAt?_append front _
    have hmiddle : splitAt? (c.key ++ back) c.length = some (c.key, back) := by
      rw [hlength]
      exact splitAt?_append c.key back
    rw [← hplace]
    simp only [hfront, hmiddle, if_true, Candidate.growth,
      Option.some.injEq, mk.injEq, true_and]
    omega

def trial (d : Draft) (c : Candidate) : Draft := (d.splice? c).getD d

def walk (d : Draft) (cs : List Candidate) : Draft := cs.foldl trial d

/-- The candidates that are put in when they are tried one after the other. -/
def taken (d : Draft) : List Candidate → List Candidate
  | [] => []
  | c :: cs =>
    match d.splice? c with
    | none => d.taken cs
    | some d' => c :: d'.taken cs

theorem walk_append (d : Draft) (as bs : List Candidate) :
    d.walk (as ++ bs) = (d.walk as).walk bs := List.foldl_append

theorem walk_singleton (d : Draft) (c : Candidate) : d.walk [c] = d.trial c := rfl

/-- Resolution walks over the candidates that are tried. -/
theorem apply_eq (d : Draft) (cs : List Candidate) :
    d.apply cs = (d.walk (tried cs), cs.any (·.full)) := by
  induction cs generalizing d with
  | nil => rfl
  | cons c cs ih =>
    cases hfull : c.full with
    | true => simp [apply, tried, hfull, walk, trial]
    | false => simp [apply, tried, hfull, walk, trial, ih]

theorem taken_cons_of_none {d : Draft} {c : Candidate} (h : d.splice? c = none)
    (cs : List Candidate) : d.taken (c :: cs) = (d.trial c).taken cs := by
  simp only [taken, trial, h, Option.getD_none]

theorem taken_cons_of_some {d d' : Draft} {c : Candidate} (h : d.splice? c = some d')
    (cs : List Candidate) : d.taken (c :: cs) = c :: (d.trial c).taken cs := by
  simp only [taken, trial, h, Option.getD_some]

theorem taken_append (d : Draft) (as bs : List Candidate) :
    d.taken (as ++ bs) = d.taken as ++ (d.walk as).taken bs := by
  induction as generalizing d with
  | nil => rfl
  | cons a as ih =>
    have hwalk : d.walk (a :: as) = (d.trial a).walk as := rfl
    rw [List.cons_append, hwalk]
    cases h : d.splice? a with
    | none => rw [taken_cons_of_none h, taken_cons_of_none h, ih]
    | some d' => rw [taken_cons_of_some h, taken_cons_of_some h, ih, List.cons_append]

theorem taken_sublist (d : Draft) (cs : List Candidate) : (d.taken cs).Sublist cs := by
  induction cs generalizing d with
  | nil => exact List.Sublist.refl []
  | cons c cs ih =>
    cases h : d.splice? c with
    | none =>
      rw [taken_cons_of_none h]
      exact (ih _).cons c
    | some d' =>
      rw [taken_cons_of_some h]
      exact (ih _).cons_cons c

section Last

variable {d : Draft} {cs : List Candidate} {c : Candidate}

theorem walk_concat_of_none (h : (d.walk cs).splice? c = none) :
    d.walk (cs ++ [c]) = d.walk cs := by
  rw [walk_append, walk_singleton, trial, h, Option.getD_none]

theorem walk_concat_of_some {d' : Draft} (h : (d.walk cs).splice? c = some d') :
    d.walk (cs ++ [c]) = d' := by
  rw [walk_append, walk_singleton, trial, h, Option.getD_some]

theorem taken_concat_of_none (h : (d.walk cs).splice? c = none) :
    d.taken (cs ++ [c]) = d.taken cs := by
  rw [taken_append, taken_cons_of_none h, taken, List.append_nil]

theorem taken_concat_of_some {d' : Draft} (h : (d.walk cs).splice? c = some d') :
    d.taken (cs ++ [c]) = d.taken cs ++ [c] := by
  rw [taken_append, taken_cons_of_some h, taken]

end Last

/-- The shift is what the candidates that were taken add up to. -/
theorem walk_shift (d : Draft) (cs : List Candidate) :
    (d.walk cs).shift = d.shift + growth (d.taken cs) := by
  induction cs using List.reverseRecOn with
  | nil => simp [walk, taken]
  | append_singleton cs c ih =>
    cases h : (d.walk cs).splice? c with
    | none => rw [walk_concat_of_none h, taken_concat_of_none h, ih]
    | some d' =>
      obtain ⟨front, back, -, -, -, rfl⟩ := splice?_eq_some_iff.mp h
      rw [walk_concat_of_some h, taken_concat_of_some h]
      simp only [ih, growth_append, growth_cons, growth_nil]
      omega

/-- From byte `n` on the text is still in the draft, at places moved by the shift. -/
def UntouchedFrom (t : Text) (n : Nat) (d : Draft) : Prop :=
  ∃ front made rest, t = front ++ rest ∧ width front = n ∧ d.text = made ++ rest ∧
    (width made : Int) = n + d.shift

theorem untouchedFrom_fresh (t : Text) : UntouchedFrom t 0 (fresh t) :=
  ⟨[], [], t, rfl, rfl, rfl, rfl⟩

/-- What is put in touches nothing behind its own end and behind what was touched before. -/
theorem UntouchedFrom.splice {t : Text} {n : Nat} {d d' : Draft} {c : Candidate}
    (h : UntouchedFrom t n d) (hsplice : d.splice? c = some d') :
    UntouchedFrom t (max n c.stop) d' := by
  obtain ⟨front, made, rest, ht, hfront, htext, hmade⟩ := h
  obtain ⟨left, right, htext', hplace, hlength, rfl⟩ := splice?_eq_some_iff.mp hsplice
  have hcut : left ++ c.key ++ right = made ++ rest := by rw [← htext', htext]
  have hleft : (width (left ++ c.key) : Int) = c.stop + d.shift := by
    rw [width_append, Candidate.stop]
    omega
  rcases Nat.le_total c.stop n with hstop | hstop
  · obtain ⟨middle, hmiddle, hright⟩ := append_cases_of_width_le hcut (by omega)
    refine ⟨front, left ++ c.value ++ middle, rest, ht, by omega, ?_, ?_⟩
    · simp only [hright, List.append_assoc]
    · simp only [hmiddle, width_append, Candidate.growth] at hmade ⊢
      omega
  · obtain ⟨middle, hmiddle, hrest⟩ := append_cases_of_width_le hcut.symm (by omega)
    refine ⟨front ++ middle, left ++ c.value, right, ?_, ?_, rfl, ?_⟩
    · rw [ht, hrest, List.append_assoc]
    · have hwidth := congrArg width hmiddle
      simp only [width_append] at hwidth hleft ⊢
      omega
    · simp only [width_append, Candidate.growth, Candidate.stop] at hleft hstop ⊢
      omega

/-- Behind everything that was taken the text is still there. -/
theorem untouchedFrom_walk (t : Text) (cs : List Candidate) :
    UntouchedFrom t (reached ((fresh t).taken cs)) ((fresh t).walk cs) := by
  induction cs using List.reverseRecOn with
  | nil => exact untouchedFrom_fresh t
  | append_singleton cs c ih =>
    cases h : ((fresh t).walk cs).splice? c with
    | none =>
      rw [walk_concat_of_none h, taken_concat_of_none h]
      exact ih
    | some d' =>
      rw [walk_concat_of_some h, taken_concat_of_some h, reached_append]
      simpa only [reached, Nat.max_zero] using ih.splice h

/-- A candidate behind everything that was touched is put in at its place. -/
theorem UntouchedFrom.splice?_eq {t : Text} {n : Nat} {d : Draft} {c : Candidate}
    (h : UntouchedFrom t n d) (hstands : c.Stands t) (hindex : n ≤ c.index) :
    ∃ front made between rest, t = front ++ between ++ c.key ++ rest ∧ width front = n ∧
      width (front ++ between) = c.index ∧ d.text = made ++ between ++ c.key ++ rest ∧
      (width made : Int) = n + d.shift ∧
      d.splice? c = some ⟨made ++ between ++ c.value ++ rest, d.shift + c.growth⟩ := by
  obtain ⟨front, made, rest, ht, hfront, htext, hmade⟩ := h
  obtain ⟨left, right, ht', hleft⟩ := hstands.place
  have hcut : front ++ rest = left ++ (c.key ++ right) := by
    rw [← ht, ht', List.append_assoc]
  obtain ⟨between, rfl, rfl⟩ := append_cases_of_width_le hcut (by omega)
  refine ⟨front, made, between, right, ht', hfront, hleft, ?_, hmade, ?_⟩
  · simp only [htext, List.append_assoc]
  · refine splice?_eq_some_iff.mpr ⟨made ++ between, right, ?_, ?_, hstands.length_eq, rfl⟩
    · simp only [htext, List.append_assoc]
    · simp only [width_append] at hleft ⊢
      omega

end Draft

end Phrasebook
