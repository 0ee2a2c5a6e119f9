import Mathlib.Data.Finset.Max
import Phrasebook.Resolution.Basic
import Phrasebook.Proofs.Resolution.Overlap

/-!
What literals to be ignored protect. A word is never found in a shielded stretch, but it is put
in later, at a place moved by what was put in before. If no word and no shield overlap in the
text, the shields are spared as long as no word slides back: a word that begins in what was
already replaced can be moved, by values shorter than their keys, over the end of a shield.
-/

namespace Phrasebook

open Text

def Covered (cover : List Shield) (position : Nat) : Prop :=
  ∃ s ∈ cover, s.index ≤ position ∧ position < s.stop

/-- A text of which only stretches that no shield covers are rewritten. -/
inductive Spared (cover : List Shield) : Text → Text → Prop
  | nil : Spared cover [] []
  | keep {t u : Text} (between : Text) (h : Spared cover t u) :
      Spared cover (t ++ between) (u ++ between)
  | rewrite {t u old : Text} (new : Text) (h : Spared cover t u) (hold : old ≠ [])
      (hopen : ∀ p, width t ≤ p → p < width (t ++ old) → ¬ Covered cover p) :
      Spared cover (t ++ old) (u ++ new)

namespace Spared

variable {cover : List Shield} {t u front middle back : Text}

/-- A shielded end of a text is still the end of what is made of it. -/
theorem ends (h : Spared cover t u) (ht : t = front ++ middle)
    (hcovered : ∀ p, width front ≤ p → p < width t → Covered cover p) :
    ∃ left, u = left ++ middle := by
  induction h generalizing front middle with
  | nil =>
    obtain ⟨rfl, rfl⟩ := List.append_eq_nil_iff.mp ht.symm
    exact ⟨[], rfl⟩
  | @keep t u between h ih =>
    rcases Nat.le_total (width t) (width front) with hle | hle
    · obtain ⟨more, -, rfl⟩ := append_cases_of_width_le ht hle
      exact ⟨u ++ more, by simp⟩
    · obtain ⟨more, hmore, rfl⟩ := append_cases_of_width_le ht.symm hle
      obtain ⟨left, rfl⟩ := ih hmore fun p hp hp' =>
        hcovered p hp (by rw [width_append]; omega)
      exact ⟨left, by simp⟩
  | @rewrite t u old new h hold hopen ih =>
    by_cases hmiddle : middle = []
    · exact ⟨u ++ new, by simp [hmiddle]⟩
    · exfalso
      have hwidth := congrArg width ht
      have hpos := width_pos hmiddle
      have hpos' := width_pos hold
      simp only [width_append] at hwidth hopen hcovered
      exact hopen (max (width t) (width front)) (by omega) (by omega)
        (hcovered _ (by omega) (by omega))

/-- A shielded stretch is still in what is made of the text. -/
theorem holds_of_covered (h : Spared cover t u) (ht : t = front ++ middle ++ back)
    (hmiddle : middle ≠ [])
    (hcovered : ∀ p, width front ≤ p → p < width (front ++ middle) → Covered cover p) :
    holds middle u = true := by
  rw [holds_iff]
  have hpos := width_pos hmiddle
  induction h generalizing back with
  | nil => simp [hmiddle] at ht
  | @keep t u between h ih =>
    rcases Nat.le_total (width (front ++ middle)) (width t) with hle | hle
    · obtain ⟨more, hmore, -⟩ := append_cases_of_width_le ht.symm hle
      obtain ⟨left, right, rfl⟩ := ih hmore
      exact ⟨left, right ++ between, by simp⟩
    · obtain ⟨more, hmore, rfl⟩ := append_cases_of_width_le ht hle
      have hsuffix : ∃ left, u ++ more = left ++ middle :=
        (h.keep more).ends hmore.symm (by rwa [← hmore])
      obtain ⟨left, hleft⟩ := hsuffix
      exact ⟨left, back, by rw [← hleft, List.append_assoc]⟩
  | @rewrite t u old new h hold hopen ih =>
    rcases Nat.le_total (width (front ++ middle)) (width t) with hle | hle
    · obtain ⟨more, hmore, -⟩ := append_cases_of_width_le ht.symm hle
      obtain ⟨left, right, rfl⟩ := ih hmore
      exact ⟨left, right ++ new, by simp⟩
    · rcases Nat.eq_or_lt_of_le hle with heq | hlt
      · obtain ⟨rfl, -⟩ := append_inj_of_width_eq ht heq
        obtain ⟨left, right, rfl⟩ := ih (List.append_nil _).symm
        exact ⟨left, right ++ new, by simp⟩
      · exfalso
        have hwidth := congrArg width ht
        have hpos' := width_pos hold
        simp only [width_append] at hwidth hopen hcovered hlt
        exact hopen (max (width t) (width front)) (by omega) (by omega)
          (hcovered _ (by omega) (by omega))

/-- Without shields a text may become anything. -/
theorem of_no_cover (ht : t ≠ []) : Spared [] t u := by
  have hopen : ∀ p, width [] ≤ p → p < width ([] ++ t) → ¬ Covered [] p := by
    intro p _ _ hcovered
    obtain ⟨s, hs, -⟩ := hcovered
    cases hs
  exact Spared.nil.rewrite u ht hopen

end Spared

structure Shield.Stands (t : Text) (s : Shield) : Prop where
  text_ne : s.text ≠ []
  place : ∃ front back, t = front ++ s.text ++ back ∧ width front = s.index ∧
    width (front ++ s.text) = s.stop

namespace Shield

theorem stands_of_mem_shields {ignores : List Text} {t : Text} {s : Shield}
    (h : s ∈ shields ignores t) : s.Stands t := by
  obtain ⟨literal, -, index, hword, rfl⟩ := mem_shields_iff.mp h
  obtain ⟨front, back, ht, hfront, -, -⟩ := hword.place
  exact ⟨hword.needle_ne, front, back, ht, hfront, by rw [width_append, hfront, stop]⟩

theorem Stands.index_lt_stop {t : Text} {s : Shield} (h : s.Stands t) : s.index < s.stop := by
  obtain ⟨front, back, -, hfront, hstop⟩ := h.place
  have hpos := width_pos h.text_ne
  rw [width_append] at hstop
  omega

theorem Stands.stop_le {t : Text} {s : Shield} (h : s.Stands t) : s.stop ≤ width t := by
  obtain ⟨front, back, rfl, -, hstop⟩ := h.place
  rw [width_append, hstop]
  omega

/-- A shielded literal is still in what is made of the text. -/
theorem Stands.holds {cover : List Shield} {t u : Text} {s : Shield} (h : s.Stands t)
    (hs : s ∈ cover) (hspared : Spared cover t u) : Text.holds s.text u = true := by
  obtain ⟨front, back, ht, hfront, hstop⟩ := h.place
  refine hspared.holds_of_covered ht h.text_ne fun p hp hp' => ⟨s, hs, ?_, ?_⟩
  · omega
  · omega

end Shield

theorem growth_eq_add (v : Nat) (cs : List Candidate) :
    growth cs = growth (cs.filter (·.index < v)) + growth (cs.filter (v ≤ ·.index)) := by
  induction cs with
  | nil => rfl
  | cons c cs ih =>
    by_cases hlt : c.index < v
    · simp only [List.filter_cons, hlt, Nat.not_le.mpr hlt, decide_true, decide_false, if_true,
        Bool.false_eq_true, if_false, growth_cons, ih]
      omega
    · simp only [List.filter_cons, hlt, Nat.not_lt.mp hlt, decide_true, decide_false, if_true,
        Bool.false_eq_true, if_false, growth_cons, ih]
      omega

namespace Draft

/-- A draft behind a wall: what stands before the wall is settled, and from the wall up to the
untouched rest no shield covers anything. -/
structure Walled (cover : List Shield) (t : Text) (cs : List Candidate) (d : Draft)
    (fixed loose rest settled made : Text) : Prop where
  scanned : t = fixed ++ loose ++ rest
  text_eq : d.text = settled ++ made ++ rest
  spared : Spared cover fixed settled
  settled_width : (width settled : Int) = width fixed + growth (cs.filter (·.index < width fixed))
  made_width : (width (settled ++ made) : Int) = width (fixed ++ loose) + d.shift
  uncovered : ∀ p, width fixed ≤ p → p < width (fixed ++ loose) → ¬ Covered cover p
  unsplit : ∀ s ∈ cover, s.stop ≤ width fixed ∨ width fixed ≤ s.index
  made_nil : loose = [] → made = []

namespace Walled

variable {cover : List Shield} {t : Text} {cs : List Candidate} {d : Draft}
  {fixed loose between rest settled made : Text}

theorem fresh (cover : List Shield) (t : Text) :
    Walled cover t [] (Draft.fresh t) [] [] t [] [] where
  scanned := rfl
  text_eq := rfl
  spared := Spared.nil
  settled_width := rfl
  made_width := rfl
  uncovered := fun p _ hp => by simp at hp
  unsplit := fun s _ => Or.inr (Nat.zero_le s.index)
  made_nil := fun _ => rfl

theorem spared_loose (h : Walled cover t cs d fixed loose rest settled made) :
    Spared cover (fixed ++ loose) (settled ++ made) := by
  by_cases hloose : loose = []
  · have hmade := h.made_nil hloose
    subst hloose hmade
    simpa using h.spared
  · exact h.spared.rewrite made hloose h.uncovered

theorem spared_text (h : Walled cover t cs d fixed loose rest settled made) :
    Spared cover t d.text := by
  have hdone := h.spared_loose.keep rest
  rwa [← h.scanned, ← h.text_eq] at hdone

theorem untouchedFrom (h : Walled cover t cs d fixed loose rest settled made) :
    UntouchedFrom t (width (fixed ++ loose)) d :=
  ⟨fixed ++ loose, settled ++ made, rest, h.scanned, rfl, h.text_eq, h.made_width⟩

/-- A stretch that is passed over without a shield in it joins what is loose. -/
theorem pass (h : Walled cover t cs d fixed loose (between ++ rest) settled made)
    (hclear : ∀ s ∈ cover, s.stop ≤ width (fixed ++ loose ++ between) →
      s.index < width (fixed ++ loose))
    (hsplit : ∀ s ∈ cover, s.stop ≤ width (fixed ++ loose ++ between) ∨
      width (fixed ++ loose ++ between) ≤ s.index) :
    Walled cover t cs d fixed (loose ++ between) rest settled (made ++ between) where
  scanned := by simp only [h.scanned, List.append_assoc]
  text_eq := by simp only [h.text_eq, List.append_assoc]
  spared := h.spared
  settled_width := h.settled_width
  made_width := by
    have hwidth := h.made_width
    simp only [width_append] at hwidth ⊢
    omega
  uncovered := by
    intro p hp hp' hcovered
    obtain ⟨s, hs, hindex, hstop⟩ := hcovered
    rw [← List.append_assoc] at hp'
    have hbegin : s.index < width (fixed ++ loose) := by
      rcases hsplit s hs with hle | hle
      · exact hclear s hs hle
      · omega
    rcases h.unsplit s hs with hle | hle
    · omega
    · exact h.uncovered s.index hle hbegin ⟨s, hs, Nat.le_refl _, by omega⟩
  unsplit := h.unsplit
  made_nil := by
    intro hnil
    obtain ⟨hloose, hbetween⟩ := List.append_eq_nil_iff.mp hnil
    rw [h.made_nil hloose, hbetween]
    rfl

theorem exists_last_stop {n : Nat} (h : ∃ s ∈ cover, s.stop ≤ n) :
    ∃ s ∈ cover, s.stop ≤ n ∧ ∀ s' ∈ cover, s'.stop ≤ n → s'.stop ≤ s.stop := by
  obtain ⟨s, hs, hstop⟩ := h
  obtain ⟨last, hlast, hmax⟩ := Finset.exists_max_image (cover.toFinset.filter (·.stop ≤ n))
    Shield.stop ⟨s, by simp [hs, hstop]⟩
  simp only [Finset.mem_filter, List.mem_toFinset] at hlast hmax
  exact ⟨last, hlast.1, hlast.2, fun s' hs' hstop' => hmax s' ⟨hs', hstop'⟩⟩

/-- The wall can be moved to the last shield that has been passed over. -/
theorem advance (h : Walled cover t cs d fixed loose (between ++ rest) settled made)
    (hshift : d.shift = growth cs) (hstands : ∀ s ∈ cover, s.Stands t)
    (hbefore : ∀ a ∈ cs, a.index < width (fixed ++ loose))
    (hsplit : ∀ s ∈ cover, s.stop ≤ width (fixed ++ loose ++ between) ∨
      width (fixed ++ loose ++ between) ≤ s.index) :
    ∃ fixed' loose' settled' made', Walled cover t cs d fixed' loose' rest settled' made' ∧
      fixed' ++ loose' = fixed ++ loose ++ between ∧
      (fixed' = fixed ∨ ∃ s ∈ cover, s.stop = width fixed') := by
  by_cases hpassed : ∃ s ∈ cover, s.stop ≤ width (fixed ++ loose ++ between) ∧
      width (fixed ++ loose) ≤ s.index
  · obtain ⟨s₀, hs₀, hstop₀, hindex₀⟩ := hpassed
    obtain ⟨s, hs, hstop, hlast⟩ := exists_last_stop ⟨s₀, hs₀, hstop₀⟩
    have hwall : width (fixed ++ loose) ≤ s.stop := by
      have hlt := (hstands s₀ hs₀).index_lt_stop
      have hle := hlast s₀ hs₀ hstop₀
      omega
    obtain ⟨front, back, ht, -, hfront⟩ := (hstands s hs).place
    have hcut : fixed ++ loose ++ (between ++ rest) = front ++ s.text ++ back := by
      rw [← h.scanned, ht]
    obtain ⟨left, hleft, hright⟩ := append_cases_of_width_le hcut (by omega)
    have hwidth : width (fixed ++ loose ++ left) = s.stop := by rw [← hleft, hfront]
    obtain ⟨right, rfl, hback⟩ := append_cases_of_width_le hright.symm (by
      simp only [width_append] at hwidth hstop ⊢
      omega)
    refine ⟨fixed ++ loose ++ left, right, settled ++ made ++ left, right, ?_,
      by simp only [List.append_assoc], Or.inr ⟨s, hs, hwidth.symm⟩⟩
    refine ⟨?_, ?_, h.spared_loose.keep left, ?_, ?_, ?_, ?_, fun hnil => hnil⟩
    · simp only [h.scanned, List.append_assoc]
    · simp only [h.text_eq, List.append_assoc]
    · have hall : cs.filter (·.index < width (fixed ++ loose ++ left)) = cs := by
        refine List.filter_eq_self.mpr fun a ha => decide_eq_true ?_
        have hlt := hbefore a ha
        omega
      have hmade := h.made_width
      rw [hall, ← hshift]
      simp only [width_append] at hmade ⊢
      omega
    · have hmade := h.made_width
      simp only [width_append] at hmade ⊢
      omega
    · intro p hp hp' hcovered
      obtain ⟨s', hs', hindex', hstop'⟩ := hcovered
      rw [List.append_assoc] at hp'
      rcases hsplit s' hs' with hle | hle
      · have hlast' := hlast s' hs' hle
        omega
      · omega
    · intro s' hs'
      rcases hsplit s' hs' with hle | hle
      · have hlast' := hlast s' hs' hle
        omega
      · omega
  · have hclear : ∀ s ∈ cover, s.stop ≤ width (fixed ++ loose ++ between) →
        s.index < width (fixed ++ loose) := by
      intro s hs hstop
      by_contra hindex
      exact hpassed ⟨s, hs, hstop, by omega⟩
    exact ⟨fixed, loose ++ between, settled, made ++ between, h.pass hclear hsplit,
      by rw [List.append_assoc], Or.inl rfl⟩

/-- What is put in behind the wall leaves the wall where it is. -/
theorem splice {c : Candidate} {d' : Draft}
    (h : Walled cover t cs d fixed loose rest settled made) (hstands : c.Stands t)
    (hsplice : d.splice? c = some d') (hwall : width fixed ≤ c.index)
    (hindex : c.index ≤ width (fixed ++ loose))
    (hplace : (width settled : Int) ≤ c.index + d.shift)
    (hclear : ∀ s ∈ cover, c.stop ≤ s.index ∨ s.stop ≤ c.index) :
    ∃ loose' rest' made', Walled cover t (cs ++ [c]) d' fixed loose' rest' settled made' ∧
      width (fixed ++ loose') = max (width (fixed ++ loose)) c.stop := by
  obtain ⟨front, made', rest', ht, hfront, htext, hmade⟩ := h.untouchedFrom.splice hsplice
  obtain ⟨left, right, htext', hleft, hlength, rfl⟩ := splice?_eq_some_iff.mp hsplice
  have hpos := hstands.index_lt_stop
  obtain ⟨loose', rfl, -⟩ := append_cases_of_width_le
    (show fixed ++ (loose ++ rest) = front ++ rest' by
      rw [← ht, h.scanned, List.append_assoc]) (by rw [width_append] at hfront; omega)
  obtain ⟨left', rfl, -⟩ := append_cases_of_width_le
    (show settled ++ (made ++ rest) = left ++ (c.key ++ right) by
      rw [← List.append_assoc, ← h.text_eq, htext', List.append_assoc]) (by omega)
  obtain ⟨loose'', hmade', -⟩ := append_cases_of_width_le
    (show settled ++ (left' ++ c.value ++ right) = made' ++ rest' by
      rw [← htext]
      simp only [List.append_assoc]) (by
        simp only [Candidate.growth, Candidate.stop] at hmade
        omega)
  subst hmade'
  refine ⟨loose', rest', loose'', ?_, hfront⟩
  refine ⟨ht, htext, h.spared, ?_, ?_, ?_, h.unsplit, ?_⟩
  · have hnot : ¬ c.index < width fixed := by omega
    rw [List.filter_append, List.filter_singleton]
    simpa [hnot] using h.settled_width
  · rw [hfront]
    exact hmade
  · intro p hp hp' hcovered
    rw [hfront] at hp'
    by_cases hlt : p < width (fixed ++ loose)
    · exact h.uncovered p hp hlt hcovered
    · obtain ⟨s, hs, hindex', hstop'⟩ := hcovered
      have hapart := hclear s hs
      omega
  · intro hnil
    subst hnil
    rw [List.append_nil] at hfront
    rw [width_append] at hfront
    omega

/-- What is put in after all that was put in before moves the wall first, if it can be moved. -/
theorem splice_after {c : Candidate} {d' : Draft}
    (h : Walled cover t cs d fixed loose rest settled made) (hstands : c.Stands t)
    (hsplice : d.splice? c = some d') (hshift : d.shift = growth cs)
    (hcover : ∀ s ∈ cover, s.Stands t) (hbefore : ∀ a ∈ cs, a.index < width (fixed ++ loose))
    (hindex : width (fixed ++ loose) ≤ c.index)
    (hclear : ∀ s ∈ cover, c.stop ≤ s.index ∨ s.stop ≤ c.index) :
    ∃ fixed' loose' rest' settled' made',
      Walled cover t (cs ++ [c]) d' fixed' loose' rest' settled' made' ∧
      width (fixed' ++ loose') = c.stop ∧
      (fixed' = fixed ∨ (∃ s ∈ cover, s.stop = width fixed') ∧ width fixed' ≤ c.index) := by
  have hpos := hstands.index_lt_stop
  obtain ⟨front, back, ht, hfront⟩ := hstands.place
  obtain ⟨between, rfl, hrest⟩ := append_cases_of_width_le
    (show fixed ++ loose ++ rest = front ++ (c.key ++ back) by
      rw [← h.scanned, ht, List.append_assoc]) (by omega)
  subst hrest
  have hsplit : ∀ s ∈ cover, s.stop ≤ width (fixed ++ loose ++ between) ∨
      width (fixed ++ loose ++ between) ≤ s.index := by
    intro s hs
    have hsides := hclear s hs
    omega
  obtain ⟨fixed', loose', settled', made', hwalled, hsame, hmoved⟩ :=
    h.advance hshift hcover hbefore hsplit
  have hwidth : width (fixed' ++ loose') = c.index := by rw [hsame, hfront]
  have hle : width fixed' ≤ c.index := by
    rw [width_append] at hwidth
    omega
  have hplace : (width settled' : Int) ≤ c.index + d.shift := by
    have hmade := hwalled.made_width
    rw [width_append] at hmade
    omega
  obtain ⟨loose'', rest', made'', hwalled', hwidth'⟩ :=
    hwalled.splice hstands hsplice hle (by omega) hplace hclear
  refine ⟨fixed', loose'', rest', settled', made'', hwalled', by omega, ?_⟩
  rcases hmoved with rfl | hend
  · exact Or.inl rfl
  · exact Or.inr ⟨hend, hle⟩

end Walled

/-- After these were taken, a candidate behind a shield stands before the end of the shield:
those among them that begin behind the shield shortened the text by too much. -/
def SlidesBack (cs : List Candidate) (c : Candidate) (s : Shield) : Prop :=
  s.stop ≤ c.index ∧ (c.index : Int) + growth (cs.filter (s.stop ≤ ·.index)) < s.stop

/-- No candidate that meets one taken before is put in after it has slid back to a shield. -/
def SlideFree (t : Text) (cover : List Shield) (cs : List Candidate) : Prop :=
  ∀ before c after, cs = before ++ c :: after →
    (∃ a ∈ (fresh t).taken before, a.meets c) → ((fresh t).walk before).splice? c ≠ none →
    ∀ s ∈ cover, ¬ SlidesBack ((fresh t).taken before) c s

section Lineup

variable {t : Text} {cover : List Shield} {cs : List Candidate}

theorem SlideFree.of_append {after : List Candidate} (h : SlideFree t cover (cs ++ after)) :
    SlideFree t cover cs := by
  intro before c back hsplit
  subst hsplit
  exact h before c (back ++ after) (by simp)

/-- The wall is at the start of the text, or at the end of a shield before one of these. -/
def WallAt (cover : List Shield) (cs : List Candidate) (fixed : Text) : Prop :=
  fixed = [] ∨ (∃ s ∈ cover, s.stop = width fixed) ∧ ∃ a ∈ cs, width fixed ≤ a.index

theorem WallAt.concat {fixed : Text} (h : WallAt cover cs fixed) (c : Candidate) :
    WallAt cover (cs ++ [c]) fixed := by
  rcases h with hnil | ⟨hend, a, ha, hle⟩
  · exact Or.inl hnil
  · exact Or.inr ⟨hend, a, List.mem_append_left _ ha, hle⟩

/-- Where nothing slides back, what is put in over what was put in before stands behind the wall,
in the text and in the draft. -/
theorem SlideFree.behind_wall {c : Candidate} {fixed loose rest settled made : Text} {d' : Draft}
    (hfree : SlideFree t cover (cs ++ [c])) (h : Lineup t (cs ++ [c])) (hpart : c.full = false)
    (hwalled : Walled cover t ((fresh t).taken cs) ((fresh t).walk cs)
      fixed loose rest settled made)
    (hwall : WallAt cover ((fresh t).taken cs) fixed)
    (hsplice : ((fresh t).walk cs).splice? c = some d')
    (hlt : c.index < reached ((fresh t).taken cs)) :
    width fixed ≤ c.index ∧ (width settled : Int) ≤ c.index + ((fresh t).walk cs).shift := by
  have hsettled := hwalled.settled_width
  rcases hwall with rfl | ⟨⟨s, hs, hstop⟩, a, ha, hle⟩
  · simp only [width_nil, Nat.not_lt_zero, decide_false, List.filter_false, growth_nil]
      at hsettled
    obtain ⟨left, right, -, hplace, -, -⟩ := splice?_eq_some_iff.mp hsplice
    simp only [width_nil]
    omega
  · have hindex := h.index_le hpart ((taken_sublist (fresh t) cs).subset ha)
    have hslide := hfree cs c [] rfl ((meets_taken_iff h).mpr hlt) (by simp [hsplice]) s hs
    simp only [SlidesBack, not_and, not_lt] at hslide
    have hroom := hslide (by omega)
    have hshift : ((fresh t).walk cs).shift = growth ((fresh t).taken cs) :=
      (walk_shift (fresh t) cs).trans (Int.zero_add _)
    rw [growth_eq_add s.stop] at hshift
    rw [← hstop] at hsettled
    omega

/-- Where nothing slides back, there is a wall after every trial. -/
theorem SlideFree.walled_walk (hfree : SlideFree t cover cs) (h : Lineup t cs)
    (hpart : ∀ c ∈ cs, c.full = false) (hstands : ∀ s ∈ cover, s.Stands t)
    (hapart : ∀ c ∈ cs, ∀ s ∈ cover, c.stop ≤ s.index ∨ s.stop ≤ c.index) :
    ∃ fixed loose rest settled made,
      Walled cover t ((fresh t).taken cs) ((fresh t).walk cs) fixed loose rest settled made ∧
      width (fixed ++ loose) = reached ((fresh t).taken cs) ∧
      WallAt cover ((fresh t).taken cs) fixed := by
  induction cs using List.reverseRecOn with
  | nil => exact ⟨[], [], t, [], [], Walled.fresh cover t, rfl, Or.inl rfl⟩
  | append_singleton cs c ih =>
    obtain ⟨fixed, loose, rest, settled, made, hwalled, hreached, hwall⟩ :=
      ih hfree.of_append h.of_append (fun a ha => hpart a (List.mem_append_left _ ha))
        (fun a ha => hapart a (List.mem_append_left _ ha))
    have hpos := h.head.index_lt_stop
    have hpartial := hpart c (by simp)
    have hclear := hapart c (by simp)
    cases hsplice : ((fresh t).walk cs).splice? c with
    | none =>
      rw [walk_concat_of_none hsplice, taken_concat_of_none hsplice]
      exact ⟨fixed, loose, rest, settled, made, hwalled, hreached, hwall⟩
    | some d' =>
      rw [walk_concat_of_some hsplice, taken_concat_of_some hsplice, reached_append]
      simp only [reached, Nat.max_zero]
      by_cases hlt : c.index < reached ((fresh t).taken cs)
      · obtain ⟨hbehind, hplace⟩ := hfree.behind_wall h hpartial hwalled hwall hsplice hlt
        obtain ⟨loose', rest', made', hwalled', hwidth⟩ :=
          hwalled.splice h.head hsplice hbehind (by omega) hplace hclear
        exact ⟨fixed, loose', rest', settled, made', hwalled', by rw [hwidth, hreached],
          hwall.concat c⟩
      · have hshift : ((fresh t).walk cs).shift = growth ((fresh t).taken cs) :=
          (walk_shift (fresh t) cs).trans (Int.zero_add _)
        have hbefore : ∀ a ∈ (fresh t).taken cs, a.index < width (fixed ++ loose) := by
          intro a ha
          have hsub := (taken_sublist (fresh t) cs).subset ha
          rw [hreached]
          exact lt_reached_iff.mpr ⟨a, ha, (h.of_append.stands a hsub).index_lt_stop⟩
        obtain ⟨fixed', loose', rest', settled', made', hwalled', hwidth, hmoved⟩ :=
          hwalled.splice_after h.head hsplice hshift hstands hbefore (by omega) hclear
        refine ⟨fixed', loose', rest', settled', made', hwalled', by omega, ?_⟩
        rcases hmoved with rfl | ⟨hend, hle⟩
        · exact hwall.concat c
        · exact Or.inr ⟨hend, c, by simp, hle⟩

end Lineup

theorem SlideFree.spared_trials {words : List Word} {cover : List Shield} {t : Text}
    (hfree : SlideFree t cover (trials words cover t)) (hstands : ∀ s ∈ cover, s.Stands t)
    (hapart : ∀ c ∈ candidates words cover t, ∀ s ∈ cover, c.stop ≤ s.index ∨ s.stop ≤ c.index) :
    Spared cover t ((fresh t).walk (trials words cover t)).text := by
  have hline : Lineup t (trials words cover t) := lineup_tried words cover t
  have hfound : ∀ c ∈ trials words cover t, c ∈ candidates words cover t := fun c hc =>
    mem_inOrder.mp ((tried_sublist _).subset hc)
  by_cases hfull : ∃ c ∈ trials words cover t, c.full = true
  · obtain ⟨c, hc, hwhole⟩ := hfull
    have hcstands := hline.stands c hc
    obtain ⟨hindex, hlength⟩ := hcstands.full_iff.mp hwhole
    have hnone : cover = [] := by
      refine List.eq_nil_iff_forall_not_mem.mpr fun s hs => ?_
      have hpos := (hstands s hs).index_lt_stop
      have hend := (hstands s hs).stop_le
      have hsides := hapart c (hfound c hc) s hs
      rw [Candidate.stop] at hsides
      omega
    rw [hnone]
    refine Spared.of_no_cover fun hnil => ?_
    have hpos := hcstands.index_lt_stop
    rw [Candidate.stop, hlength, hnil, width_nil] at hpos
    omega
  · obtain ⟨fixed, loose, rest, settled, made, hwalled, -, -⟩ := hfree.walled_walk hline
      (fun c hc => by simpa using fun hwhole => hfull ⟨c, hc, hwhole⟩) hstands
      (fun c hc => hapart c (hfound c hc))
    exact hwalled.spared_text

/-- Values that are no shorter than their keys let nothing slide back. -/
theorem slideFree_of_growing {t : Text} {cover : List Shield} {cs : List Candidate}
    (hgrow : ∀ c ∈ cs, width c.key ≤ width c.value) : SlideFree t cover cs := by
  rintro before c after rfl - - s - ⟨hstop, hslide⟩
  have hnonneg : 0 ≤ growth (((fresh t).taken before).filter (s.stop ≤ ·.index)) := by
    refine growth_nonneg fun a ha => ?_
    have hmem := (taken_sublist (fresh t) before).subset (List.mem_of_mem_filter ha)
    have hle := hgrow a (List.mem_append_left _ hmem)
    rw [Candidate.growth]
    omega
  omega

/-- Where nothing is echoed, no candidate that meets another one is put in after it. -/
theorem EchoFree.slideFree {t : Text} {cover : List Shield} {cs : List Candidate}
    (hfree : EchoFree t cs) (h : Lineup t cs) : SlideFree t cover cs := by
  intro before c after hsplit hmeets hsplice
  subst hsplit
  exact absurd ((hfree.dropped_iff h).mpr hmeets) hsplice

end Draft

namespace Dictionary

open Draft

theorem value_ofLiterals (d : Dictionary) (t : Text) :
    (Resolution.ofLiterals d t).value =
      ((fresh t).walk (trials d.words.entries (shields d.ignores t) t)).text := by
  unfold Resolution.ofLiterals
  simp only [apply_eq]
  split
  · rename_i heq
    exact congrArg (fun r => r.1.text) heq.symm
  · rename_i heq
    exact congrArg (fun r => r.1.text) heq.symm

/-- A text that reaches the words, with no word found across the edge of a shield: if nothing
slides back, the outcome differs from the expanded text only in stretches outside all shields.
Nothing slides back if no value is shorter than its key, or if there are no echoes. -/
theorem resolve_spares_shields {d : Dictionary} {t expanded : Text}
    (hexempt : d.exemptions.any (·.covers t) = false) (hlookup : d.lookup t = none)
    (hrules : Expansion.ofRules d.rules t = ⟨expanded, false⟩)
    (hapart : ∀ c ∈ candidates d.words.entries (shields d.ignores expanded) expanded,
      ∀ s ∈ shields d.ignores expanded, c.stop ≤ s.index ∨ s.stop ≤ c.index) :
    (SlideFree expanded (shields d.ignores expanded)
        (trials d.words.entries (shields d.ignores expanded) expanded) →
      Spared (shields d.ignores expanded) expanded (d.resolve t).value) ∧
    ((∀ c ∈ candidates d.words.entries (shields d.ignores expanded) expanded,
        width c.key ≤ width c.value) →
      Spared (shields d.ignores expanded) expanded (d.resolve t).value) ∧
    (EchoFree expanded (trials d.words.entries (shields d.ignores expanded) expanded) →
      Spared (shields d.ignores expanded) expanded (d.resolve t).value) := by
  have hvalue : (d.resolve t).value = ((fresh expanded).walk
      (trials d.words.entries (shields d.ignores expanded) expanded)).text := by
    rw [← value_ofLiterals, resolve, if_neg (by simp [hexempt]), hlookup]
    simp only [hrules, Bool.false_eq_true, if_false]
  rw [hvalue]
  have hspared := fun hfree : SlideFree expanded (shields d.ignores expanded)
      (trials d.words.entries (shields d.ignores expanded) expanded) =>
    hfree.spared_trials (fun _ hs => Shield.stands_of_mem_shields hs) hapart
  refine ⟨hspared, fun hgrow => hspared ?_, fun hfree => hspared ?_⟩
  · refine slideFree_of_growing fun c hc => hgrow c ?_
    exact mem_inOrder.mp ((tried_sublist _).subset hc)
  · exact hfree.slideFree (lineup_tried _ _ _)

def dashes (value : Text) : Dictionary where
  words := ⟨[⟨['-', '-'], value⟩, ⟨['-'], ['w']⟩], by simp⟩
  ignores := [['#', '-']]

/-- With a value as long as its key the literal stays. -/
theorem dashes_spares_shield :
    Spared [⟨['#', '-'], 0, 2⟩] ['#', '-', '-', '-']
      ((dashes ['v', 'v']).resolve ['#', '-', '-', '-']).value ∧
    ((dashes ['v', 'v']).resolve ['#', '-', '-', '-']).value = ['#', '-', 'v', 'v'] :=
  ⟨(resolve_spares_shields (d := dashes ['v', 'v']) (t := ['#', '-', '-', '-']) rfl (by decide)
    rfl (by decide)).2.1 (by decide), by decide⟩

/-- With a shorter value the second word is put in over the dash of the literal: that no word
is found across the edge of a shield is not enough to spare the shields. -/
theorem dashes_not_spares_shield :
    ((dashes ['v']).resolve ['#', '-', '-', '-']).value = ['#', 'w', 'v'] ∧
    ¬ ∀ (d : Dictionary) (t expanded : Text), d.exemptions.any (·.covers t) = false →
      d.lookup t = none → Expansion.ofRules d.rules t = ⟨expanded, false⟩ →
      (∀ c ∈ candidates d.words.entries (shields d.ignores expanded) expanded,
        ∀ s ∈ shields d.ignores expanded, c.stop ≤ s.index ∨ s.stop ≤ c.index) →
      Spared (shields d.ignores expanded) expanded (d.resolve t).value := by
  have hvalue : ((dashes ['v']).resolve ['#', '-', '-', '-']).value = ['#', 'w', 'v'] := by decide
  refine ⟨hvalue, fun h => ?_⟩
  have hspared := h (dashes ['v']) ['#', '-', '-', '-'] ['#', '-', '-', '-'] rfl (by decide) rfl
    (by decide)
  have hshield : (⟨['#', '-'], 0, 2⟩ : Shield) ∈
      shields (dashes ['v']).ignores ['#', '-', '-', '-'] := by decide
  rw [hvalue] at hspared
  have hholds := (Shield.stands_of_mem_shields hshield).holds hshield hspared
  exact absurd hholds (by decide)

end Dictionary

end Phrasebook
