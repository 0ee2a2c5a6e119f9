import Mathlib.Data.List.Pairwise
import Phrasebook.Proofs.Resolution.Overlap

/-!
No word that still stands is lost. The shift is the difference of the lengths at every moment, so
a candidate behind everything that was put in is found at its shifted place. Where no candidates
overlap, the walk comes to the same as replacing all of them at once, which is told character by
character and knows neither an order nor a shift.
-/

namespace Phrasebook

open Text

instance (a b : Candidate) : Decidable (a.meets b) :=
  inferInstanceAs (Decidable (a.index < b.stop ∧ b.index < a.stop))

theorem Candidate.meets_comm {a b : Candidate} : a.meets b ↔ b.meets a := And.comm

instance : Std.Symm fun a b : Candidate => ¬ a.meets b where
  symm _ _ hab hba := hab (Candidate.meets_comm.mp hba)

/-- What stands for one character when all candidates are replaced at once: the value of the
candidate that begins there, nothing within a candidate, and elsewhere the character itself. -/
def exchangeAt (cs : List Candidate) (position : Nat) (x : Char) : Text :=
  match cs.find? (·.index == position) with
  | some a => a.value
  | none => if cs.any (fun a => a.index ≤ position && position < a.stop) then [] else [x]

def exchangeFrom (cs : List Candidate) (offset : Nat) : Text → Text
  | [] => []
  | x :: rest => exchangeAt cs offset x ++ exchangeFrom cs (offset + x.utf8Size) rest

/-- A text with all candidates replaced by their values at once. -/
def exchange (cs : List Candidate) (t : Text) : Text := exchangeFrom cs 0 t

section Exchange

variable {cs : List Candidate} {position : Nat} {x : Char} {c : Candidate}

theorem exchangeAt_begin (hc : c ∈ cs) (hunique : ∀ a ∈ cs, a.index = c.index → a = c) :
    exchangeAt cs c.index x = c.value := by
  unfold exchangeAt
  split
  · rename_i a hfound
    have hindex : a.index = c.index := by simpa using List.find?_some hfound
    rw [hunique a (List.mem_of_find?_eq_some hfound) hindex]
  · rename_i hnone
    have hmiss := List.find?_eq_none.mp hnone c hc
    simp at hmiss

theorem exchangeAt_inside (hinside : ∃ a ∈ cs, a.index < position ∧ position < a.stop)
    (hbegin : ∀ a ∈ cs, a.index ≠ position) : exchangeAt cs position x = [] := by
  have hnone : cs.find? (·.index == position) = none :=
    List.find?_eq_none.mpr fun a ha => by simpa using hbegin a ha
  have hany : cs.any (fun a => a.index ≤ position && position < a.stop) = true := by
    obtain ⟨a, ha, hlt, hstop⟩ := hinside
    exact List.any_eq_true.mpr ⟨a, ha, by simp [Nat.le_of_lt hlt, hstop]⟩
  simp only [exchangeAt, hnone, hany, if_true]

theorem exchangeAt_open (hpos : ∀ a ∈ cs, a.index < a.stop)
    (hopen : ∀ a ∈ cs, a.stop ≤ position ∨ position < a.index) :
    exchangeAt cs position x = [x] := by
  have hnone : cs.find? (·.index == position) = none := by
    refine List.find?_eq_none.mpr fun a ha => ?_
    have hlt := hpos a ha
    have hsides := hopen a ha
    simp only [beq_iff_eq]
    omega
  have hany : cs.any (fun a => a.index ≤ position && position < a.stop) = false := by
    refine List.any_eq_false.mpr fun a ha => ?_
    have hsides := hopen a ha
    simp only [Bool.and_eq_true, decide_eq_true_eq]
    omega
  simp only [exchangeAt, hnone, hany, Bool.false_eq_true, if_false]

/-- A candidate farther on changes nothing. -/
theorem exchangeAt_concat (h : position < c.index) :
    exchangeAt (cs ++ [c]) position x = exchangeAt cs position x := by
  have hbegin : (c.index == position) = false := by
    rw [beq_eq_false_iff_ne]
    omega
  have hcover : (decide (c.index ≤ position) && decide (position < c.stop)) = false := by
    simp [h]
  simp only [exchangeAt, List.find?_append, List.find?_singleton, hbegin, Bool.false_eq_true,
    if_false, Option.or_none, List.any_append, List.any_cons, List.any_nil, hcover, Bool.or_false]

/-- The order of the candidates does not matter if no two begin at one place. -/
theorem exchangeAt_congr {cs' : List Candidate} (hmem : ∀ a, a ∈ cs ↔ a ∈ cs')
    (hunique : ∀ a ∈ cs, ∀ b ∈ cs, a.index = b.index → a = b) :
    exchangeAt cs position x = exchangeAt cs' position x := by
  have hfind : cs.find? (·.index == position) = cs'.find? (·.index == position) := by
    cases hfound : cs.find? (·.index == position) with
    | none =>
      refine (List.find?_eq_none.mpr fun a ha => ?_).symm
      exact List.find?_eq_none.mp hfound a ((hmem a).mpr ha)
    | some a =>
      have ha := List.mem_of_find?_eq_some hfound
      have hindex : a.index = position := by simpa using List.find?_some hfound
      cases hfound' : cs'.find? (·.index == position) with
      | none =>
        exact absurd hindex (by simpa using List.find?_eq_none.mp hfound' a ((hmem a).mp ha))
      | some b =>
        have hb := (hmem b).mpr (List.mem_of_find?_eq_some hfound')
        have hindex' : b.index = position := by simpa using List.find?_some hfound'
        rw [hunique a ha b hb (hindex.trans hindex'.symm)]
  simp only [exchangeAt, hfind, any_eq_of_mem_iff hmem]

theorem exchangeFrom_append (cs : List Candidate) (offset : Nat) (s t : Text) :
    exchangeFrom cs offset (s ++ t) =
      exchangeFrom cs offset s ++ exchangeFrom cs (offset + width s) t := by
  induction s generalizing offset with
  | nil => rfl
  | cons x s ih =>
    simp only [List.cons_append, exchangeFrom, ih, width_cons, Nat.add_assoc, List.append_assoc]

theorem exchangeFrom_eq_self {offset : Nat} {t : Text} (hpos : ∀ a ∈ cs, a.index < a.stop)
    (hopen : ∀ a ∈ cs, a.stop ≤ offset ∨ offset + width t ≤ a.index) :
    exchangeFrom cs offset t = t := by
  induction t generalizing offset with
  | nil => rfl
  | cons x t ih =>
    have hx := Char.utf8Size_pos x
    have hhere : exchangeAt cs offset x = [x] := by
      refine exchangeAt_open hpos fun a ha => ?_
      have hsides := hopen a ha
      rw [width_cons] at hsides
      omega
    have hrest : exchangeFrom cs (offset + x.utf8Size) t = t := by
      refine ih fun a ha => ?_
      have hsides := hopen a ha
      rw [width_cons] at hsides
      omega
    rw [exchangeFrom, hhere, hrest, List.singleton_append]

/-- Behind its first character nothing is left of a candidate's key. -/
theorem exchangeFrom_eq_nil {offset : Nat} {t : Text}
    (hinside : ∃ a ∈ cs, a.index < offset ∧ offset + width t ≤ a.stop)
    (hbegin : ∀ a ∈ cs, a.index < offset ∨ offset + width t ≤ a.index) :
    exchangeFrom cs offset t = [] := by
  induction t generalizing offset with
  | nil => rfl
  | cons x t ih =>
    have hx := Char.utf8Size_pos x
    obtain ⟨c, hc, hindex, hstop⟩ := hinside
    rw [width_cons] at hstop
    have hhere : exchangeAt cs offset x = [] := by
      refine exchangeAt_inside ⟨c, hc, hindex, by omega⟩ fun a ha => ?_
      have hsides := hbegin a ha
      rw [width_cons] at hsides
      omega
    have hrest : exchangeFrom cs (offset + x.utf8Size) t = [] := by
      refine ih ⟨c, hc, by omega, by omega⟩ fun a ha => ?_
      have hsides := hbegin a ha
      rw [width_cons] at hsides
      omega
    rw [exchangeFrom, hhere, hrest, List.append_nil]

theorem exchangeFrom_key (hc : c ∈ cs) (hne : c.key ≠ []) (hlength : c.length = width c.key)
    (hapart : ∀ a ∈ cs, a = c ∨ a.index < c.index ∨ c.stop ≤ a.index) :
    exchangeFrom cs c.index c.key = c.value := by
  have hpos := width_pos hne
  have hunique : ∀ a ∈ cs, a.index = c.index → a = c := by
    intro a ha hindex
    rcases hapart a ha with heq | hsides
    · exact heq
    · rw [Candidate.stop] at hsides
      omega
  cases hkey : c.key with
  | nil => exact absurd hkey hne
  | cons x rest =>
    have hx := Char.utf8Size_pos x
    have hwidth : c.stop = c.index + x.utf8Size + width rest := by
      rw [Candidate.stop, hlength, hkey, width_cons, Nat.add_assoc]
    have hrest : exchangeFrom cs (c.index + x.utf8Size) rest = [] := by
      refine exchangeFrom_eq_nil ⟨c, hc, by omega, by omega⟩ fun a ha => ?_
      rcases hapart a ha with rfl | hsides
      · exact Or.inl (by omega)
      · omega
    rw [exchangeFrom, exchangeAt_begin hc hunique, hrest, List.append_nil]

theorem exchangeFrom_concat {offset : Nat} {t : Text} (h : offset + width t ≤ c.index) :
    exchangeFrom (cs ++ [c]) offset t = exchangeFrom cs offset t := by
  induction t generalizing offset with
  | nil => rfl
  | cons x t ih =>
    have hx := Char.utf8Size_pos x
    rw [width_cons] at h
    rw [exchangeFrom, exchangeFrom, exchangeAt_concat (by omega), ih (by omega)]

theorem exchange_congr {cs' : List Candidate} (hmem : ∀ a, a ∈ cs ↔ a ∈ cs')
    (hunique : ∀ a ∈ cs, ∀ b ∈ cs, a.index = b.index → a = b) (t : Text) :
    exchange cs t = exchange cs' t := by
  have hfrom : ∀ offset, exchangeFrom cs offset t = exchangeFrom cs' offset t := by
    induction t with
    | nil => exact fun _ => rfl
    | cons x t ih =>
      intro offset
      rw [exchangeFrom, exchangeFrom, exchangeAt_congr hmem hunique, ih]
  exact hfrom 0

end Exchange

namespace Draft

/-- Replacing from left to right comes to the same as replacing all at once. -/
theorem Replaced.eq_exchange {t u : Text} {cs : List Candidate} (h : Replaced cs t u)
    (hkeys : ∀ c ∈ cs, c.key ≠ [] ∧ c.length = width c.key) :
    u = exchange cs t ∧ ∀ c ∈ cs, c.stop ≤ width t := by
  have hpos : ∀ c ∈ cs, c.index < c.stop := by
    intro c hc
    have hwidth := width_pos (hkeys c hc).1
    rw [Candidate.stop, (hkeys c hc).2]
    omega
  induction h with
  | nil => exact ⟨rfl, fun c hc => by cases hc⟩
  | @keep cs t u between h ih =>
    obtain ⟨hu, hstop⟩ := ih hkeys hpos
    have hbetween : exchangeFrom cs (0 + width t) between = between :=
      exchangeFrom_eq_self hpos fun a ha => Or.inl (by rw [Nat.zero_add]; exact hstop a ha)
    refine ⟨?_, fun c hc => ?_⟩
    · rw [exchange, exchangeFrom_append, hbetween, hu, exchange]
    · have hle := hstop c hc
      rw [width_append]
      omega
  | @put cs t u c h hplace ih =>
    obtain ⟨hu, hstop⟩ := ih (fun a ha => hkeys a (List.mem_append_left _ ha))
      (fun a ha => hpos a (List.mem_append_left _ ha))
    obtain ⟨hne, hlength⟩ := hkeys c (by simp)
    have hapart : ∀ a ∈ cs ++ [c], a = c ∨ a.index < c.index ∨ c.stop ≤ a.index := by
      intro a ha
      rcases List.mem_append.mp ha with hmem | hmem
      · have hlt := hpos a ha
        have hle := hstop a hmem
        omega
      · exact Or.inl (List.mem_singleton.mp hmem)
    refine ⟨?_, fun a ha => ?_⟩
    · rw [exchange, exchangeFrom_append, exchangeFrom_concat (by omega), Nat.zero_add, hplace,
        exchangeFrom_key (by simp) hne hlength hapart, hu, exchange]
    · rw [width_append]
      rcases List.mem_append.mp ha with hmem | hmem
      · have hle := hstop a hmem
        omega
      · rw [List.mem_singleton.mp hmem, Candidate.stop, hlength]
        omega

/-- One trial moves the shift by as much as it changes the length of the draft. -/
theorem shift_sub_width_trial (d : Draft) (c : Candidate) :
    (d.trial c).shift - width (d.trial c).text = d.shift - width d.text := by
  cases h : d.splice? c with
  | none => rw [trial, h, Option.getD_none]
  | some d' =>
    obtain ⟨front, back, htext, -, -, rfl⟩ := splice?_eq_some_iff.mp h
    rw [trial, h, Option.getD_some, htext]
    simp only [width_append, Candidate.growth]
    omega

/-- However the walk goes, the shift is the length of the draft less the length of the text. -/
theorem shift_walk_eq (t : Text) (cs : List Candidate) :
    ((fresh t).walk cs).shift = width ((fresh t).walk cs).text - width t := by
  have hwalk : ∀ d : Draft,
      (d.walk cs).shift - width (d.walk cs).text = d.shift - width d.text := by
    induction cs with
    | nil => exact fun _ => rfl
    | cons c cs ih => exact fun d => (ih (d.trial c)).trans (shift_sub_width_trial d c)
  have hfresh := hwalk (fresh t)
  simp only at hfresh
  omega

section Lineup

variable {t : Text} {before after cs : List Candidate} {c : Candidate}

/-- A candidate that no candidate taken before reaches is found at its shifted place, with the
text behind it as it was, and is put in there. -/
theorem splice?_of_behind (h : Lineup t (before ++ c :: after))
    (hbehind : ∀ a ∈ (fresh t).taken before, a.stop ≤ c.index) :
    ∃ front made rest, t = front ++ c.key ++ rest ∧ width front = c.index ∧
      ((fresh t).walk before).text = made ++ c.key ++ rest ∧
      (width made : Int) = c.index + ((fresh t).walk before).shift ∧
      ((fresh t).walk before).splice? c =
        some ⟨made ++ c.value ++ rest, ((fresh t).walk before).shift + c.growth⟩ := by
  have hreached : reached ((fresh t).taken before) ≤ c.index := by
    by_contra hlt
    obtain ⟨a, ha, hstop⟩ := lt_reached_iff.mp (Nat.lt_of_not_le hlt)
    have hle := hbehind a ha
    omega
  obtain ⟨front, made, between, rest, ht, hfront, hplace, htext, hmade, hsome⟩ :=
    (untouchedFrom_walk t before).splice?_eq h.head hreached
  refine ⟨front ++ between, made ++ between, rest, ht, hplace, htext, ?_, hsome⟩
  simp only [width_append] at hplace ⊢
  omega

/-- Where no candidates overlap, all of them are taken. -/
theorem taken_eq_self (h : Lineup t cs) (hapart : cs.Pairwise fun a b => ¬ a.meets b) :
    (fresh t).taken cs = cs := by
  induction cs using List.reverseRecOn with
  | nil => rfl
  | append_singleton cs c ih =>
    obtain ⟨hfirst, -, hlast⟩ := List.pairwise_append.mp hapart
    have htaken := ih h.of_append hfirst
    have hbehind : ∀ a ∈ (fresh t).taken cs, a.stop ≤ c.index := by
      intro a ha
      rw [htaken] at ha
      have hmeets := hlast a ha c (by simp)
      rw [h.meets_iff ha] at hmeets
      omega
    obtain ⟨_, _, _, -, -, -, -, hsome⟩ := splice?_of_behind h hbehind
    rw [taken_concat_of_some hsome, htaken]

theorem echoFree_of_apart (hapart : cs.Pairwise fun a b => ¬ a.meets b) : EchoFree t cs := by
  intro before c after hsplit hmeets
  obtain ⟨a, ha, hmeets⟩ := hmeets
  subst hsplit
  have hmem := (taken_sublist (fresh t) before).subset ha
  exact absurd hmeets ((List.pairwise_append.mp hapart).2.2 a hmem c (by simp))

/-- Where no candidates overlap, the draft is the text with all of them replaced at once. -/
theorem text_walk_eq_exchange (h : Lineup t cs) (hapart : cs.Pairwise fun a b => ¬ a.meets b) :
    ((fresh t).walk cs).text = exchange cs t := by
  obtain ⟨front, made, rest, ht, -, htext, hreplaced⟩ :=
    (echoFree_of_apart hapart).replaced_walk h
  have hdone := hreplaced.keep rest
  rw [taken_eq_self h hapart, ← ht, ← htext] at hdone
  exact (hdone.eq_exchange fun c hc => ⟨(h.stands c hc).key_ne, (h.stands c hc).length_eq⟩).1

end Lineup

/-- Resolution of a text in which no two candidates overlap and none covers the whole text. -/
theorem apply_eq_exchange {words : List Word} {cover : List Shield} {t : Text}
    (hapart : (candidates words cover t).Pairwise fun a b => ¬ a.meets b)
    (hpart : ∀ c ∈ candidates words cover t, c.full = false) :
    (fresh t).apply (inOrder (candidates words cover t)) =
      (⟨exchange (candidates words cover t) t,
        width (exchange (candidates words cover t) t) - width t⟩, false) := by
  have hpart' : ∀ c ∈ inOrder (candidates words cover t), c.full = false :=
    fun c hc => hpart c (mem_inOrder.mp hc)
  have hline : Lineup t (inOrder (candidates words cover t)) := by
    have htried := lineup_tried words cover t
    rw [tried_eq_self hpart'] at htried
    exact htried
  have hapart' : (inOrder (candidates words cover t)).Pairwise fun a b => ¬ a.meets b := by
    refine ((inOrder_perm _).pairwise_iff ?_).mpr hapart
    intro a b hab hba
    exact hab (Candidate.meets_comm.mp hba)
  have hunique : ∀ a ∈ candidates words cover t, ∀ b ∈ candidates words cover t,
      a.index = b.index → a = b := by
    intro a ha b hb hindex
    by_contra hne
    have hlt := (Candidate.stands_of_mem_candidates ha).index_lt_stop
    have hlt' := (Candidate.stands_of_mem_candidates hb).index_lt_stop
    exact hapart.forall ha hb hne ⟨by omega, by omega⟩
  have htext : ((fresh t).walk (inOrder (candidates words cover t))).text =
      exchange (candidates words cover t) t := by
    rw [text_walk_eq_exchange hline hapart']
    exact (exchange_congr (fun a => mem_inOrder.symm) hunique t).symm
  have hnone : (inOrder (candidates words cover t)).any (·.full) = false :=
    List.any_eq_false.mpr fun c hc => by simp [hpart' c hc]
  rw [apply_eq, hnone, tried_eq_self hpart', ← htext, ← shift_walk_eq]

/-- Putting in the words of a text, for all words, shields and texts. Every candidate that does
not cover the whole text is tried. After any number of trials the shift is the length of the
draft less the length of the text. A candidate that begins behind the ends of all candidates
taken before it stands at its shifted place and is put in there. If no two candidates overlap
and none covers the whole text, the outcome is the text with all of them replaced at once. -/
theorem standing_words_put_in (words : List Word) (cover : List Shield) (t : Text) :
    ((fresh t).apply (inOrder (candidates words cover t))).1 =
        (fresh t).walk (trials words cover t) ∧
    (∀ c ∈ candidates words cover t, c.full = false → c ∈ trials words cover t) ∧
    (∀ before after, trials words cover t = before ++ after →
      ((fresh t).walk before).shift = width ((fresh t).walk before).text - width t) ∧
    (∀ before c after, trials words cover t = before ++ c :: after →
      (∀ a ∈ (fresh t).taken before, a.stop ≤ c.index) →
      ∃ front made rest, t = front ++ c.key ++ rest ∧ width front = c.index ∧
        ((fresh t).walk before).text = made ++ c.key ++ rest ∧
        (width made : Int) = c.index + ((fresh t).walk before).shift ∧
        ((fresh t).walk before).splice? c =
          some ⟨made ++ c.value ++ rest, ((fresh t).walk before).shift + c.growth⟩) ∧
    ((candidates words cover t).Pairwise (fun a b => ¬ a.meets b) →
      (∀ c ∈ candidates words cover t, c.full = false) →
      (fresh t).apply (inOrder (candidates words cover t)) =
        (⟨exchange (candidates words cover t) t,
          width (exchange (candidates words cover t) t) - width t⟩, false)) := by
  have hline : Lineup t (trials words cover t) := lineup_tried words cover t
  refine ⟨by rw [apply_eq]; rfl, ?_, fun before _ _ => shift_walk_eq t before, ?_,
    apply_eq_exchange⟩
  · intro c hc hfull
    exact mem_tried_of_not_full (pairwise_inOrder _) (mem_inOrder.mpr hc) hfull
  · intro before c after hsplit hbehind
    rw [hsplit] at hline
    exact splice?_of_behind hline hbehind

def catWord : Word := ⟨['c', 'a', 't'], ['k']⟩

def dogWord : Word := ⟨['d', 'o', 'g'], ['狗', '狗']⟩

def petWords : WordTable := ⟨[catWord, dogWord], by decide⟩

def petText : Text := "cat,dog,cat".toList

/-- The second word is put in two bytes before its place. The shift is 1 behind it, and -1 behind
the last word. -/
theorem standing_words_put_in_at_petWords :
    (∃ made rest, width made = 2 ∧
      ((fresh petText).walk [.ofWord catWord petText 0]).splice? (.ofWord dogWord petText 4) =
        some ⟨made ++ ['狗', '狗'] ++ rest, 1⟩) ∧
    (fresh petText).apply (inOrder (candidates petWords.entries [] petText)) =
      (⟨"k,狗狗,k".toList, -1⟩, false) := by
  obtain ⟨-, -, -, hbehind, hapart⟩ := standing_words_put_in petWords.entries [] petText
  constructor
  · obtain ⟨_, made, rest, -, -, -, hmade, hsome⟩ := hbehind [.ofWord catWord petText 0]
      (.ofWord dogWord petText 4) [.ofWord catWord petText 8] (by decide) (by decide)
    exact ⟨made, rest, Int.ofNat.inj hmade, hsome⟩
  · have hexchange : exchange (candidates petWords.entries [] petText) petText =
        "k,狗狗,k".toList := by decide
    have hall := hapart (by decide) (by decide)
    rw [hexchange] at hall
    exact hall

end Draft

end Phrasebook
