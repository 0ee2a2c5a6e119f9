import Phrasebook.Proofs.Resolution.Walk

/-!
Words whose keys overlap in a text. The first one that is tried is put in. One that shares a
byte with it can only be put in afterwards if the text put in before ends just as the covered
part of its key reads. Without such an echo every word that is put in stays as it is, and the
others are dropped.
-/

namespace Phrasebook

open Text

def trials (words : List Word) (cover : List Shield) (t : Text) : List Candidate :=
  tried (inOrder (candidates words cover t))

namespace Draft

/-- What was put in reads, just before the untouched rest, like the part of a candidate that
has been touched: as far as both go, the key of the candidate stands there again. -/
def Echoes (t : Text) (n : Nat) (d : Draft) (c : Candidate) : Prop :=
  ∃ before covered made echo rest, t = before ++ covered ++ rest ∧ width before = c.index ∧
    width (before ++ covered) = n ∧ d.text = made ++ echo ++ rest ∧
    width echo = width covered ∧ (c.key <+: echo ∨ echo <+: c.key)

/-- A candidate that begins in what was touched is put in exactly if it is echoed. -/
theorem UntouchedFrom.splice?_eq_some_iff_echoes {t : Text} {n : Nat} {d : Draft}
    {c : Candidate} (h : UntouchedFrom t n d) (hstands : c.Stands t) (hindex : c.index < n) :
    (∃ d', d.splice? c = some d') ↔ Echoes t n d c := by
  obtain ⟨front, made, rest, ht, hfront, htext, hmade⟩ := h
  obtain ⟨before, back, ht', hbefore⟩ := hstands.place
  have hcut : before ++ (c.key ++ back) = front ++ rest := by
    rw [← ht, ht', List.append_assoc]
  obtain ⟨covered, hfront', hkeyed⟩ := append_cases_of_width_le hcut (by omega)
  constructor
  · intro hput
    obtain ⟨d', hsplice⟩ := hput
    obtain ⟨left, right, htext', hplace, -, -⟩ := splice?_eq_some_iff.mp hsplice
    have hcut' : left ++ (c.key ++ right) = made ++ rest := by
      rw [← htext, htext', List.append_assoc]
    obtain ⟨echo, hmade', hkeyed'⟩ := append_cases_of_width_le hcut' (by omega)
    refine ⟨before, covered, left, echo, rest, ?_, hbefore, ?_, ?_, ?_, ?_⟩
    · rw [ht, hfront']
    · rw [← hfront', hfront]
    · rw [htext, hmade']
    · rw [hfront', width_append] at hfront
      rw [hmade', width_append] at hmade
      omega
    · exact List.prefix_or_prefix_of_prefix ⟨right, hkeyed'⟩ ⟨rest, rfl⟩
  · intro hechoes
    obtain ⟨before', covered', made', echo, rest', ht'', hbefore', hcovered, htext', hecho,
      hkey⟩ := hechoes
    have hsame : before' ++ covered' = front ∧ rest' = rest :=
      append_inj_of_width_eq (by rw [← ht'', ht]) (by omega)
    obtain ⟨hfront'', rfl⟩ := hsame
    obtain ⟨rfl, rfl⟩ : before' = before ∧ covered' = covered :=
      append_inj_of_width_eq (by rw [hfront'', hfront']) (by omega)
    have hmade' : made' ++ echo = made := by
      rw [htext] at htext'
      exact (List.append_cancel_right htext').symm
    have hplace : (width made' : Int) = c.index + d.shift := by
      rw [← hmade', width_append] at hmade
      rw [width_append] at hcovered
      omega
    suffices hstill : ∃ right, echo ++ rest' = c.key ++ right by
      obtain ⟨right, hright⟩ := hstill
      refine ⟨_, splice?_eq_some_iff.mpr ⟨made', right, ?_, hplace, hstands.length_eq, rfl⟩⟩
      rw [htext', List.append_assoc, hright, List.append_assoc]
    rcases hkey with ⟨more, rfl⟩ | ⟨more, hmore⟩
    · exact ⟨more ++ rest', by rw [List.append_assoc]⟩
    · rw [← hmore, List.append_assoc] at hkeyed
      obtain ⟨-, hrest⟩ := append_inj_of_width_eq hkeyed hecho
      exact ⟨back, by rw [← hmore, ← hrest, List.append_assoc]⟩

/-- No candidate that meets one taken before is echoed. -/
def EchoFree (t : Text) (cs : List Candidate) : Prop :=
  ∀ before c after, cs = before ++ c :: after →
    (∃ a ∈ (fresh t).taken before, a.meets c) →
    ¬ Echoes t (reached ((fresh t).taken before)) ((fresh t).walk before) c

/-- A text in which the keys of candidates are replaced by their values, from left to right,
and everything else is copied. -/
inductive Replaced : List Candidate → Text → Text → Prop
  | nil : Replaced [] [] []
  | keep {cs : List Candidate} {t u : Text} (between : Text) (h : Replaced cs t u) :
      Replaced cs (t ++ between) (u ++ between)
  | put {cs : List Candidate} {t u : Text} (c : Candidate) (h : Replaced cs t u)
      (hplace : width t = c.index) : Replaced (cs ++ [c]) (t ++ c.key) (u ++ c.value)

section Lineup

variable {t : Text} {before after : List Candidate} {c : Candidate}

theorem meets_taken_iff (h : Lineup t (before ++ c :: after)) :
    (∃ a ∈ (fresh t).taken before, a.meets c) ↔ c.index < reached ((fresh t).taken before) := by
  have hsub := (taken_sublist (fresh t) before).subset
  rw [lt_reached_iff]
  constructor
  · intro hover
    obtain ⟨a, ha, hmeets⟩ := hover
    exact ⟨a, ha, (h.meets_iff (hsub ha)).mp hmeets⟩
  · intro hbehind
    obtain ⟨a, ha, hlt⟩ := hbehind
    exact ⟨a, ha, (h.meets_iff (hsub ha)).mpr hlt⟩

/-- A candidate that meets one taken before is dropped exactly if it is not echoed. -/
theorem dropped_iff_not_echoes (h : Lineup t (before ++ c :: after))
    (hmeets : ∃ a ∈ (fresh t).taken before, a.meets c) :
    ((fresh t).walk before).splice? c = none ↔
      ¬ Echoes t (reached ((fresh t).taken before)) ((fresh t).walk before) c := by
  have hiff := (untouchedFrom_walk t before).splice?_eq_some_iff_echoes h.head
    ((meets_taken_iff h).mp hmeets)
  rw [← hiff, ← Option.isSome_iff_exists, Option.not_isSome_iff_eq_none]

/-- Without echoes, what is dropped is what meets a candidate taken before. -/
theorem EchoFree.dropped_iff (hfree : EchoFree t (before ++ c :: after))
    (h : Lineup t (before ++ c :: after)) :
    ((fresh t).walk before).splice? c = none ↔ ∃ a ∈ (fresh t).taken before, a.meets c := by
  constructor
  · intro hnone
    rw [meets_taken_iff h]
    by_contra hbehind
    obtain ⟨_, _, _, _, -, -, -, -, -, hsome⟩ :=
      (untouchedFrom_walk t before).splice?_eq h.head (Nat.le_of_not_lt hbehind)
    rw [hnone] at hsome
    cases hsome
  · intro hmeets
    exact (dropped_iff_not_echoes h hmeets).mpr (hfree before c after rfl hmeets)

theorem EchoFree.of_append {cs : List Candidate} (hfree : EchoFree t (before ++ cs)) :
    EchoFree t before := by
  intro front c back hsplit hmeets
  subst hsplit
  exact hfree front c (back ++ cs) (by simp) hmeets

end Lineup

/-- Without echoes the candidates that are taken do not overlap. -/
theorem EchoFree.taken_apart {t : Text} {cs : List Candidate} (hfree : EchoFree t cs)
    (h : Lineup t cs) : ((fresh t).taken cs).Pairwise fun a b => a.stop ≤ b.index := by
  induction cs using List.reverseRecOn with
  | nil => exact List.Pairwise.nil
  | append_singleton cs c ih =>
    have hbefore := ih hfree.of_append h.of_append
    cases hsplice : ((fresh t).walk cs).splice? c with
    | none =>
      rw [taken_concat_of_none hsplice]
      exact hbefore
    | some d' =>
      rw [taken_concat_of_some hsplice, List.pairwise_append]
      refine ⟨hbefore, List.pairwise_singleton _ c, fun a ha b hb => ?_⟩
      obtain rfl := List.mem_singleton.mp hb
      by_contra hlt
      have hmeets := (meets_taken_iff h).mpr (lt_reached_iff.mpr ⟨a, ha, by omega⟩)
      rw [(hfree.dropped_iff h).mpr hmeets] at hsplice
      cases hsplice

/-- Without echoes the draft is the text with the values of the taken candidates in it. -/
theorem EchoFree.replaced_walk {t : Text} {cs : List Candidate} (hfree : EchoFree t cs)
    (h : Lineup t cs) : ∃ front made rest, t = front ++ rest ∧
      width front = reached ((fresh t).taken cs) ∧ ((fresh t).walk cs).text = made ++ rest ∧
      Replaced ((fresh t).taken cs) front made := by
  induction cs using List.reverseRecOn with
  | nil => exact ⟨[], [], t, rfl, rfl, rfl, Replaced.nil⟩
  | append_singleton cs c ih =>
    obtain ⟨front, made, rest, ht, hfront, htext, hreplaced⟩ := ih hfree.of_append h.of_append
    by_cases hlt : c.index < reached ((fresh t).taken cs)
    · have hnone := (hfree.dropped_iff h).mpr ((meets_taken_iff h).mpr hlt)
      rw [walk_concat_of_none hnone, taken_concat_of_none hnone]
      exact ⟨front, made, rest, ht, hfront, htext, hreplaced⟩
    · obtain ⟨front', made', between, rest', ht', hfront', hplace, htext', -, hsome⟩ :=
        (untouchedFrom_walk t cs).splice?_eq h.head (Nat.le_of_not_lt hlt)
      obtain ⟨rfl, hrest⟩ : front' = front ∧ between ++ c.key ++ rest' = rest := by
        refine append_inj_of_width_eq ?_ (by omega)
        rw [← ht, ht']
        simp only [List.append_assoc]
      have hmade : made' = made := by
        rw [← hrest, htext'] at htext
        simp only [List.append_assoc] at htext
        exact List.append_cancel_right htext
      subst hmade
      rw [walk_concat_of_some hsome, taken_concat_of_some hsome]
      refine ⟨front' ++ between ++ c.key, made' ++ between ++ c.value, rest', ht', ?_, rfl,
        (hreplaced.keep between).put c hplace⟩
      have hlength := h.head.length_eq
      simp only [width_append, reached_append, reached, Candidate.stop] at hplace hfront ⊢
      omega

/-- Putting in the words of a text, for all words, shields and texts. A word that shares a byte
with one put in before is dropped, unless the text put in before echoes it. If there are no
echoes, the words put in do not overlap, a word is dropped exactly if it meets one that comes
before it in the order and was put in, and the outcome is the text with the keys of the words
put in replaced by their values, which all stay as they are. -/
theorem overlapping_dropped_unless_echoed (words : List Word) (cover : List Shield) (t : Text) :
    ((fresh t).apply (inOrder (candidates words cover t))).1 =
        (fresh t).walk (trials words cover t) ∧
    (∀ before c after, trials words cover t = before ++ c :: after →
      (∃ a ∈ (fresh t).taken before, a.meets c) →
      (((fresh t).walk before).splice? c = none ↔
        ¬ Echoes t (reached ((fresh t).taken before)) ((fresh t).walk before) c)) ∧
    (EchoFree t (trials words cover t) →
      ((fresh t).taken (trials words cover t)).Pairwise (fun a b => a.stop ≤ b.index) ∧
      (∀ before c after, trials words cover t = before ++ c :: after →
        (((fresh t).walk before).splice? c = none ↔
          ∃ a ∈ (fresh t).taken before, a.meets c ∧ a.precedes c = true)) ∧
      Replaced ((fresh t).taken (trials words cover t)) t
        ((fresh t).walk (trials words cover t)).text) := by
  have hline : Lineup t (trials words cover t) := lineup_tried words cover t
  refine ⟨by rw [apply_eq]; rfl, ?_, fun hfree => ⟨hfree.taken_apart hline, ?_, ?_⟩⟩
  · intro before c after hsplit hmeets
    rw [hsplit] at hline
    exact dropped_iff_not_echoes hline hmeets
  · intro before c after hsplit
    rw [hsplit] at hline hfree
    rw [hfree.dropped_iff hline]
    constructor
    · intro hover
      obtain ⟨a, ha, hmeets⟩ := hover
      have hmem := (taken_sublist (fresh t) before).subset ha
      exact ⟨a, ha, hmeets, (hline.precedes_head hmem).2⟩
    · intro hover
      obtain ⟨a, ha, hmeets, -⟩ := hover
      exact ⟨a, ha, hmeets⟩
  · obtain ⟨front, made, rest, ht, -, htext, hreplaced⟩ := hfree.replaced_walk hline
    have hdone := hreplaced.keep rest
    rw [← ht, ← htext] at hdone
    exact hdone

def nestedWords (value : Text) : WordTable :=
  ⟨[⟨['-', 'a'], value⟩, ⟨['a'], ['x']⟩], by simp⟩

/-- Where the longer word leaves no `a` behind, the shorter one is dropped. -/
theorem overlapping_dropped_at_nestedWords :
    EchoFree ['-', '-', 'a'] (trials (nestedWords ['k']).entries [] ['-', '-', 'a']) ∧
    Replaced [⟨['-', 'a'], ['k'], 1, 2, false⟩] ['-', '-', 'a'] ['-', 'k'] := by
  have hgeneral := overlapping_dropped_unless_echoed (nestedWords ['k']).entries [] ['-', '-', 'a']
  have htrials : trials (nestedWords ['k']).entries [] ['-', '-', 'a'] =
      [⟨['-', 'a'], ['k'], 1, 2, false⟩, ⟨['a'], ['x'], 2, 1, false⟩] := by decide
  rw [htrials] at hgeneral ⊢
  have hfree : EchoFree ['-', '-', 'a']
      [⟨['-', 'a'], ['k'], 1, 2, false⟩, ⟨['a'], ['x'], 2, 1, false⟩] := by
    intro before c after hsplit hmeets
    refine (hgeneral.2.1 before c after hsplit hmeets).mp ?_
    match before, hsplit with
    | [], _ =>
      obtain ⟨a, ha, -⟩ := hmeets
      cases ha
    | [_], hsplit =>
      cases hsplit
      decide
    | _ :: _ :: _, hsplit => simp at hsplit
  exact ⟨hfree, (hgeneral.2.2 hfree).2.2⟩

/-- Where it does leave one behind, the shorter word is put in although its only letter was
replaced before: not every word that shares a byte with one put in before is dropped. -/
theorem not_dropped_at_nestedWords :
    ((fresh ['-', '-', 'a']).apply
      (inOrder (candidates (nestedWords ['a', 'a', 'a']).entries [] ['-', '-', 'a']))).1.text =
        ['-', 'a', 'a', 'x'] ∧
    ¬ ∀ (table : WordTable) (cover : List Shield) (t : Text) (before after : List Candidate)
        (c : Candidate), trials table.entries cover t = before ++ c :: after →
      (∃ a ∈ (fresh t).taken before, a.meets c) → c.full = false →
      ((fresh t).walk before).splice? c = none := by
  refine ⟨by decide, fun h => ?_⟩
  have hdropped := h (nestedWords ['a', 'a', 'a']) [] ['-', '-', 'a']
    [⟨['-', 'a'], ['a', 'a', 'a'], 1, 2, false⟩] [] ⟨['a'], ['x'], 2, 1, false⟩ (by decide)
    ⟨⟨['-', 'a'], ['a', 'a', 'a'], 1, 2, false⟩, by decide, by decide, by decide⟩ rfl
  exact absurd hdropped (by decide)

end Draft

end Phrasebook
