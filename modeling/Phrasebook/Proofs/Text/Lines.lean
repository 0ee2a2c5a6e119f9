import Mathlib.Data.List.TakeWhile
import Phrasebook.Text.Lines

/-!
Parts between separators, put together and taken apart again, and texts that trimming leaves as
they are.
-/

namespace Phrasebook.Text

/-- The last element of a list is the one at a cut or stands at the end of what is behind it. -/
theorem append_singleton_eq_append_cons {α : Type} {xs before after : List α} {x y : α}
    (h : xs ++ [y] = before ++ x :: after) :
    (after = [] ∧ x = y) ∨ ∃ middle, after = middle ++ [y] ∧ xs = before ++ x :: middle := by
  rcases List.eq_nil_or_concat after with rfl | ⟨middle, z, rfl⟩
  · obtain ⟨-, hlast⟩ := List.append_inj' h rfl
    obtain ⟨rfl, -⟩ := List.cons.inj hlast
    exact Or.inl ⟨rfl, rfl⟩
  · rw [List.concat_eq_append, ← List.cons_append, ← List.append_assoc] at h
    obtain ⟨hfront, hlast⟩ := List.append_inj' h rfl
    obtain ⟨rfl, -⟩ := List.cons.inj hlast
    exact Or.inr ⟨middle, List.concat_eq_append, hfront⟩

/-- A list is cut behind the last place where an element stands. -/
theorem cut_at_last {α : Type} [BEq α] [LawfulBEq α] (x : α) (reversed : List α) :
    reversed.reverse = (reversed.dropWhile (· != x)).reverse ++
      (reversed.takeWhile (· != x)).reverse ∧
    ((reversed.dropWhile (· != x)).reverse = [] ∨
      ∃ front, (reversed.dropWhile (· != x)).reverse = front ++ [x]) ∧
    x ∉ (reversed.takeWhile (· != x)).reverse := by
  refine ⟨?_, ?_, ?_⟩
  · rw [← List.reverse_append, List.takeWhile_append_dropWhile]
  · cases hdrop : reversed.dropWhile (· != x) with
    | nil => exact Or.inl rfl
    | cons y front =>
      have hhead := List.head?_dropWhile_not (· != x) reversed
      rw [hdrop] at hhead
      have hy : y = x := by simpa using hhead
      exact Or.inr ⟨front.reverse, by rw [hy, List.reverse_cons]⟩
  · intro hmem
    have hne := List.mem_takeWhile_imp (List.mem_reverse.mp hmem)
    simp at hne

section Pieces

variable {α : Type} {isSeparator : α → Bool}

theorem pieces_of_forall_not {part : List α} (h : ∀ a ∈ part, isSeparator a = false) :
    pieces isSeparator part = [part] := by
  induction part with
  | nil => rfl
  | cons a part ih =>
    have hpart := ih fun b hb => h b (List.mem_cons_of_mem a hb)
    simp only [pieces, h a List.mem_cons_self, hpart, Bool.false_eq_true, if_false]

/-- A separator ends the part before it, and what follows is cut on its own. -/
theorem pieces_append_separator (s : List α) {separator : α} (rest : List α)
    (hseparator : isSeparator separator = true) :
    pieces isSeparator (s ++ separator :: rest) =
      pieces isSeparator s ++ pieces isSeparator rest := by
  induction s with
  | nil => simp only [List.nil_append, pieces, hseparator, if_true, List.singleton_append]
  | cons a s ih =>
    simp only [List.cons_append, pieces, ih]
    split
    · rfl
    · cases hparts : pieces isSeparator s with
      | nil => exact absurd hparts (pieces_ne_nil isSeparator s)
      | cons part parts => rfl

/-- A part ends at the first separator. -/
theorem pieces_append_cons {part rest : List α} {separator : α}
    (h : ∀ a ∈ part, isSeparator a = false) (hseparator : isSeparator separator = true) :
    pieces isSeparator (part ++ separator :: rest) = part :: pieces isSeparator rest := by
  rw [pieces_append_separator part rest hseparator, pieces_of_forall_not h]
  rfl

theorem mem_of_mem_pieces {t part : List α} {a : α} (h : part ∈ pieces isSeparator t)
    (ha : a ∈ part) : a ∈ t := by
  induction t generalizing part with
  | nil =>
    rw [pieces, List.mem_singleton] at h
    simp [h] at ha
  | cons b t ih =>
    simp only [pieces] at h
    split at h
    · rcases List.mem_cons.mp h with rfl | hpart
      · cases ha
      · exact List.mem_cons_of_mem b (ih hpart ha)
    · cases hpieces : pieces isSeparator t with
      | nil => exact absurd hpieces (pieces_ne_nil isSeparator t)
      | cons first others =>
        rw [hpieces] at h
        rcases List.mem_cons.mp h with rfl | hpart
        · rcases List.mem_cons.mp ha with rfl | ha
          · exact List.mem_cons_self
          · exact List.mem_cons_of_mem b (ih (hpieces ▸ List.mem_cons_self) ha)
        · exact List.mem_cons_of_mem b (ih (hpieces ▸ List.mem_cons_of_mem first hpart) ha)

/-- No part has a separator in it. -/
theorem not_separator_of_mem_pieces {t part : List α} (h : part ∈ pieces isSeparator t) :
    ∀ a ∈ part, isSeparator a = false := by
  induction t generalizing part with
  | nil =>
    rw [pieces, List.mem_singleton] at h
    simp [h]
  | cons a t ih =>
    simp only [pieces] at h
    split at h
    · rcases List.mem_cons.mp h with rfl | hpart
      · simp
      · exact ih hpart
    · rename_i ha
      split at h
      · rw [List.mem_singleton] at h
        subst h
        simpa using ha
      · rename_i first others hpieces
        rcases List.mem_cons.mp h with rfl | hpart
        · intro b hb
          rcases List.mem_cons.mp hb with rfl | hb
          · simpa using ha
          · exact ih (hpieces ▸ List.mem_cons_self) b hb
        · exact ih (hpieces ▸ List.mem_cons_of_mem first hpart)

end Pieces

/-- A run is not empty, and all of it has the property. -/
theorem of_mem_runs {α : Type} {inRun : α → Bool} {t run : List α} (h : run ∈ runs inRun t) :
    run ≠ [] ∧ ∀ a ∈ run, inRun a = true := by
  obtain ⟨hpart, hne⟩ := List.mem_filter.mp h
  refine ⟨by simpa using hne, fun a ha => ?_⟩
  simpa using not_separator_of_mem_pieces hpart a ha

theorem mem_of_mem_runs {α : Type} {inRun : α → Bool} {t run : List α} {a : α}
    (h : run ∈ runs inRun t) (ha : a ∈ run) : a ∈ t :=
  mem_of_mem_pieces (List.mem_filter.mp h).1 ha

theorem runs_append_of_not {α : Type} {inRun : α → Bool} (s : List α) {a : α} (rest : List α)
    (ha : inRun a = false) : runs inRun (s ++ a :: rest) = runs inRun s ++ runs inRun rest := by
  rw [runs, pieces_append_separator s rest (by simp [ha]), List.filter_append]
  rfl

/-- Runs that are put together with a separator between them are found again. -/
theorem runs_intercalate {α : Type} [DecidableEq α] {separator : α} {parts : List (List α)}
    (hne : ∀ part ∈ parts, part ≠ []) (hfree : ∀ part ∈ parts, separator ∉ part) :
    runs (· != separator) ([separator].intercalate parts) = parts := by
  have hfree' : ∀ part ∈ parts, ∀ a ∈ part, (!(a != separator)) = false := by
    intro part hpart a ha
    have hdiff : a ≠ separator := by
      intro heq
      subst heq
      exact hfree part hpart ha
    simpa using hdiff
  unfold runs
  induction parts with
  | nil => rfl
  | cons part parts ih =>
    have htail := ih (fun p hp => hne p (List.mem_cons_of_mem part hp))
      (fun p hp => hfree p (List.mem_cons_of_mem part hp))
      (fun p hp => hfree' p (List.mem_cons_of_mem part hp))
    have hhead := hfree' part List.mem_cons_self
    have hkeep : (!part.isEmpty) = true := by simpa using hne part List.mem_cons_self
    cases parts with
    | nil =>
      rw [List.intercalate_singleton, pieces_of_forall_not hhead,
        List.filter_cons_of_pos (by simpa using hkeep), List.filter_nil]
    | cons next parts =>
      rw [List.intercalate_cons_cons, List.append_assoc, List.singleton_append,
        pieces_append_cons hhead (by simp), List.filter_cons_of_pos (by simpa using hkeep), htail]

/-- Only the last part can be left without its line end. -/
theorem endLines_append {α : Type} [BEq α] (carriageReturn : α) (ended : List (List α))
    {others : List (List α)} (h : others ≠ []) :
    endLines carriageReturn (ended ++ others) =
      ended.map (dropLastIf carriageReturn) ++ endLines carriageReturn others := by
  obtain ⟨next, rest, rfl⟩ := List.exists_cons_of_ne_nil h
  induction ended with
  | nil => rfl
  | cons line ended ih =>
    rw [List.map_cons, List.cons_append, List.cons_append, ← ih]
    cases ended with
    | nil => rfl
    | cons line' ended => rfl

/-- A newline ends what stands before it, and what follows has lines of its own. -/
theorem lines_append (s rest : Text) :
    lines (s ++ '\n' :: rest) =
      (pieces (fun c => c == '\n') s).map (dropLastIf '\r') ++ lines rest := by
  rw [lines, pieces_append_separator s rest (by simp), endLines_append _ _ (pieces_ne_nil _ _)]
  rfl

/-- A character in front that ends no line stands in front of the first line. -/
theorem lines_cons {c : Char} (t : Text) (hnewline : c ≠ '\n') (hreturn : c ≠ '\r') :
    lines (c :: t) = (c :: (lines t).headD []) :: (lines t).tail := by
  have hseparator : (c == '\n') = false := beq_false_of_ne hnewline
  simp only [lines, pieces, hseparator, Bool.false_eq_true, if_false]
  cases hparts : pieces (fun c => c == '\n') t with
  | nil => exact absurd hparts (pieces_ne_nil _ t)
  | cons first others =>
    cases others with
    | nil => cases first <;> rfl
    | cons next rest =>
      have hline : dropLastIf '\r' (c :: first) = c :: dropLastIf '\r' first := by
        unfold dropLastIf
        cases first with
        | nil => simp [hreturn]
        | cons d first =>
          rw [List.getLast?_cons_cons]
          split <;> rfl
      simp only [endLines, hline, List.headD_cons, List.tail_cons]

theorem pieces_newline {line : Text} (h : '\n' ∉ line) :
    pieces (fun c => c == '\n') line = [line] := by
  exact pieces_of_forall_not fun c hc => beq_eq_false_iff_ne.mpr (ne_of_mem_of_not_mem hc h)

/-- A newline ends a line, whatever follows it. -/
theorem lines_append_newline {line : Text} (rest : Text) (h : '\n' ∉ line) :
    lines (line ++ '\n' :: rest) = dropLastIf '\r' line :: lines rest := by
  rw [lines_append, pieces_newline h]
  rfl

theorem dropLastIf_of_not_mem {α : Type} [BEq α] [LawfulBEq α] {last : α} {line : List α}
    (h : last ∉ line) : dropLastIf last line = line := by
  unfold dropLastIf
  split
  · rename_i hlast
    exact absurd (List.mem_of_getLast? (by simpa using hlast)) h
  · rfl

/-- Lines that are ended by newlines are found again, and what follows has lines of its own. -/
theorem lines_flatMap_newline_append {ls : List Text} (rest : Text)
    (h : ∀ line ∈ ls, '\n' ∉ line ∧ '\r' ∉ line) :
    lines ((ls.flatMap fun line => line ++ ['\n']) ++ rest) = ls ++ lines rest := by
  induction ls with
  | nil => rfl
  | cons line ls ih =>
    obtain ⟨hnewline, hreturn⟩ := h line List.mem_cons_self
    have htail := ih fun l hl => h l (List.mem_cons_of_mem line hl)
    rw [List.flatMap_cons, List.append_assoc, List.append_assoc, List.singleton_append,
      lines_append_newline _ hnewline, dropLastIf_of_not_mem hreturn, htail, List.cons_append]

/-- Lines that are ended by newlines are found again. -/
theorem lines_flatMap_newline {ls : List Text}
    (h : ∀ line ∈ ls, '\n' ∉ line ∧ '\r' ∉ line) :
    lines (ls.flatMap fun line => line ++ ['\n']) = ls := by
  have hlines := lines_flatMap_newline_append [] h
  rwa [List.append_nil, show lines [] = [] from rfl, List.append_nil] at hlines

/-- Texts that are ended by newlines are found again by cutting at the newlines exactly if none of
them holds one. -/
theorem pieces_flatMap_newline_iff {ls : List Text} :
    pieces (fun c => c == '\n') (ls.flatMap fun line => line ++ ['\n']) = ls ++ [[]] ↔
      ∀ line ∈ ls, '\n' ∉ line := by
  constructor
  · intro hcut line hline hmem
    have hpart : line ∈ pieces (fun c => c == '\n') (ls.flatMap fun line => line ++ ['\n']) := by
      rw [hcut]
      exact List.mem_append_left _ hline
    have hfree := not_separator_of_mem_pieces hpart '\n' hmem
    exact absurd hfree (by decide)
  · intro hfree
    induction ls with
    | nil => rfl
    | cons line ls ih =>
      have hline := hfree line List.mem_cons_self
      rw [List.flatMap_cons, List.append_assoc, List.singleton_append,
        pieces_append_separator _ _ (by simp), pieces_newline hline,
        ih fun l hl => hfree l (List.mem_cons_of_mem line hl)]
      rfl

theorem count_flatMap_newline_cons (line : Text) (ls : List Text) :
    ((line :: ls).flatMap fun line => line ++ ['\n']).count '\n' =
      line.count '\n' + 1 + (ls.flatMap fun line => line ++ ['\n']).count '\n' := by
  rw [List.flatMap_cons, List.count_append, List.count_append, List.count_singleton_self]

theorem length_le_count_flatMap_newline (ls : List Text) :
    ls.length ≤ (ls.flatMap fun line => line ++ ['\n']).count '\n' := by
  induction ls with
  | nil => exact Nat.le_refl 0
  | cons line ls ih =>
    rw [count_flatMap_newline_cons, List.length_cons]
    omega

/-- There is one newline for each text exactly if none of them holds one. -/
theorem count_flatMap_newline_iff {ls : List Text} :
    (ls.flatMap fun line => line ++ ['\n']).count '\n' = ls.length ↔
      ∀ line ∈ ls, '\n' ∉ line := by
  induction ls with
  | nil => simp
  | cons line ls ih =>
    have hothers := length_le_count_flatMap_newline ls
    rw [List.forall_mem_cons, ← ih, ← List.count_eq_zero, count_flatMap_newline_cons,
      List.length_cons]
    omega

def unfinished (t : Text) : Text := (t.reverse.takeWhile (· != '\n')).reverse

theorem newline_not_mem_unfinished (t : Text) : '\n' ∉ unfinished t :=
  (cut_at_last '\n' t.reverse).2.2

/-- Whatever is written behind a text, only its unfinished line changes. -/
theorem exists_finished (t : Text) : ∃ finished, ∀ rest,
    lines (t ++ rest) = finished ++ lines (unfinished t ++ rest) := by
  obtain ⟨hsplit, hfront, -⟩ := cut_at_last '\n' t.reverse
  rw [List.reverse_reverse, ← unfinished] at hsplit
  rcases hfront with hnil | ⟨front, hfront⟩
  · rw [hnil, List.nil_append] at hsplit
    exact ⟨[], fun rest => by rw [← hsplit, List.nil_append]⟩
  · rw [hfront, List.append_assoc, List.singleton_append] at hsplit
    refine ⟨(pieces (fun c => c == '\n') front).map (dropLastIf '\r'), fun rest => ?_⟩
    rw [← lines_append, ← List.cons_append, ← List.append_assoc, ← hsplit]

theorem lines_of_not_mem {line : Text} (hne : line ≠ []) (h : '\n' ∉ line) :
    lines line = [line] := by
  rw [lines, pieces_newline h, endLines, if_neg (by simpa using hne)]

def StartsVisibly (t : Text) : Prop := ∃ c rest, t = c :: rest ∧ isBlank c = false

def EndsVisibly (t : Text) : Prop := ∃ front c, t = front ++ [c] ∧ isBlank c = false

theorem StartsVisibly.append {s : Text} (h : StartsVisibly s) (t : Text) :
    StartsVisibly (s ++ t) := by
  obtain ⟨c, rest, rfl, hc⟩ := h
  exact ⟨c, rest ++ t, rfl, hc⟩

theorem EndsVisibly.append {t : Text} (s : Text) (h : EndsVisibly t) :
    EndsVisibly (s ++ t) := by
  obtain ⟨front, c, rfl, hc⟩ := h
  exact ⟨s ++ front, c, (List.append_assoc s front [c]).symm, hc⟩

theorem trimEnd_eq_self {t : Text} (h : EndsVisibly t) : trimEnd t = t := by
  obtain ⟨front, c, rfl, hc⟩ := h
  rw [trimEnd, List.reverse_append, List.reverse_singleton, List.singleton_append,
    List.dropWhile_cons_of_neg (by simp [hc]), List.reverse_cons, List.reverse_reverse]

theorem trim_eq_self {t : Text} (hstart : StartsVisibly t) (hend : EndsVisibly t) :
    trim t = t := by
  have htrimStart : trimStart t = t := by
    obtain ⟨c, rest, rfl, hc⟩ := hstart
    rw [trimStart, List.dropWhile_cons_of_neg (by simp [hc])]
  rw [trim, htrimStart, trimEnd_eq_self hend]

theorem trimStart_eq_nil_iff {t : Text} : trimStart t = [] ↔ ∀ c ∈ t, isBlank c = true :=
  List.dropWhile_eq_nil_iff

/-- White space in front does not count. -/
theorem trim_append_of_blank {s : Text} (t : Text) (h : ∀ c ∈ s, isBlank c = true) :
    trim (s ++ t) = trim t := by
  rw [trim, trim, trimStart, trimStart, List.dropWhile_append_of_pos h]

/-- White space at the end does not count either. -/
theorem trim_append_blank (s : Text) {blank : Text} (h : ∀ c ∈ blank, isBlank c = true) :
    trim (s ++ blank) = trim s := by
  have hend : ∀ t, trimEnd (t ++ blank) = trimEnd t := by
    intro t
    rw [trimEnd, List.reverse_append, List.dropWhile_append_of_pos fun c hc =>
      h c (List.mem_reverse.mp hc), trimEnd]
  rw [trim, trim, trimStart, trimStart, List.dropWhile_append]
  split
  · rename_i hnil
    rw [List.isEmpty_iff] at hnil
    rw [List.dropWhile_eq_nil_iff.mpr h, hnil]
  · exact hend _

theorem trim_append {s t : Text} (hs : trimStart s ≠ []) (ht : EndsVisibly t) :
    trim (s ++ t) = trimStart s ++ t := by
  have hstart : trimStart (s ++ t) = trimStart s ++ t := by
    rw [trimStart, List.dropWhile_append, if_neg (by simpa [trimStart] using hs), trimStart]
  rw [trim, hstart, trimEnd_eq_self (ht.append (trimStart s))]

/-- A line that shows its last character loses none of it at its end. -/
theorem dropLastIf_of_endsVisibly {last : Char} {line : Text} (hlast : isBlank last = true)
    (h : EndsVisibly line) : dropLastIf last line = line := by
  obtain ⟨front, c, rfl, hc⟩ := h
  have hne : c ≠ last := by
    intro heq
    rw [heq, hlast] at hc
    cases hc
  rw [dropLastIf, List.getLast?_concat, if_neg (by simpa using hne)]

theorem startsVisibly_dropWhile {t : Text} (h : t.dropWhile isBlank ≠ []) :
    StartsVisibly (t.dropWhile isBlank) := by
  induction t with
  | nil => simp at h
  | cons c t ih =>
    cases hc : isBlank c with
    | true =>
      rw [List.dropWhile_cons_of_pos hc] at h ⊢
      exact ih h
    | false =>
      rw [List.dropWhile_cons_of_neg (by simp [hc])]
      exact ⟨c, t, rfl, hc⟩

theorem endsVisibly_trimEnd {t : Text} (h : trimEnd t ≠ []) : EndsVisibly (trimEnd t) := by
  have hne : t.reverse.dropWhile isBlank ≠ [] := by
    intro hnil
    exact h (by rw [trimEnd, hnil, List.reverse_nil])
  obtain ⟨c, rest, hrest, hc⟩ := startsVisibly_dropWhile hne
  exact ⟨rest.reverse, c, by rw [trimEnd, hrest, List.reverse_cons], hc⟩

end Phrasebook.Text
