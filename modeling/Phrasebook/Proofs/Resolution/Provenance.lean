import Phrasebook.Proofs.Dictionary.Basic
import Phrasebook.Proofs.Resolution.Shielding

/-!
Where the characters of an outcome come from. A replacement copies stretches of the text and
writes what the template says, and a word that is put in brings its value. So every character
stands in the text, in the value of a word or in the template of a rule.
-/

namespace Phrasebook

open Text

namespace Pattern

variable {c : Char}

theorem mem_cons_of_char_mem_cons {a : Char} {rest : Text} {ps : List Part}
    (hrest : .char c ∈ ps → c ∈ rest) (h : .char c ∈ Part.char a :: ps) : c ∈ a :: rest := by
  rcases List.mem_cons.mp h with heq | hmem
  · cases heq
    exact List.mem_cons_self
  · exact List.mem_cons_of_mem a (hrest hmem)

/-- A part of a template that is a character is a character of the template. -/
theorem mem_of_char_mem_parts {template : Text} (h : .char c ∈ parts template) :
    c ∈ template := by
  fun_induction parts template with
  | case1 => cases h
  | case2 rest ih => exact mem_cons_of_char_mem_cons (List.mem_cons_of_mem '$' ∘ ih) h
  | case3 rest hdrop ih =>
    exact mem_cons_of_char_mem_cons (mem_cons_of_char_mem_cons ih) h
  | case4 rest brace after hdrop hlt ih =>
    have hbehind : .char c ∈ parts after := (List.mem_cons.mp h).resolve_left nofun
    have hafter : c ∈ rest.dropWhile (· != '}') := by
      rw [hdrop]
      exact List.mem_cons_of_mem brace (ih hbehind)
    have hrest : c ∈ rest := (List.dropWhile_sublist _).mem hafter
    exact List.mem_cons_of_mem '$' (List.mem_cons_of_mem '{' hrest)
  | case5 rest _ _ _ hnone ih => exact mem_cons_of_char_mem_cons ih h
  | case6 rest _ _ _ hsome ih =>
    have hbehind : .char c ∈ parts (rest.dropWhile refChar) :=
      (List.mem_cons.mp h).resolve_left nofun
    exact List.mem_cons_of_mem '$' ((List.dropWhile_sublist refChar).mem (ih hbehind))
  | case7 a rest _ _ _ ih => exact mem_cons_of_char_mem_cons ih h

theorem mem_of_mem_extract {t : Array Char} {start stop : Nat}
    (h : c ∈ (t.extract start stop).toList) : c ∈ t.toList := by
  rw [Array.toList_extract, List.extract_eq_take_drop] at h
  exact List.mem_of_mem_drop (List.mem_of_mem_take h)

/-- What a part of a template stands for is that character, or a stretch of the text. -/
theorem mem_fill {p : Pattern} {t : Array Char} {marks : Marks} {part : Part}
    (h : c ∈ p.fill t marks part) : part = .char c ∨ c ∈ t.toList := by
  cases part with
  | char a =>
    rw [fill, List.mem_singleton] at h
    exact Or.inl (congrArg Part.char h.symm)
  | group ref =>
    refine Or.inr ?_
    simp only [fill] at h
    split at h
    · exact mem_of_mem_extract h
    · cases h

theorem mem_substituteFrom {p : Pattern} {template : List Part} {t : Array Char} {start : Nat}
    {found : List Marks} (h : c ∈ p.substituteFrom template t start found) :
    c ∈ t.toList ∨ .char c ∈ template := by
  induction found generalizing start with
  | nil => exact Or.inl (mem_of_mem_extract h)
  | cons marks rest ih =>
    rw [substituteFrom] at h
    split at h
    · rcases List.mem_append.mp h with hfront | hrest
      · rcases List.mem_append.mp hfront with hbefore | hfilled
        · exact Or.inl (mem_of_mem_extract hbefore)
        · obtain ⟨part, hpart, hmem⟩ := List.mem_flatMap.mp hfilled
          rcases mem_fill hmem with rfl | htext
          · exact Or.inr hpart
          · exact Or.inl htext
      · exact ih hrest
    · exact ih h

theorem mem_replaceAll {p : Pattern} {template t : Text} (h : c ∈ p.replaceAll template t) :
    c ∈ t ∨ c ∈ template := by
  rcases mem_substituteFrom h with htext | htemplate
  · exact Or.inl htext
  · exact Or.inr (mem_of_char_mem_parts htemplate)

end Pattern

/-- What a fold has in the end it had in the beginning, or one of the elements brought it. -/
theorem had_or_brought_of_foldl {α β : Type} {step : β → α → β} (has : β → Prop)
    {brings : α → Prop} (hstep : ∀ b a, has (step b a) → has b ∨ brings a) {as : List α} {b : β}
    (h : has (as.foldl step b)) : has b ∨ ∃ a ∈ as, brings a := by
  induction as generalizing b with
  | nil => exact Or.inl h
  | cons a as ih =>
    rcases ih h with hafter | ⟨x, hx, hbrings⟩
    · rcases hstep b a hafter with hbefore | hbrings
      · exact Or.inl hbefore
      · exact Or.inr ⟨a, List.mem_cons_self, hbrings⟩
    · exact Or.inr ⟨x, List.mem_cons_of_mem a hx, hbrings⟩

theorem Expansion.mem_text_apply {c : Char} (e : Expansion) (r : Rule)
    (h : c ∈ (e.apply r).text) : c ∈ e.text ∨ c ∈ r.template := by
  unfold apply at h
  split at h
  · exact Pattern.mem_replaceAll h
  · exact Or.inl h

theorem Expansion.mem_text_ofRules {rules : List Rule} {t : Text} {c : Char}
    (h : c ∈ (ofRules rules t).text) : c ∈ t ∨ ∃ r ∈ rules, c ∈ r.template :=
  had_or_brought_of_foldl (fun e : Expansion => c ∈ e.text) mem_text_apply h

theorem Draft.mem_text_trial {x : Char} (d : Draft) (c : Candidate)
    (h : x ∈ (d.trial c).text) : x ∈ d.text ∨ x ∈ c.value := by
  unfold trial at h
  cases hsplice : d.splice? c with
  | none =>
    rw [hsplice] at h
    exact Or.inl h
  | some d' =>
    rw [hsplice] at h
    obtain ⟨front, back, htext, -, -, rfl⟩ := splice?_eq_some_iff.mp hsplice
    simp only [Option.getD_some, List.mem_append] at h
    rcases h with (hfront | hvalue) | hback
    · exact Or.inl (by simp [htext, hfront])
    · exact Or.inr hvalue
    · exact Or.inl (by simp [htext, hback])

theorem Draft.mem_text_walk {d : Draft} {cs : List Candidate} {x : Char}
    (h : x ∈ (d.walk cs).text) : x ∈ d.text ∨ ∃ c ∈ cs, x ∈ c.value :=
  had_or_brought_of_foldl (fun d : Draft => x ∈ d.text) mem_text_trial h

namespace Dictionary

/-- An entry of the dictionary can bring this character into a text. -/
def Brings (d : Dictionary) (c : Char) : Prop :=
  (∃ w ∈ d.words.entries, c ∈ w.value) ∨ ∃ r ∈ d.rules, c ∈ r.template

/-- Each character of an outcome was in the text or is brought by the dictionary. -/
theorem mem_value_resolve {d : Dictionary} {t : Text} {c : Char}
    (h : c ∈ (d.resolve t).value) : c ∈ t ∨ d.Brings c := by
  have hexpanded : c ∈ (Expansion.ofRules d.rules t).text → c ∈ t ∨ d.Brings c := by
    intro hmem
    rcases Expansion.mem_text_ofRules hmem with htext | hrule
    · exact Or.inl htext
    · exact Or.inr (Or.inr hrule)
  unfold resolve at h
  split at h
  · exact Or.inl h
  split at h
  · rename_i value hlookup
    exact Or.inr (Or.inl ⟨⟨t, value⟩, WordTable.lookup_eq_some_iff.mp hlookup, h⟩)
  · dsimp only at h
    split at h
    · exact hexpanded h
    · rw [value_ofLiterals] at h
      rcases Draft.mem_text_walk h with hmem | ⟨a, ha, hvalue⟩
      · exact hexpanded hmem
      · have hfound := mem_inOrder.mp ((tried_sublist _).subset ha)
        obtain ⟨w, hw, index, -, -, rfl⟩ := mem_candidates_iff.mp hfound
        exact Or.inr (Or.inl ⟨w, hw, hvalue⟩)

end Dictionary

end Phrasebook
