import Phrasebook.Dictionary.Reader
import Phrasebook.Proofs.Pattern.Grouping
import Phrasebook.Proofs.Pattern.Reaching
import Phrasebook.Resolution.Basic

/-!
Exemptions. A pattern that stands between the anchors matches a text exactly if it can match the
text from end to end as it was written, whatever alternatives and options it holds. Every pattern
that can be read alone can be put between the anchors, unless it ends in a comment, which takes in
what comes behind it.
-/

namespace Phrasebook

open Pattern

namespace Pattern

def EndsInComment (source : Text) : Prop := ∃ k, read source = .ok k ∧ k.comment = true

def between (e : Expr) : Expr :=
  .ofSeq [.look .textStart, .group none e, .look .textEnd]

theorem matches_between_iff {t : Text} {e : Expr} {i j : Nat} :
    Matches t (between e) i j ↔ i = 0 ∧ j = t.length ∧ Matches t e 0 t.length := by
  simp only [between, Expr.ofSeq, matches_seq_iff, matches_textStart_iff, matches_textEnd_iff,
    matches_group_iff]
  constructor
  · rintro ⟨k, ⟨rfl, rfl⟩, l, hmatch, rfl, rfl⟩
    exact ⟨rfl, rfl, hmatch⟩
  · rintro ⟨rfl, rfl, hmatch⟩
    exact ⟨0, ⟨rfl, rfl⟩, _, hmatch, rfl, rfl⟩

/-- Between the anchors a pattern of its own has its tree between the start and the end of the
text. -/
theorem parse_anchored {source : Text} {p : Pattern} (h : parse source = .ok p) :
    (EndsInComment source ∧ parse (Exemption.anchored source) = .error .unclosedGroup) ∨
    (¬ EndsInComment source ∧ ∃ q, parse (Exemption.anchored source) = .ok q ∧
      q.expr = between p.expr) := by
  obtain ⟨k, hread, rfl⟩ := parse_eq_ok_iff.mp h
  have hanchored : read (Exemption.anchored source) = _ := read_between hread
  cases hcomment : k.comment with
  | true =>
    rw [hcomment, if_pos rfl] at hanchored
    exact Or.inl ⟨⟨k, hread, hcomment⟩, by rw [parse, hanchored]; rfl⟩
  | false =>
    rw [hcomment, if_neg Bool.false_ne_true] at hanchored
    refine Or.inr ⟨?_, _, parse_eq_ok_iff.mpr ⟨_, hanchored, rfl⟩, rfl⟩
    rintro ⟨k', hread', hends⟩
    rw [hread] at hread'
    cases hread'
    rw [hcomment] at hends
    cases hends

end Pattern

namespace Exemption

theorem compile_eq_ok_iff {source : Text} {e : Exemption} : compile source = .ok e ↔
    ∃ p q, Pattern.compile source = .ok p ∧ Pattern.compile (anchored source) = .ok q ∧
      e = ⟨source, q⟩ := by
  rw [compile, bind_eq_ok_iff]
  constructor
  · rintro ⟨p, hp, hrest⟩
    obtain ⟨q, hq, he⟩ := bind_eq_ok_iff.mp hrest
    exact ⟨p, q, hp, hq, (Except.ok.inj he).symm⟩
  · rintro ⟨p, q, hp, hq, rfl⟩
    exact ⟨p, hp, bind_eq_ok_iff.mpr ⟨q, hq, rfl⟩⟩

/-- An exemption covers a text exactly if its pattern, as it was written, can match the text from
its start to its end. Such a text is left as it is. -/
theorem covers_iff_matches_whole {source : Text} {e : Exemption} (h : compile source = .ok e) :
    ∃ p, Pattern.compile source = .ok p ∧
      (∀ t, e.covers t = true ↔ Matches t p.expr 0 t.length) ∧
      ∀ (d : Dictionary) (t : Text), e ∈ d.exemptions → Matches t p.expr 0 t.length →
        d.resolve t = .complete t := by
  obtain ⟨p, q, hp, hq, rfl⟩ := compile_eq_ok_iff.mp h
  have hcovers : ∀ t, covers ⟨source, q⟩ t = true ↔ Matches t p.expr 0 t.length := by
    intro t
    have hparse := (Pattern.compile_eq_ok_iff.mp hp).1
    have hparse' := (Pattern.compile_eq_ok_iff.mp hq).1
    rcases parse_anchored hparse with ⟨-, hfault⟩ | ⟨-, q', hbetween, hexpr⟩
    · rw [hfault] at hparse'
      cases hparse'
    · rw [hbetween] at hparse'
      obtain rfl := Except.ok.inj hparse'
      rw [covers, isMatch, matchesIn_iff, hexpr]
      simp only [matches_between_iff]
      constructor
      · intro hfound
        obtain ⟨_, _, -, -, hmatch⟩ := hfound
        exact hmatch
      · intro hmatch
        exact ⟨0, t.length, rfl, rfl, hmatch⟩
  refine ⟨p, hp, hcovers, fun d t hmem hmatch => ?_⟩
  have hany : d.exemptions.any (·.covers t) = true :=
    List.any_eq_true.mpr ⟨_, hmem, (hcovers t).mpr hmatch⟩
  rw [Dictionary.resolve, if_pos hany]

/-- The first alternative matches less than the text, the option lets a dollar sign inside match
before a newline, and still just the whole texts are covered. -/
theorem covers_iff_matches_whole_alternatives : ∃ e p,
    compile "(?m)a$|ab$".toList = .ok e ∧ Pattern.compile "(?m)a$|ab$".toList = .ok p ∧
    (e.covers ['a', 'b'] = true ↔ Matches ['a', 'b'] p.expr 0 2) ∧ e.covers ['a', 'b'] = true ∧
    e.covers ['a', '\n'] = false := by
  obtain ⟨e, he⟩ : ∃ e, compile "(?m)a$|ab$".toList = .ok e := ⟨_, rfl⟩
  obtain ⟨p, hp, hcovers, -⟩ := covers_iff_matches_whole he
  refine ⟨e, p, he, hp, hcovers _, ?_, ?_⟩
  · cases he
    decide +kernel
  · cases he
    decide +kernel

/-- How an exemption is accepted or refused, as long as no limit is exceeded. -/
theorem compile_cases {source : Text}
    (hlimits : ∀ p, parse source = .ok p ∨ parse (anchored source) = .ok p →
      p.expr.limited = .ok p.expr) :
    (∃ fault, parse source = .error fault ∧ ¬ EndsInComment source ∧
      compile source = .error fault) ∨
    (∃ p, parse source = .ok p ∧
      ((EndsInComment source ∧ compile source = .error .unclosedGroup) ∨
        (¬ EndsInComment source ∧ ∃ e, compile source = .ok e))) := by
  cases hparse : parse source with
  | error fault =>
    refine Or.inl ⟨fault, rfl, ?_, ?_⟩
    · intro hends
      obtain ⟨k, hread, -⟩ := hends
      rw [parse_eq_ok_iff.mpr ⟨k, hread, rfl⟩] at hparse
      cases hparse
    · rw [compile, Pattern.compile, hparse]
      rfl
  | ok p =>
    have hp := Pattern.compile_eq_ok_iff.mpr ⟨hparse, hlimits p (Or.inl hparse)⟩
    refine Or.inr ⟨p, rfl, ?_⟩
    rcases parse_anchored hparse with ⟨hends, hfault⟩ | ⟨hfree, q, hbetween, -⟩
    · refine Or.inl ⟨hends, ?_⟩
      rw [compile, hp, Pattern.compile, hfault]
      rfl
    · have hq := Pattern.compile_eq_ok_iff.mpr ⟨hbetween, hlimits q (Or.inr hbetween)⟩
      exact Or.inr ⟨hfree, _, compile_eq_ok_iff.mpr ⟨p, q, hp, hq, rfl⟩⟩

/-- Apart from the limits, the patterns that are accepted for exemptions are those that can be read
alone exactly if the pattern does not end in a comment. When a line is refused, its own pattern
cannot be read, or it ends in a comment and the parenthesis behind it is missed. -/
theorem accepted_iff_parsed_iff {source : Text}
    (hlimits : ∀ p, parse source = .ok p ∨ parse (anchored source) = .ok p →
      p.expr.limited = .ok p.expr) :
    (((∃ e, compile source = .ok e) ↔ ∃ p, parse source = .ok p) ↔ ¬ EndsInComment source) ∧
    ∀ (d : Dictionary) (fault : LineFault),
      DictionaryReader.entry d source .exemption = .error fault ↔
        ∃ f, fault = .invalidPattern source f ∧
          (parse source = .error f ∨ EndsInComment source ∧ f = .unclosedGroup) := by
  rcases compile_cases hlimits with ⟨f, hparse, hfree, hcompile⟩ |
    ⟨p, hparse, ⟨hends, hcompile⟩ | ⟨hfree, e, hcompile⟩⟩
  · simp only [DictionaryReader.entry, hparse, hcompile]
    refine ⟨by simp [hfree], fun d fault => ⟨fun h => ?_, fun h => ?_⟩⟩
    · exact ⟨f, (Except.error.inj h).symm, Or.inl rfl⟩
    · obtain ⟨f', rfl, hf | ⟨hends, -⟩⟩ := h
      · rw [Except.error.inj hf]
      · exact absurd hends hfree
  · simp only [DictionaryReader.entry, hparse, hcompile]
    refine ⟨by simp [hends], fun d fault => ⟨fun h => ?_, fun h => ?_⟩⟩
    · exact ⟨.unclosedGroup, (Except.error.inj h).symm, Or.inr ⟨hends, rfl⟩⟩
    · obtain ⟨f', rfl, hf | ⟨-, rfl⟩⟩ := h
      · cases hf
      · rfl
  · simp only [DictionaryReader.entry, hparse, hcompile]
    refine ⟨by simp [hfree], fun d fault => ⟨fun h => ?_, fun h => ?_⟩⟩
    · cases h
    · obtain ⟨f', -, hf | ⟨hends, -⟩⟩ := h
      · cases hf
      · exact absurd hends hfree

/-- A comment that a newline ends does no harm. -/
theorem accepted_iff_parsed_iff_ended_comment :
    ∃ e, compile "(?x)a # c\n".toList = .ok e := by
  have hparse : parse "(?x)a # c\n".toList =
      .ok ⟨"(?x)a # c\n".toList, .seq .empty (.set (.single 'a')), 0, []⟩ := rfl
  have hanchored : parse (anchored "(?x)a # c\n".toList) =
      .ok ⟨anchored "(?x)a # c\n".toList, between (.seq .empty (.set (.single 'a'))), 0, []⟩ := rfl
  have hlimits : ∀ p, parse "(?x)a # c\n".toList = .ok p ∨
      parse (anchored "(?x)a # c\n".toList) = .ok p → p.expr.limited = .ok p.expr := by
    intro p h
    rcases h with h | h
    · rw [hparse] at h
      cases h
      rfl
    · rw [hanchored] at h
      cases h
      rfl
  have hfree : ¬ EndsInComment "(?x)a # c\n".toList := by
    intro hends
    obtain ⟨k, hread, hcomment⟩ := hends
    cases hread
    cases hcomment
  exact ((accepted_iff_parsed_iff hlimits).1.mpr hfree).mpr ⟨_, hparse⟩

/-- A comment that nothing ends makes the pattern unfit between the anchors. -/
theorem not_accepted_open_comment :
    (∃ p, Pattern.compile "(?x)a # c".toList = .ok p ∧ p.isMatch ['a'] = true) ∧
    compile "(?x)a # c".toList = .error .unclosedGroup ∧
    ¬ ∀ source : Text, (∀ p, parse source = .ok p ∨ parse (anchored source) = .ok p →
        p.expr.limited = .ok p.expr) →
      ((∃ e, compile source = .ok e) ↔ ∃ p, parse source = .ok p) := by
  have hparse : parse "(?x)a # c".toList =
      .ok ⟨"(?x)a # c".toList, .seq .empty (.set (.single 'a')), 0, []⟩ := rfl
  have hcompile : compile "(?x)a # c".toList = .error .unclosedGroup := rfl
  refine ⟨⟨_, rfl, by decide +kernel⟩, hcompile, fun hall => ?_⟩
  have hlimits : ∀ p, parse "(?x)a # c".toList = .ok p ∨
      parse (anchored "(?x)a # c".toList) = .ok p → p.expr.limited = .ok p.expr := by
    intro p h
    rcases h with h | h
    · rw [hparse] at h
      cases h
      rfl
    · have hanchored : parse (anchored "(?x)a # c".toList) = .error .unclosedGroup := rfl
      rw [hanchored] at h
      cases h
  obtain ⟨e, he⟩ := (hall _ hlimits).mpr ⟨_, hparse⟩
  rw [hcompile] at he
  cases he

end Exemption

end Phrasebook
