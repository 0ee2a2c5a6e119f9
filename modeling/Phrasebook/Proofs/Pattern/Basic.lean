import Phrasebook.Pattern.Basic

/-!
When reading a pattern succeeds: step by step, up to a place where a pattern may end and with all
groups closed. A pattern is accepted if it can be read and its tree keeps within the limits.
-/

namespace Phrasebook

namespace Pattern

theorem bind_eq_ok_iff {ε α β : Type} {x : Except ε α} {f : α → Except ε β} {b : β} :
    x >>= f = .ok b ↔ ∃ a, x = .ok a ∧ f a = .ok b := by
  cases x with
  | error fault => exact ⟨nofun, fun ⟨a, ha, _⟩ => by cases ha⟩
  | ok a => exact ⟨fun h => ⟨a, rfl, h⟩, fun ⟨a', ha, h⟩ => by cases ha; exact h⟩

namespace Core

/-- Where a pattern may end, a character that is neither blank nor a sign for what came before it
begins a new token. -/
theorem step_of_atEnd {k : Core} {c : Char} (hend : atEnd k.mode = true)
    (hcomment : k.comment = false) (hskips : k.skips c = false) (hquestion : c ≠ '?')
    (hbrace : c ≠ '\x7b') : k.step c = k.plainStep c := by
  rw [step, hcomment, hskips]
  cases hmode : k.mode with
  | plain => simp
  | repeated => simp [hquestion]
  | counted => simp [hquestion]
  | edge => simp [hbrace]
  | _ => simp [hmode, atEnd] at hend

end Core

namespace Reader

theorem step_eq_ok_iff {r r' : Reader} {c : Char} : r.step c = .ok r' ↔
    ∃ k m, r.core.step c = .ok (k, m) ∧ r.move k m = .ok r' := by
  rw [step, bind_eq_ok_iff]
  constructor
  · rintro ⟨⟨k, m⟩, hcore, hmove⟩
    exact ⟨k, m, hcore, hmove⟩
  · rintro ⟨k, m, hcore, hmove⟩
    exact ⟨(k, m), hcore, hmove⟩

theorem step_of_core {r r' : Reader} {c : Char} {k : Core} {m : Motion}
    (hcore : r.core.step c = .ok (k, m)) (hmove : r.move k m = .ok r') : r.step c = .ok r' :=
  step_eq_ok_iff.mpr ⟨k, m, hcore, hmove⟩

theorem foldlM_cons_eq_ok_iff {c : Char} {source : Text} {r r' : Reader} :
    (c :: source).foldlM step r = .ok r' ↔
      ∃ r₁, r.step c = .ok r₁ ∧ source.foldlM step r₁ = .ok r' := by
  rw [List.foldlM_cons, bind_eq_ok_iff]

theorem foldlM_append_eq_ok_iff {source more : Text} {r r' : Reader} :
    (source ++ more).foldlM step r = .ok r' ↔
      ∃ r₁, source.foldlM step r = .ok r₁ ∧ more.foldlM step r₁ = .ok r' := by
  rw [List.foldlM_append, bind_eq_ok_iff]

theorem finish_eq_ok_iff {r : Reader} {k : Core} :
    r.finish = .ok k ↔ r = ⟨k, []⟩ ∧ Core.atEnd k.mode = true := by
  obtain ⟨core, enclosing⟩ := r
  unfold finish
  cases hend : Core.atEnd core.mode with
  | false =>
    refine iff_of_false (by simp) ?_
    rintro ⟨⟨⟩, hk⟩
    rw [hend] at hk
    cases hk
  | true =>
    cases enclosing with
    | nil =>
      simp only [Bool.not_true, Bool.false_eq_true, if_false, List.isEmpty_nil]
      constructor
      · rintro ⟨⟩
        exact ⟨rfl, hend⟩
      · rintro ⟨⟨⟩, -⟩
        rfl
    | cons g gs =>
      refine iff_of_false (by simp) ?_
      rintro ⟨⟨⟩, -⟩

end Reader

theorem read_eq_ok_iff {source : Text} {k : Core} : read source = .ok k ↔
    source.foldlM Reader.step {} = .ok ⟨k, []⟩ ∧ Core.atEnd k.mode = true := by
  rw [read, bind_eq_ok_iff]
  constructor
  · rintro ⟨r, hrun, hfinish⟩
    obtain ⟨rfl, hend⟩ := Reader.finish_eq_ok_iff.mp hfinish
    exact ⟨hrun, hend⟩
  · rintro ⟨hrun, hend⟩
    exact ⟨_, hrun, Reader.finish_eq_ok_iff.mpr ⟨rfl, hend⟩⟩

theorem limited_eq_ok {e e' : Expr} (h : e.limited = .ok e') : e' = e := by
  unfold Expr.limited at h
  split at h
  · cases h
  split at h
  · cases h
  · cases h
    rfl

theorem parse_eq_ok_iff {source : Text} {p : Pattern} : parse source = .ok p ↔
    ∃ k, read source = .ok k ∧ p = ⟨source, k.frame.expr, k.groups, k.names⟩ := by
  rw [parse, bind_eq_ok_iff]
  constructor
  · rintro ⟨k, hread, hp⟩
    exact ⟨k, hread, (Except.ok.inj hp).symm⟩
  · rintro ⟨k, hread, rfl⟩
    exact ⟨k, hread, rfl⟩

theorem compile_eq_ok_iff {source : Text} {p : Pattern} : compile source = .ok p ↔
    parse source = .ok p ∧ p.expr.limited = .ok p.expr := by
  rw [compile, bind_eq_ok_iff]
  constructor
  · rintro ⟨q, hparse, hrest⟩
    obtain ⟨e, hlimited, hq⟩ := bind_eq_ok_iff.mp hrest
    cases hq
    exact ⟨hparse, limited_eq_ok hlimited ▸ hlimited⟩
  · rintro ⟨hparse, hlimited⟩
    exact ⟨p, hparse, bind_eq_ok_iff.mpr ⟨p.expr, hlimited, rfl⟩⟩

end Pattern

end Phrasebook
