import Phrasebook.Proofs.Pattern.Basic

/-!
Reading a pattern inside a group. The reader looks at nothing below the groups that it has opened
itself, so what can be read alone is read the same way between parentheses, and its options end with
it. There is one exception: a comment at the end of the pattern takes in the closing parenthesis.
-/

namespace Phrasebook.Pattern

open Text

namespace Reader

def inside (r : Reader) (outer : List Enclosing) : Reader :=
  { r with enclosing := r.enclosing ++ outer }

theorem move_inside {r r' : Reader} {k : Core} {m : Motion} (h : r.move k m = .ok r')
    (outer : List Enclosing) : (r.inside outer).move k m = .ok (r'.inside outer) := by
  obtain ⟨core, enclosing⟩ := r
  cases m with
  | stay =>
    cases h
    rfl
  | opens number frame flags =>
    cases h
    rfl
  | closes =>
    cases enclosing with
    | nil => cases h
    | cons g gs =>
      cases h
      rfl

/-- What has been read goes on being read the same way when more groups are open around it. -/
theorem foldlM_inside {source : Text} {r r' : Reader} (h : source.foldlM step r = .ok r')
    (outer : List Enclosing) :
    source.foldlM step (r.inside outer) = .ok (r'.inside outer) := by
  induction source generalizing r with
  | nil =>
    cases h
    rfl
  | cons c source ih =>
    obtain ⟨r₁, hstep, hrest⟩ := foldlM_cons_eq_ok_iff.mp h
    obtain ⟨k, m, hcore, hmove⟩ := step_eq_ok_iff.mp hstep
    exact foldlM_cons_eq_ok_iff.mpr
      ⟨r₁.inside outer, step_of_core hcore (move_inside hmove outer), ih hrest⟩

end Reader

namespace Core

/-- In a comment every character but a newline is passed over. -/
theorem step_of_comment {k : Core} {c : Char} (h : k.comment = true) (hc : c ≠ '\n') :
    k.step c = .ok (k, .stay) := by
  have hsame : { k with comment := c != '\n' } = k := by
    rw [bne_iff_ne.mpr hc, ← h]
  rw [step, if_pos h, hsame, stay]

end Core

/-- The branch and options outside a group that stands behind the start of the text. -/
def behindStart : Enclosing := ⟨none, { items := [some (.look .textStart)] }, {}⟩

/-- A pattern of its own, put into a group between the start and the end of the text, is read with
its tree in the group, unless it ends in a comment. -/
theorem read_between {source : Text} {k : Core} (h : read source = .ok k) :
    read (['^', '(', '?', ':'] ++ source ++ [')', '$']) =
      if k.comment then .error .unclosedGroup
      else .ok { k with
        frame := { items := [some (.look .textEnd), some (.group none k.frame.expr),
          some (.look .textStart)] }
        flags := {}
        mode := .plain } := by
  obtain ⟨hrun, hend⟩ := read_eq_ok_iff.mp h
  have hopened : ['^', '(', '?', ':'].foldlM Reader.step {} =
      .ok (Reader.inside {} [behindStart]) := rfl
  have hinside := Reader.foldlM_append_eq_ok_iff.mpr
    ⟨_, hopened, Reader.foldlM_inside hrun [behindStart]⟩
  cases hcomment : k.comment with
  | true =>
    have hparen := Core.step_of_comment hcomment (c := ')') (by decide)
    have hdollar := Core.step_of_comment hcomment (c := '$') (by decide)
    have hclosing : [')', '$'].foldlM Reader.step (Reader.inside ⟨k, []⟩ [behindStart]) =
        .ok ⟨k, [behindStart]⟩ :=
      Reader.foldlM_cons_eq_ok_iff.mpr ⟨_, Reader.step_of_core hparen rfl,
        Reader.foldlM_cons_eq_ok_iff.mpr ⟨_, Reader.step_of_core hdollar rfl, rfl⟩⟩
    rw [read, Reader.foldlM_append_eq_ok_iff.mpr ⟨_, hinside, hclosing⟩, if_pos rfl]
    simp only [bind, Except.bind, Reader.finish, hend, Bool.not_true, Bool.false_eq_true, if_false]
    rfl
  | false =>
    have hskips : k.skips ')' = false := by
      have hblank : (isBlank ')' || ')' == '#') = false := rfl
      rw [Core.skips, hblank, Bool.and_false]
    have hparen : k.step ')' = .ok (k, .closes) := by
      rw [Core.step_of_atEnd hend hcomment hskips (by decide) (by decide), Core.plainStep, hskips]
      rfl
    obtain ⟨flags, frame, brackets, groups, names, mode, comment⟩ := k
    subst hcomment
    rw [if_neg Bool.false_ne_true, read_eq_ok_iff]
    refine ⟨Reader.foldlM_append_eq_ok_iff.mpr ⟨_, hinside, ?_⟩, rfl⟩
    exact Reader.foldlM_cons_eq_ok_iff.mpr ⟨_, Reader.step_of_core hparen rfl, rfl⟩

end Phrasebook.Pattern
