import Phrasebook.Proofs.Dictionary.Basic
import Phrasebook.Proofs.Pattern.Prefixing
import Phrasebook.Proofs.Pattern.Searching

/-!
Anchored rules. That a rule is anchored is read off the first and the last character of its source;
that its matches cover the whole text is a property of its tree. They do if every way through the
tree passes the start and the end of the text. That can be told by the source if what stands between
the two characters is a pattern of its own without alternatives outside of groups: such a rule
settles just the texts that this pattern can match from end to end. With an alternative outside of
groups the matches need not cover the text.
-/

namespace Phrasebook

open Pattern

namespace Pattern

/-- Every way through the tree passes a place where the condition holds. -/
def Expr.requires (l : Look) : Expr → Bool
  | .look l' => l' == l
  | .group _ body => body.requires l
  | .seq first second => first.requires l || second.requires l
  | .alt preferred other => preferred.requires l && other.requires l
  | .times least _ _ body => least != 0 && body.requires l
  | _ => false

/-- Every way through the tree passes the start and the end of the text. -/
def Expr.Fastened (e : Expr) : Prop :=
  e.requires .textStart = true ∧ e.requires .textEnd = true

instance (e : Expr) : Decidable e.Fastened := inferInstanceAs (Decidable (_ ∧ _))

theorem Matches.exists_required {t : Text} {e : Expr} {i j : Nat} {l : Look}
    (h : Matches t e i j) (hrequires : e.requires l = true) :
    ∃ k, i ≤ k ∧ k ≤ j ∧ Matches t (.look l) k k := by
  induction h with
  | empty hi => cases hrequires
  | set hc hs => cases hrequires
  | look hi hl =>
    obtain rfl := eq_of_beq hrequires
    exact ⟨_, Nat.le_refl _, Nat.le_refl _, .look hi hl⟩
  | group _ ih => exact ih hrequires
  | seq hfirst hsecond ih₁ ih₂ =>
    rcases Bool.or_eq_true_iff.mp hrequires with hpart | hpart
    · obtain ⟨k, hik, hkj, hlook⟩ := ih₁ hpart
      exact ⟨k, hik, Nat.le_trans hkj hsecond.bounds.1, hlook⟩
    · obtain ⟨k, hik, hkj, hlook⟩ := ih₂ hpart
      exact ⟨k, Nat.le_trans hfirst.bounds.1 hik, hkj, hlook⟩
  | preferred _ ih => exact ih (Bool.and_eq_true_iff.mp hrequires).1
  | other _ ih => exact ih (Bool.and_eq_true_iff.mp hrequires).2
  | due hbody hrest ih _ =>
    obtain ⟨k, hik, hkj, hlook⟩ := ih (Bool.and_eq_true_iff.mp hrequires).2
    exact ⟨k, hik, Nat.le_trans hkj hrest.bounds.1, hlook⟩
  | enough _ => cases hrequires
  | more _ _ _ _ => cases hrequires
  | again _ _ _ _ => cases hrequires

/-- A match of such a tree is the whole text. -/
theorem Matches.whole {t : Text} {e : Expr} {i j : Nat} (h : Matches t e i j)
    (hfastened : e.Fastened) : i = 0 ∧ j = t.length := by
  obtain ⟨k, hik, -, hstart⟩ := h.exists_required hfastened.1
  obtain ⟨l, -, hlj, hend⟩ := h.exists_required hfastened.2
  have hk := (matches_textStart_iff.mp hstart).1
  have hl := (matches_textEnd_iff.mp hend).1
  have hj := h.bounds.2
  omega

theorem requires_ofSeq (l : Look) (es : List Expr) :
    (Expr.ofSeq es).requires l = es.any (·.requires l) := by
  induction es with
  | nil => rfl
  | cons e es ih =>
    cases es with
    | nil => rw [List.any_cons, List.any_nil, Bool.or_false, Expr.ofSeq]
    | cons e' es => rw [List.any_cons, ← ih]; rfl

/-- The tree of a pattern of its own between a caret and a dollar sign. -/
theorem Sole.parse_anchored {body : Text} {k : Core} (h : Sole body k) :
    ∃ p, parse (['^'] ++ body ++ ['$']) = .ok p ∧
      p.expr = .ofSeq (.look .textStart ::
        (k.frame.items.reverse.map (·.getD .empty) ++ [.look .textEnd])) := by
  refine ⟨_, parse_eq_ok_iff.mpr ⟨_, h.read_anchored, rfl⟩, ?_⟩
  simp [Frame.expr, Frame.branch, Expr.ofAlts]

/-- Between a caret and a dollar sign a pattern of its own is fastened at both, and matches just the
texts that it can match from end to end without them. -/
theorem Sole.fastened {body : Text} {k : Core} (h : Sole body k) {p : Pattern}
    (hparse : parse (['^'] ++ body ++ ['$']) = .ok p) :
    p.expr.Fastened ∧ ∀ t i j, Matches t p.expr i j ↔
      i = 0 ∧ j = t.length ∧ Matches t k.frame.expr 0 t.length := by
  obtain ⟨q, hq, hexpr⟩ := h.parse_anchored
  rw [hparse] at hq
  obtain rfl := Except.ok.inj hq
  have hframe : k.frame.expr = .ofSeq (k.frame.items.reverse.map (·.getD .empty)) := by
    rw [Frame.expr, h.branch]
    rfl
  rw [hexpr, hframe]
  constructor
  · constructor
    · simp [requires_ofSeq, Expr.requires]
    · simp [requires_ofSeq, Expr.requires]
  · intro t i j
    simp only [matches_ofSeq_cons_iff, matches_ofSeq_append_iff, Expr.ofSeq,
      matches_textStart_iff, matches_textEnd_iff]
    constructor
    · intro hmatch
      obtain ⟨_, ⟨rfl, rfl⟩, _, hbody, rfl, rfl⟩ := hmatch
      exact ⟨rfl, rfl, hbody⟩
    · intro hmatch
      obtain ⟨rfl, rfl, hbody⟩ := hmatch
      exact ⟨0, ⟨rfl, rfl⟩, t.length, hbody, rfl, rfl⟩

end Pattern

/-- All of a text has been replaced: the search finds one match, from the start of the text to its
end, and what comes out is the template filled for it. -/
def Rule.RewritesWhole (r : Rule) (t t' : Text) : Prop :=
  ∃ marks, (Searcher.ofExpr r.pattern.expr r.pattern.groups t).all = [marks] ∧
    marks.group? 0 = some (0, t.length) ∧
    t' = (parts r.template).flatMap (r.pattern.fill t.toArray marks)

theorem Rule.RewritesWhole.matches {r : Rule} {t t' : Text} (h : r.RewritesWhole t t') :
    Matches t r.pattern.expr 0 t.length := by
  obtain ⟨marks, hall, hgroup, -⟩ := h
  have hmem : marks ∈ (Searcher.ofExpr r.pattern.expr r.pattern.groups t).all := by
    rw [hall]
    exact List.mem_singleton_self marks
  obtain ⟨i, j, hgroup', hmatch⟩ := Searcher.of_mem_all hmem
  rw [hgroup] at hgroup'
  cases hgroup'
  exact hmatch

/-- Whatever a rule with a fastened pattern applies to, it replaces as a whole. -/
theorem Rule.rewritesWhole {r : Rule} (hfastened : r.pattern.expr.Fastened) {t : Text}
    (hmatch : r.pattern.isMatch t = true) :
    r.RewritesWhole t (r.pattern.replaceAll r.template t) := by
  have hwhole : ∀ i j, Matches t r.pattern.expr i j → i = 0 ∧ j = t.length :=
    fun i j h => h.whole hfastened
  obtain ⟨i, j, hfound⟩ := matchesIn_iff.mp hmatch
  obtain ⟨rfl, rfl⟩ := hwhole i j hfound
  obtain ⟨marks, hall, hgroup⟩ := Searcher.all_of_whole r.pattern.groups hfound hwhole
  refine ⟨marks, hall, hgroup, ?_⟩
  have htext : (Searcher.ofExpr r.pattern.expr r.pattern.groups t).text = t.toArray := rfl
  rw [replaceAll, htext, hall, substituteFrom, hgroup]
  simp [substituteFrom]

/-- The source is a pattern of its own, with the tree `e`, between a caret and a dollar sign. -/
def Rule.Encloses (r : Rule) (e : Expr) : Prop :=
  ∃ body k, Sole body k ∧ k.frame.expr = e ∧ parse (['^'] ++ body ++ ['$']) = .ok r.pattern

namespace Rule.Encloses

variable {r : Rule} {e : Expr}

theorem isAnchored (h : r.Encloses e) : r.isAnchored = true := by
  obtain ⟨body, k, -, -, hparse⟩ := h
  obtain ⟨_, -, hpattern⟩ := parse_eq_ok_iff.mp hparse
  have hsource : r.pattern.source = ['^'] ++ body ++ ['$'] := by rw [hpattern]
  rw [Rule.isAnchored, hsource, List.getLast?_append]
  rfl

theorem fastened (h : r.Encloses e) : r.pattern.expr.Fastened := by
  obtain ⟨_, _, hsole, -, hparse⟩ := h
  exact (hsole.fastened hparse).1

theorem isMatch_iff (h : r.Encloses e) {t : Text} :
    r.pattern.isMatch t = true ↔ Matches t e 0 t.length := by
  obtain ⟨_, _, hsole, rfl, hparse⟩ := h
  rw [isMatch, matchesIn_iff]
  simp only [(hsole.fastened hparse).2]
  constructor
  · intro hfound
    obtain ⟨i, j, -, -, hmatch⟩ := hfound
    exact hmatch
  · intro hmatch
    exact ⟨0, t.length, rfl, rfl, hmatch⟩

end Rule.Encloses

namespace Expansion

/-- If the anchored rules are fastened, each of them matches whole texts only and replaces all that
it matches, and the rules settle a text exactly if an anchored one among them has replaced all that
those before it have made of the text. -/
theorem settled_iff_rewritten_whole {rules : List Rule}
    (hfastened : ∀ r ∈ rules, r.isAnchored = true → r.pattern.expr.Fastened) :
    (∀ r ∈ rules, r.isAnchored = true → ∀ t,
      (∀ i j, Matches t r.pattern.expr i j → i = 0 ∧ j = t.length) ∧
      (r.pattern.isMatch t = true → r.RewritesWhole t (r.pattern.replaceAll r.template t))) ∧
    ∀ t, (ofRules rules t).settled = true ↔ ∃ before r after, rules = before ++ r :: after ∧
      r.isAnchored = true ∧
      r.RewritesWhole (ofRules before t).text (ofRules (before ++ [r]) t).text := by
  refine ⟨fun r hr hanchored t => ⟨fun i j h => h.whole (hfastened r hr hanchored),
    Rule.rewritesWhole (hfastened r hr hanchored)⟩, fun t => ?_⟩
  rw [settled_ofRules_iff]
  constructor
  · intro hsettled
    obtain ⟨before, r, after, rfl, hanchored, hmatch⟩ := hsettled
    refine ⟨before, r, after, rfl, hanchored, ?_⟩
    rw [ofRules_concat, apply, if_pos hmatch]
    exact Rule.rewritesWhole (hfastened r (by simp) hanchored) hmatch
  · intro hwhole
    obtain ⟨before, r, after, rfl, hanchored, hrewrites⟩ := hwhole
    exact ⟨before, r, after, rfl, hanchored, matchesIn_iff.mpr ⟨_, _, hrewrites.matches⟩⟩

/-- The preferred alternative inside the group is shorter than the text; the rule takes the other
one, and fills its template with all of the text. -/
theorem settled_iff_rewritten_whole_grouped : ∃ r,
    Rule.compile "^(a|ab)$".toList "<$1>".toList = .ok r ∧
    r.isAnchored = true ∧ (ofRules [r] ['a', 'b']).settled = true ∧
    r.RewritesWhole ['a', 'b'] "<ab>".toList ∧ ofRules [r] ['a', 'c'] = ⟨['a', 'c'], false⟩ := by
  obtain ⟨r, hr⟩ : ∃ r, Rule.compile "^(a|ab)$".toList "<$1>".toList = .ok r := ⟨_, rfl⟩
  have hanchored : r.isAnchored = true := by
    cases hr
    rfl
  have hfastened : ∀ q ∈ [r], q.isAnchored = true → q.pattern.expr.Fastened := by
    intro q hq _
    obtain rfl := List.mem_singleton.mp hq
    cases hr
    decide
  have happlied : ofRules [r] ['a', 'b'] = ⟨"<ab>".toList, true⟩ := by
    cases hr
    decide +kernel
  refine ⟨r, hr, hanchored, by rw [happlied], ?_, ?_⟩
  · obtain ⟨before, q, after, hrules, -, hwhole⟩ :=
      ((settled_iff_rewritten_whole hfastened).2 ['a', 'b']).mp (by rw [happlied])
    cases before with
    | nil =>
      cases hrules
      rw [List.nil_append, happlied] at hwhole
      exact hwhole
    | cons q' before => simp at hrules
  · cases hr
    decide +kernel

/-- If the source of each anchored rule is a pattern of its own between the two characters, then the
rules settle a text exactly if one of these patterns can match, from end to end, what the rules
before it have made of the text; and all of that is replaced. -/
theorem settled_iff_enclosed_matches {rules : List Rule}
    (hencloses : ∀ r ∈ rules, r.isAnchored = true → ∃ e, r.Encloses e) (t : Text) :
    (ofRules rules t).settled = true ↔ ∃ before r after e, rules = before ++ r :: after ∧
      r.Encloses e ∧ Matches (ofRules before t).text e 0 (ofRules before t).text.length ∧
      r.RewritesWhole (ofRules before t).text (ofRules (before ++ [r]) t).text := by
  rw [settled_ofRules_iff]
  constructor
  · intro hsettled
    obtain ⟨before, r, after, rfl, hanchored, hmatch⟩ := hsettled
    obtain ⟨e, hr⟩ := hencloses r (by simp) hanchored
    refine ⟨before, r, after, e, rfl, hr, hr.isMatch_iff.mp hmatch, ?_⟩
    rw [ofRules_concat, apply, if_pos hmatch]
    exact Rule.rewritesWhole hr.fastened hmatch
  · intro hmatches
    obtain ⟨before, r, after, e, rfl, hr, hmatch, -⟩ := hmatches
    exact ⟨before, r, after, rfl, hr.isAnchored, hr.isMatch_iff.mpr hmatch⟩

example : ∃ r e, Rule.compile "^(a|ab)$".toList "<$1>".toList = .ok r ∧ r.Encloses e :=
  ⟨_, _, rfl, "(a|ab)".toList, _, ⟨rfl, rfl, rfl, rfl⟩, rfl, rfl⟩

/-- With an alternative outside of groups a rule settles a text of which it has replaced the first
character only. -/
theorem not_settled_whole_alternatives :
    (∃ r, Rule.compile "^a|b$".toList ['x'] = .ok r ∧ r.isAnchored = true ∧
      ofRules [r] ['a', 'c'] = ⟨['x', 'c'], true⟩) ∧
    ¬ ∀ source template r, Rule.compile source template = .ok r → r.isAnchored = true →
      ∀ t i j, Matches t r.pattern.expr i j → i = 0 ∧ j = t.length := by
  obtain ⟨r, hr⟩ : ∃ r, Rule.compile "^a|b$".toList ['x'] = .ok r := ⟨_, rfl⟩
  have hanchored : r.isAnchored = true := by
    cases hr
    rfl
  refine ⟨⟨r, hr, hanchored, ?_⟩, ?_⟩
  · cases hr
    decide +kernel
  · intro hall
    have hmatch : Matches ['a', 'c'] r.pattern.expr 0 1 := by
      cases hr
      exact .preferred (.seq (.look (Nat.zero_le _) rfl) (.set rfl rfl))
    obtain ⟨-, hstop⟩ := hall _ _ r hr hanchored _ _ _ hmatch
    cases hstop

end Expansion

end Phrasebook
