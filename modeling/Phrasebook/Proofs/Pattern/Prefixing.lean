import Phrasebook.Proofs.Pattern.Basic

/-!
Reading a pattern behind an item. What can be read alone is read the same way when an item already
stands in front of it, and its tree then has that item in front of the first alternative. The two
runs of the reader differ in nothing but the outermost frame. No operation on a frame looks at the
item in front, since one that repeats the last item finds another one wherever it succeeds without
it; so it is enough to go through the functions of the reader once and to see that they touch frames
through these operations only.
-/

namespace Phrasebook.Pattern

open Text

/-- What one computation gives has its counterpart in what the other one gives. -/
def Mirrors {α : Type} (related : α → α → Prop) (x y : Except Fault α) : Prop :=
  ∀ a, x = .ok a → ∃ a', y = .ok a' ∧ related a a'

namespace Mirrors

variable {α β : Type} {related : α → α → Prop} {related' : β → β → Prop}

theorem ok {a a' : α} (h : related a a') : Mirrors related (.ok a) (.ok a') := by
  intro b hb
  cases hb
  exact ⟨a', rfl, h⟩

theorem error (fault : Fault) (y : Except Fault α) : Mirrors related (.error fault) y := by
  intro b hb
  cases hb

theorem bind {x y : Except Fault α} {f g : α → Except Fault β} (h : Mirrors related x y)
    (hrest : ∀ a a', related a a' → Mirrors related' (f a) (g a')) :
    Mirrors related' (x >>= f) (y >>= g) := by
  intro b hb
  obtain ⟨a, ha, hfa⟩ := bind_eq_ok_iff.mp hb
  obtain ⟨a', ha', hrel⟩ := h a ha
  obtain ⟨b', hb', hrel'⟩ := hrest a a' hrel b hfa
  exact ⟨b', bind_eq_ok_iff.mpr ⟨a', ha', hb'⟩, hrel'⟩

/-- Both begin with the same computation. -/
theorem bind_same {x : Except Fault α} {f g : α → Except Fault β}
    (h : ∀ a, Mirrors related' (f a) (g a)) : Mirrors related' (x >>= f) (x >>= g) := by
  have hsame : Mirrors Eq x x := fun a ha => ⟨a, ha, rfl⟩
  refine hsame.bind ?_
  intro a a' heq
  exact heq ▸ h a

theorem ite {c : Prop} [Decidable c] {x y x' y' : Except Fault α} (hx : Mirrors related x x')
    (hy : Mirrors related y y') :
    Mirrors related (if c then x else y) (if c then x' else y') := by
  split
  · exact hx
  · exact hy

end Mirrors

/-- Two frames that differ in an item in front of the first alternative. As soon as that is closed,
nothing is said about it. -/
structure Frame.Behind (first : Expr) (f f' : Frame) : Prop where
  alts : f'.alts = [] ↔ f.alts = []
  sole : f.alts = [] → f'.items = f.items ++ [some first]
  later : f.alts ≠ [] → f'.items = f.items

namespace Frame.Behind

variable {first : Expr} {f f' : Frame}

theorem push (h : f.Behind first f') (item : Option Expr) :
    Frame.Behind first { f with items := item :: f.items }
      { f' with items := item :: f'.items } where
  alts := h.alts
  sole := fun hf => by simp only [h.sole hf, List.cons_append]
  later := fun hf => by simp only [h.later hf]

theorem add (h : f.Behind first f') (e : Expr) : (f.add e).Behind first (f'.add e) :=
  h.push (some e)

theorem addSwitch (h : f.Behind first f') : f.addSwitch.Behind first f'.addSwitch := h.push none

theorem bar : f.bar.Behind first f'.bar where
  alts := by simp [Frame.bar]
  sole := fun hf => by simp [Frame.bar] at hf
  later := fun _ => rfl

/-- Where the last item can be changed, it is not the one in front. -/
theorem mapLast (h : f.Behind first f') {change : Expr → Expr} :
    Mirrors (Frame.Behind first) (f.mapLast change) (f'.mapLast change) := by
  obtain ⟨alts, items⟩ := f
  obtain ⟨alts', items'⟩ := f'
  match items with
  | [] => exact .error _ _
  | none :: rest => exact .error _ _
  | some e :: rest =>
    by_cases hnone : alts = []
    · obtain rfl : items' = some e :: (rest ++ [some first]) := h.sole hnone
      exact .ok ⟨h.alts, fun _ => rfl, fun hne => absurd hnone hne⟩
    · obtain rfl : items' = some e :: rest := h.later hnone
      exact .ok ⟨h.alts, fun hnone' => absurd hnone' hnone, fun _ => rfl⟩

end Frame.Behind

/-- Two cores that differ in such frames only. -/
def Core.Behind (first : Expr) (k k' : Core) : Prop :=
  ∃ f, k' = { k with frame := f } ∧ k.frame.Behind first f

namespace Core.Behind

variable {first : Expr} {k k' : Core}

theorem mode_eq (h : k.Behind first k') : k'.mode = k.mode := by
  obtain ⟨f, rfl, -⟩ := h
  rfl

theorem comment_eq (h : k.Behind first k') : k'.comment = k.comment := by
  obtain ⟨f, rfl, -⟩ := h
  rfl

theorem flags_eq (h : k.Behind first k') : k'.flags = k.flags := by
  obtain ⟨f, rfl, -⟩ := h
  rfl

theorem skips_eq (h : k.Behind first k') (c : Char) : k'.skips c = k.skips c := by
  rw [Core.skips, h.flags_eq, Core.skips]

/-! Classes -/

theorem mapBracket (h : k.Behind first k') (change : Bracket → Bracket) :
    (k.mapBracket change).Behind first (k'.mapBracket change) := by
  obtain ⟨f, rfl, hf⟩ := h
  obtain ⟨flags, frame, brackets, groups, names, mode, comment⟩ := k
  cases brackets with
  | nil => exact ⟨f, rfl, hf⟩
  | cons b rest => exact ⟨f, rfl, hf⟩

theorem enter (h : k.Behind first k') (mode : Mode) :
    (k.enter mode).Behind first (k'.enter mode) := by
  obtain ⟨f, rfl, hf⟩ := h
  exact ⟨f, rfl, hf⟩

theorem skip (h : k.Behind first k') (c : Char) : (k.skip c).Behind first (k'.skip c) := by
  obtain ⟨f, rfl, hf⟩ := h
  exact ⟨f, rfl, hf⟩

theorem add (h : k.Behind first k') (e : Expr) : (k.add e).Behind first (k'.add e) := by
  obtain ⟨f, rfl, hf⟩ := h
  exact ⟨_, rfl, hf.add e⟩

theorem openBracket (h : k.Behind first k') : k.openBracket.Behind first k'.openBracket := by
  obtain ⟨f, rfl, hf⟩ := h
  exact ⟨f, rfl, hf⟩

theorem countGroup (h : k.Behind first k') : k.countGroup.Behind first k'.countGroup := by
  obtain ⟨f, rfl, hf⟩ := h
  exact ⟨f, rfl, hf⟩

theorem addItem (h : k.Behind first k') (item : Item) :
    Mirrors (Core.Behind first) (k.addItem item) (k'.addItem item) := by
  obtain ⟨f, rfl, hf⟩ := h
  exact .bind_same fun s => .ok (mapBracket ⟨f, rfl, hf⟩ _)

theorem closeBracket (h : k.Behind first k') :
    Mirrors (Core.Behind first) k.closeBracket k'.closeBracket := by
  obtain ⟨f, rfl, hf⟩ := h
  unfold Core.closeBracket
  cases k.brackets with
  | nil => exact .error _ _
  | cons b rest =>
    refine .bind_same fun s => ?_
    cases rest with
    | nil => exact .ok ⟨_, rfl, hf.add _⟩
    | cons around rest => exact .ok ⟨f, rfl, hf⟩

theorem operator (h : k.Behind first k') (op : SetOp) :
    (k.operator op).Behind first (k'.operator op) := by
  obtain ⟨f, rfl, hf⟩ := h
  exact (mapBracket ⟨f, rfl, hf⟩ _).enter _

theorem classStep (h : k.Behind first k') (c : Char) :
    Mirrors (Core.Behind first) (k.classStep c) (k'.classStep c) :=
  .ite (.ok (h.enter _)) (.ite h.closeBracket (.ite (.ok (h.enter _)) (.ite (.ok (h.enter _))
    (.ok (h.enter _)))))

theorem itemStep (h : k.Behind first k') (item : Item) (c : Char) :
    Mirrors (Core.Behind first) (k.itemStep item c) (k'.itemStep item c) := by
  unfold Core.itemStep
  rw [h.skips_eq]
  exact .ite (.ok ((h.enter _).skip c)) (.ite (.ok (h.enter _))
    ((h.addItem item).bind fun _ _ h => h.classStep c))

theorem startStep (h : k.Behind first k') (caret hyphens : Bool) (c : Char) :
    Mirrors (Core.Behind first) (k.startStep caret hyphens c) (k'.startStep caret hyphens c) :=
  .ite (.ok ((h.mapBracket _).enter _))
    (.ite ((h.addItem _).bind fun _ _ h => .ok (h.enter _))
      (.ite ((h.addItem _).bind fun _ _ h => .ok (h.enter _)) (h.classStep c)))

theorem addItems (h : k.Behind first k') (chars : Text) :
    Mirrors (Core.Behind first) (chars.foldlM (fun k c => k.addItem (.char c)) k)
      (chars.foldlM (fun k c => k.addItem (.char c)) k') := by
  induction chars generalizing k k' with
  | nil => exact .ok h
  | cons c chars ih =>
    rw [List.foldlM_cons, List.foldlM_cons]
    exact (h.addItem _).bind fun _ _ h => ih h

theorem reopen (h : k.Behind first k') (chars : Text) (c : Char) :
    Mirrors (Core.Behind first) (k.reopen chars c) (k'.reopen chars c) := by
  unfold Core.reopen
  cases chars.reverse with
  | nil => exact h.openBracket.startStep true false c
  | cons last earlier =>
    exact (h.openBracket.addItems earlier.reverse).bind fun _ _ h => h.itemStep _ c

/-! Results of escapes -/

theorem deliverChar (h : k.Behind first k') (place : Place) (c : Char) :
    Mirrors (Core.Behind first) (k.deliverChar place c) (k'.deliverChar place c) := by
  unfold Core.deliverChar
  rw [h.flags_eq]
  cases place with
  | outside => exact .ok (h.add _)
  | item => exact .ok (h.enter _)
  | rangeEnd item =>
    exact .bind_same fun s => (h.addItem _).bind fun _ _ h => .ok (h.enter _)

theorem deliverSet (h : k.Behind first k') (place : Place) (s : CharSet) :
    Mirrors (Core.Behind first) (k.deliverSet place s) (k'.deliverSet place s) := by
  cases place with
  | outside => exact .ok (h.add _)
  | item => exact .ok (h.enter _)
  | rangeEnd item => exact .error _ _

theorem deliverLook (h : k.Behind first k') (place : Place) (l : Look) :
    Mirrors (Core.Behind first) (k.deliverLook place l) (k'.deliverLook place l) := by
  cases place with
  | outside => exact .ok (h.add _)
  | _ => exact .error _ _

theorem deliverCode (h : k.Behind first k') (place : Place) (short : Bool) (code : Nat) :
    Mirrors (Core.Behind first) (k.deliverCode place short code)
      (k'.deliverCode place short code) := by
  obtain ⟨f, rfl, hf⟩ := h
  exact .ite (.error _ _) (.ite (.error _ _) (deliverChar ⟨f, rfl, hf⟩ place _))

theorem deliverProperty (h : k.Behind first k') (place : Place) (negated : Bool)
    (found : Option CharSet) :
    Mirrors (Core.Behind first) (k.deliverProperty place negated found)
      (k'.deliverProperty place negated found) := by
  obtain ⟨f, rfl, hf⟩ := h
  refine .ite (.error _ _) ?_
  cases found with
  | none => exact .error _ _
  | some s => exact .bind_same fun s => deliverSet ⟨f, rfl, hf⟩ place s

theorem deliverPropertyName (h : k.Behind first k') (place : Place) (negated : Bool)
    (name : Text) :
    Mirrors (Core.Behind first) (k.deliverPropertyName place negated name)
      (k'.deliverPropertyName place negated name) := by
  unfold Core.deliverPropertyName
  split
  · exact h.deliverProperty place negated _
  · exact h.deliverProperty place negated _

theorem escapeStep (h : k.Behind first k') (place : Place) (c : Char) :
    Mirrors (Core.Behind first) (k.escapeStep place c) (k'.escapeStep place c) := by
  unfold Core.escapeStep
  rw [h.flags_eq]
  dsimp only
  refine .ite (.error _ _) (.ite (.ok (h.enter _)) (.ite (.ok (h.enter _)) (.ite (.ok (h.enter _))
    (.ite (.ok (h.enter _)) ?_))))
  cases k.flags.shorthand? c.toLower with
  | some s => exact .bind_same fun s => h.deliverSet place s
  | none =>
    refine .ite (h.deliverChar place c) ?_
    split
    all_goals first
      | exact h.deliverChar place _
      | exact h.deliverLook place _
      | exact (h.deliverLook place _).bind fun _ _ h => .ok (h.enter _)
      | exact .error _ _

/-! Classes, continued -/

theorem hyphenStep (h : k.Behind first k') (item : Item) (spaced : Bool) (c : Char) :
    Mirrors (Core.Behind first) (k.hyphenStep item spaced c) (k'.hyphenStep item spaced c) := by
  refine .ite ?closed (.ite ?hyphen (.ite (.ok (h.enter _)) (h.deliverChar _ c)))
  case closed =>
    exact (h.addItem item).bind fun _ _ h => (h.addItem _).bind fun _ _ h => h.closeBracket
  case hyphen =>
    exact (h.addItem item).bind fun _ _ h => .ite (.ok (h.enter _)) (.ok (h.operator .diff))

theorem operatorStep (h : k.Behind first k') (sign c : Char) :
    Mirrors (Core.Behind first) (k.operatorStep sign c) (k'.operatorStep sign c) :=
  .ite (.ok (h.operator _)) (h.itemStep _ c)

theorem classNameStep (h : k.Behind first k') (negated : Bool) (reversed : Text) (c : Char) :
    Mirrors (Core.Behind first) (k.classNameStep negated reversed c)
      (k'.classNameStep negated reversed c) :=
  .ite (.ok (h.enter _)) (.ite (.ok (h.enter _)) (.ite (.ok (h.enter _)) (h.reopen _ c)))

theorem classNameEndStep (h : k.Behind first k') (negated : Bool) (reversed : Text) (c : Char) :
    Mirrors (Core.Behind first) (k.classNameEndStep negated reversed c)
      (k'.classNameEndStep negated reversed c) := by
  unfold Core.classNameEndStep
  rw [h.flags_eq]
  dsimp only
  split
  · exact .bind_same fun s => (h.addItem _).bind fun _ _ h => .ok (h.enter _)
  · exact h.reopen _ _

/-! Codes and names -/

theorem codeStep (h : k.Behind first k') (place : Place) (digits : Nat) (c : Char) :
    Mirrors (Core.Behind first) (k.codeStep place digits c) (k'.codeStep place digits c) := by
  refine .ite (.ok (h.enter _)) ?_
  cases Core.hexDigit? c with
  | some d => exact .ok (h.enter _)
  | none => exact .error _ _

theorem codeDigitsStep (h : k.Behind first k') (place : Place) (short : Bool)
    (missing value : Nat) (c : Char) :
    Mirrors (Core.Behind first) (k.codeDigitsStep place short missing value c)
      (k'.codeDigitsStep place short missing value c) := by
  unfold Core.codeDigitsStep
  cases Core.hexDigit? c with
  | some d =>
    cases missing with
    | zero => exact h.deliverCode place short _
    | succ missing => exact .ok (h.enter _)
  | none => exact .error _ _

theorem codeBraceStep (h : k.Behind first k') (place : Place) (value : Option Nat) (c : Char) :
    Mirrors (Core.Behind first) (k.codeBraceStep place value c)
      (k'.codeBraceStep place value c) := by
  refine .ite ?_ ?_
  · cases value with
    | some code => exact h.deliverCode place false code
    | none => exact .error _ _
  · cases Core.hexDigit? c with
    | some d => exact .ok (h.enter _)
    | none => exact .error _ _

theorem propertyStep (h : k.Behind first k') (place : Place) (negated : Bool) (c : Char) :
    Mirrors (Core.Behind first) (k.propertyStep place negated c)
      (k'.propertyStep place negated c) :=
  .ite (.ok (h.enter _)) (.ite (.error _ _) (h.deliverProperty place negated _))

/-! Repetitions -/

theorem repeatLast (h : k.Behind first k') (least : Nat) (extra : Option Nat) (mode : Mode) :
    Mirrors (Core.Behind first) (k.repeatLast least extra mode)
      (k'.repeatLast least extra mode) := by
  obtain ⟨f, rfl, hf⟩ := h
  exact hf.mapLast.bind fun _ _ hf => .ok ⟨_, rfl, hf⟩

theorem turnLast (h : k.Behind first k') :
    Mirrors (Core.Behind first) k.turnLast k'.turnLast := by
  obtain ⟨f, rfl, hf⟩ := h
  exact hf.mapLast.bind fun _ _ hf => .ok ⟨_, rfl, hf⟩

theorem tokenStep (h : k.Behind first k') (c : Char) :
    Mirrors (Core.Behind first) (k.tokenStep c) (k'.tokenStep c) := by
  obtain ⟨f, rfl, hf⟩ := h
  have h : k.Behind first { k with frame := f } := ⟨f, rfl, hf⟩
  unfold Core.tokenStep
  split
  case h_1 => exact .ok ⟨_, rfl, .bar⟩
  case h_2 => exact .ok h.openBracket
  case h_3 | h_4 | h_5 => exact h.repeatLast _ _ _
  case h_6 => exact hf.mapLast.bind fun _ _ hf => .ok ⟨_, rfl, hf⟩
  case h_7 => exact .ok (h.enter _)
  case h_8 => exact .bind_same fun s => .ok (h.add _)
  case h_9 | h_10 | h_11 => exact .ok (h.add _)

end Core.Behind

/-! What a character does to the stack of open groups -/

/-- Two outcomes of a character: the outermost frame, the only one that differs, is the one the
reader goes on with or, if a group opens, the one that is put by. -/
inductive Goes (first : Expr) : Core × Motion → Core × Motion → Prop where
  | stay {k k' : Core} (h : k.Behind first k') : Goes first (k, .stay) (k', .stay)
  | closes {k k' : Core} (h : k.Behind first k') : Goes first (k, .closes) (k', .closes)
  | opens {f f' : Frame} (k : Core) (number : Option Nat) (flags : Flags)
      (h : f.Behind first f') : Goes first (k, .opens number f flags) (k, .opens number f' flags)

namespace Core.Behind

variable {first : Expr} {k k' : Core}

theorem stays (h : k.Behind first k') : Mirrors (Goes first) k.stay k'.stay := .ok (.stay h)

theorem bind_stays {x x' : Except Fault Core} (h : Mirrors (Core.Behind first) x x') :
    Mirrors (Goes first) (x >>= Core.stay) (x' >>= Core.stay) := h.bind fun _ _ h => h.stays

theorem fails (fault : Fault) (y : Reading) : Mirrors (Goes first) (Core.fail fault) y :=
  .error fault y

theorem openGroup (h : k.Behind first k') (number : Option Nat) (flags : Flags) :
    Goes first (k.openGroup number flags) (k'.openGroup number flags) := by
  obtain ⟨f, rfl, hf⟩ := h
  exact .opens _ _ _ hf

theorem plainStep (h : k.Behind first k') (c : Char) :
    Mirrors (Goes first) (k.plainStep c) (k'.plainStep c) := by
  unfold Core.plainStep
  rw [h.skips_eq]
  exact .ite ((h.enter _).skip c).stays (.ite (h.enter _).stays (.ite (.ok (.closes h))
    (bind_stays (h.tokenStep c))))

theorem countStep (h : k.Behind first k') (n : Count) (c : Char) (mode : Count → Mode) :
    Mirrors (Goes first) (k.countStep n c mode) (k'.countStep n c mode) := by
  obtain ⟨f, rfl, hf⟩ := h
  have h : k.Behind first { k with frame := f } := ⟨f, rfl, hf⟩
  exact .ite (h.skip c).stays (.ite (h.enter _).stays
    (.ite (.bind_same fun n => (h.enter _).stays) (fails _ _)))

theorem leastStep (h : k.Behind first k') (n : Count) (c : Char) :
    Mirrors (Goes first) (k.leastStep n c) (k'.leastStep n c) := by
  unfold Core.leastStep
  split
  · exact (h.enter _).stays
  · exact bind_stays (h.repeatLast _ _ _)
  · exact h.countStep n _ _

theorem mostStep (h : k.Behind first k') (least : Nat) (n : Count) (c : Char) :
    Mirrors (Goes first) (k.mostStep least n c) (k'.mostStep least n c) := by
  unfold Core.mostStep
  split
  · exact bind_stays (h.repeatLast _ _ _)
  · split
    · exact .ite (bind_stays (h.repeatLast _ _ _)) (fails _ _)
    · exact fails _ _
  · exact h.countStep _ _ _

theorem groupNameStep (h : k.Behind first k') (reversed : Text) (c : Char) :
    Mirrors (Goes first) (k.groupNameStep reversed c) (k'.groupNameStep reversed c) := by
  obtain ⟨f, rfl, hf⟩ := h
  have h : k.Behind first { k with frame := f } := ⟨f, rfl, hf⟩
  exact .ite (.ite (fails _ _) (.ite (fails _ _) (.ok (.opens _ _ _ hf))))
    (.ite (h.enter _).stays (fails _ _))

theorem switchStep (h : k.Behind first k') (seen : Text) (on : Bool) (flags : Flags) (c : Char) :
    Mirrors (Goes first) (k.switchStep seen on flags c) (k'.switchStep seen on flags c) := by
  obtain ⟨f, rfl, hf⟩ := h
  have h : k.Behind first { k with frame := f } := ⟨f, rfl, hf⟩
  refine .ite (.ite (fails _ _) (.ite (.ok (h.openGroup _ _)) (.ite (fails _ _) ?_)))
    (.ite (fails _ _) (.ite (h.enter _).stays ?_))
  · exact stays ⟨_, rfl, hf.addSwitch⟩
  · cases flags.set? c on with
    | some flags => exact (h.enter _).stays
    | none => exact fails _ _

theorem openedStep (h : k.Behind first k') (c : Char) :
    Mirrors (Goes first) (k.openedStep c) (k'.openedStep c) := by
  obtain ⟨f, rfl, hf⟩ := h
  have h : k.Behind first { k with frame := f } := ⟨f, rfl, hf⟩
  refine .ite (h.skip c).stays (.ite (h.enter _).stays (.ite (h.countGroup.add _).stays ?_))
  -- The character belongs to the new group, whose branch is empty on both sides.
  exact .bind_same fun inner => .ok (.opens _ _ _ hf)

theorem questionStep (h : k.Behind first k') (c : Char) :
    Mirrors (Goes first) (k.questionStep c) (k'.questionStep c) := by
  unfold Core.questionStep
  rw [h.flags_eq]
  split
  case h_1 | h_2 => exact (h.enter _).stays
  case h_3 | h_4 => exact fails _ _
  case h_5 => exact h.switchStep _ _ _ _

theorem edgeNameStep (h : k.Behind first k') (reversed : Text) (c : Char) :
    Mirrors (Goes first) (k.edgeNameStep reversed c) (k'.edgeNameStep reversed c) := by
  obtain ⟨f, rfl, hf⟩ := h
  have h : k.Behind first { k with frame := f } := ⟨f, rfl, hf⟩
  refine .ite (h.skip c).stays (.ite (h.enter _).stays
    (.ite ((h.enter _).leastStep _ c) ?_))
  dsimp only
  split
  · exact hf.mapLast.bind fun _ _ hf => stays ⟨_, rfl, hf⟩
  · exact fails _ _

theorem step (h : k.Behind first k') (c : Char) :
    Mirrors (Goes first) (k.step c) (k'.step c) := by
  have hcomment : Core.Behind first { k with comment := c != '\n' }
      { k' with comment := c != '\n' } := by
    obtain ⟨f, rfl, hf⟩ := h
    exact ⟨f, rfl, hf⟩
  unfold Core.step
  rw [h.comment_eq, h.skips_eq]
  refine .ite hcomment.stays ?_
  rw [h.mode_eq]
  refine .ite ((h.enter _).skip c).stays ?_
  cases k.mode with
  | plain => exact h.plainStep c
  | repeated => exact .ite (bind_stays h.turnLast) (h.plainStep c)
  | counted => exact .ite (bind_stays h.turnLast) (h.plainStep c)
  | least n => exact h.leastStep n c
  | most least n => exact h.mostStep least n c
  | opened => exact h.openedStep c
  | question => exact h.questionStep c
  | questionP => exact .ite (h.enter _).stays (fails _ _)
  | angle => exact .ite (fails _ _) (h.groupNameStep [] c)
  | groupName reversed => exact h.groupNameStep reversed c
  | switches seen on flags => exact h.switchStep seen on flags c
  | escape place => exact bind_stays (h.escapeStep place c)
  | code place digits => exact bind_stays (h.codeStep place digits c)
  | codeDigits place short missing value =>
    exact bind_stays (h.codeDigitsStep place short missing value c)
  | codeBrace place value => exact bind_stays (h.codeBraceStep place value c)
  | property place negated => exact bind_stays (h.propertyStep place negated c)
  | propertyName place negated reversed =>
    exact .ite (bind_stays (h.deliverPropertyName place negated _)) (h.enter _).stays
  | edge => exact .ite (h.enter _).stays (h.plainStep c)
  | edgeName reversed => exact h.edgeNameStep reversed c
  | classStart caret hyphens => exact bind_stays (h.startStep caret hyphens c)
  | classItems => exact bind_stays (h.classStep c)
  | classOperator sign => exact bind_stays (h.operatorStep sign c)
  | classItem item => exact bind_stays (h.itemStep item c)
  | classHyphen item spaced => exact bind_stays (h.hyphenStep item spaced c)
  | classBracket =>
    exact .ite (h.enter _).stays (.ite (h.openBracket.skip c).stays
      (bind_stays (h.openBracket.startStep true false c)))
  | className negated reversed => exact bind_stays (h.classNameStep negated reversed c)
  | classNameEnd negated reversed => exact bind_stays (h.classNameEndStep negated reversed c)

end Core.Behind

/-! The reader as a whole -/

/-- Two readers that differ in their outermost frame only. It is the one that they go on with unless
a group is open. -/
inductive Reader.Behind (first : Expr) : Reader → Reader → Prop where
  | outside {k k' : Core} (h : k.Behind first k') : Behind first ⟨k, []⟩ ⟨k', []⟩
  | inside {f f' : Frame} (k : Core) (inner : List Enclosing) (number : Option Nat)
      (flags : Flags) (h : f.Behind first f') :
      Behind first ⟨k, inner ++ [⟨number, f, flags⟩]⟩ ⟨k, inner ++ [⟨number, f', flags⟩]⟩

namespace Reader.Behind

variable {first : Expr} {r r' : Reader}

theorem step (h : r.Behind first r') (c : Char) :
    Mirrors (Reader.Behind first) (r.step c) (r'.step c) := by
  cases h with
  | outside h =>
    refine (h.step c).bind ?_
    intro a a' hgoes
    cases hgoes with
    | stay h => exact .ok (.outside h)
    | closes h => exact .error _ _
    | opens k number flags h => exact .ok (.inside k [] number flags h)
  | inside k inner number flags h =>
    refine .bind_same ?_
    intro ⟨k, m⟩
    cases m with
    | stay => exact .ok (.inside k inner number flags h)
    | opens number' frame flags' =>
      exact .ok (.inside k (⟨number', frame, flags'⟩ :: inner) number flags h)
    | closes =>
      cases inner with
      | nil => exact .ok (.outside ⟨_, rfl, h.add _⟩)
      | cons g gs => exact .ok (.inside _ gs number flags h)

theorem foldlM (h : r.Behind first r') (source : Text) :
    Mirrors (Reader.Behind first) (source.foldlM Reader.step r) (source.foldlM Reader.step r') := by
  induction source generalizing r r' with
  | nil => exact .ok h
  | cons c source ih =>
    rw [List.foldlM_cons, List.foldlM_cons]
    exact (h.step c).bind fun _ _ h => ih h

theorem exists_outside {k : Core} (h : Reader.Behind first ⟨k, []⟩ r') :
    ∃ k', r' = ⟨k', []⟩ ∧ k.Behind first k' := by
  generalize hr : (⟨k, []⟩ : Reader) = r at h
  cases h with
  | outside h =>
    cases hr
    exact ⟨_, rfl, h⟩
  | inside k inner number flags h => simp at hr

end Reader.Behind

/-- Where a pattern may end, a dollar sign stands for the end of the text. -/
theorem Core.step_dollar {k : Core} (hend : atEnd k.mode = true) (hline : k.flags.multiline = false)
    (hcomment : k.comment = false) : k.step '$' = .ok (k.add (.look .textEnd), .stay) := by
  have hskips : k.skips '$' = false := by
    have hblank : (isBlank '$' || '$' == '#') = false := rfl
    rw [skips, hblank, Bool.and_false]
  have hdollar : k.dollar = .textEnd := by rw [dollar, hline, Bool.not_false, if_pos rfl]
  have htoken : k.tokenStep '$' = .ok (k.add (.look k.dollar)) := rfl
  rw [step_of_atEnd hend hcomment hskips (by decide) (by decide), plainStep, hskips, htoken,
    hdollar]
  rfl

/-- A pattern of its own whose end leaves the multi-line option off and is not in a comment. There
are no alternatives outside its groups. -/
structure Sole (source : Text) (k : Core) : Prop where
  reads : read source = .ok k
  branch : k.frame.alts = []
  singleLine : k.flags.multiline = false
  uncommented : k.comment = false

/-- Between a caret and a dollar sign such a pattern has its items between the start and the end of
the text. -/
theorem Sole.read_anchored {source : Text} {k : Core} (h : Sole source k) :
    read (['^'] ++ source ++ ['$']) = .ok { k with
      frame := { items := some (.look .textEnd) :: k.frame.items ++ [some (.look .textStart)] }
      mode := .plain } := by
  obtain ⟨hrun, hend⟩ := read_eq_ok_iff.mp h.reads
  have hcaret : ['^'].foldlM Reader.step {} =
      .ok ⟨{ frame := { items := [some (.look .textStart)] } }, []⟩ := rfl
  have hstart : Reader.Behind (.look .textStart) {}
      ⟨{ frame := { items := [some (.look .textStart)] } }, []⟩ :=
    .outside ⟨_, rfl, Iff.rfl, fun _ => rfl, fun hne => absurd rfl hne⟩
  obtain ⟨r, hbody, hbehind⟩ := hstart.foldlM source _ hrun
  obtain ⟨k', rfl, ⟨alts, items⟩, rfl, hframe⟩ := hbehind.exists_outside
  obtain rfl : alts = [] := hframe.alts.mpr h.branch
  obtain rfl : items = _ := hframe.sole h.branch
  have hdollar := Core.step_dollar
    (k := { k with frame := { items := k.frame.items ++ [some (.look .textStart)] } })
    hend h.singleLine h.uncommented
  exact read_eq_ok_iff.mpr ⟨Reader.foldlM_append_eq_ok_iff.mpr
    ⟨_, Reader.foldlM_append_eq_ok_iff.mpr ⟨_, hcaret, hbody⟩,
      Reader.foldlM_cons_eq_ok_iff.mpr ⟨_, Reader.step_of_core hdollar rfl, rfl⟩⟩, rfl⟩

end Phrasebook.Pattern
