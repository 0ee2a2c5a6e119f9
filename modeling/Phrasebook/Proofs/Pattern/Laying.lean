import Phrasebook.Proofs.Pattern.Stepping

/-!
Programs of patterns. A run of the program that begins where a tree was laid down comes, if it comes
to an end at all, to where the tree goes on, and the stretch that it has taken is one that the tree
matches; and each stretch that the tree matches is taken by some run. The part of a program that
belongs to a tree lies between two addresses and is not changed later, apart from the address that a
loop leaves free for itself. So what is shown of a part holds in every program that has it there.
-/

namespace Phrasebook.Pattern

/-- What has been laid down in front stays as it is. -/
structure Keeps (p p' : Program) : Prop where
  size_le : p.size ≤ p'.size
  same : ∀ a, a < p.size → p'[a]? = p[a]?

/-- What was laid down between two states of the program stands in it now. -/
def Holds (q p p' : Program) : Prop := ∀ a, p.size ≤ a → a < p'.size → q[a]? = p'[a]?

theorem Keeps.refl (p : Program) : Keeps p p := ⟨Nat.le_refl _, fun _ _ => rfl⟩

theorem Keeps.trans {p₁ p₂ p₃ : Program} (h : Keeps p₁ p₂) (h' : Keeps p₂ p₃) : Keeps p₁ p₃ where
  size_le := Nat.le_trans h.size_le h'.size_le
  same := fun a ha => (h'.same a (Nat.lt_of_lt_of_le ha h.size_le)).trans (h.same a ha)

theorem keeps_push (p : Program) (i : Instr) : Keeps p (push p i).2 where
  size_le := by simp [push]
  same := fun a ha => by
    have hne : a ≠ p.size := Nat.ne_of_lt ha
    simp [push, Array.getElem?_push, hne]

theorem Holds.first {q p₁ p₂ p₃ : Program} (h : Holds q p₁ p₃) (h₂ : Keeps p₂ p₃) :
    Holds q p₁ p₂ := by
  intro a hle hlt
  rw [h a hle (Nat.lt_of_lt_of_le hlt h₂.size_le), h₂.same a hlt]

theorem Holds.last {q p₁ p₂ p₃ : Program} (h : Holds q p₁ p₃) (h₁ : Keeps p₁ p₂) :
    Holds q p₂ p₃ := fun a hle hlt => h a (Nat.le_trans h₁.size_le hle) hlt

theorem Holds.pushed {q p : Program} {i : Instr} (h : Holds q p (push p i).2) :
    q[p.size]? = some i := by
  rw [h p.size (Nat.le_refl _) (by simp [push])]
  simp [push]

/-- A way to lay down parts in front of an address, and the stretches that it takes. -/
structure Lays (t : Text) (part : Nat → Program → Nat × Program) (takes : Nat → Nat → Prop) :
    Prop where
  within : ∀ {i k}, takes i k → k ≤ t.length
  keeps : ∀ next p, Keeps p (part next p).2
  sound : ∀ {next p q}, Holds q p (part next p).2 → ∀ {n i j}, i ≤ t.length →
    Run q t n ((part next p).1, i) j → ∃ k m, m ≤ n ∧ takes i k ∧ Run q t m (next, k) j
  complete : ∀ {next p q}, Holds q p (part next p).2 → ∀ {i k}, takes i k →
    Leads q t ((part next p).1, i) (next, k)

namespace Lays

variable {t : Text} {part part' : Nat → Program → Nat × Program} {takes takes' : Nat → Nat → Prop}

theorem congr (h : Lays t part takes) (hiff : ∀ i k, takes i k ↔ takes' i k) :
    Lays t part takes' := by
  obtain rfl : takes = takes' := funext fun i => funext fun k => propext (hiff i k)
  exact h

theorem nothing : Lays t (fun next p => (next, p)) (fun i k => i = k ∧ k ≤ t.length) where
  within := fun htakes => htakes.2
  keeps := fun _ p => .refl p
  sound := fun _ _ i _ hi hrun => ⟨i, _, Nat.le_refl _, ⟨rfl, hi⟩, hrun⟩
  complete := fun _ _ _ htakes => by
    obtain ⟨rfl, -⟩ := htakes
    exact .refl

theorem set (s : CharSet) (levels : Nat) :
    Lays t (fun next p => push p (.set s next)) (Matches t (.set s levels)) where
  within := fun h => h.bounds.2
  keeps := fun _ p => keeps_push p _
  sound := fun hq _ i _ _ hrun => by
    obtain ⟨m, rfl, c, hc, hs, hrest⟩ := hrun.of_set hq.pushed
    exact ⟨i + 1, m, Nat.le_succ m, .set hc hs, hrest⟩
  complete := fun hq _ _ hmatch => by
    obtain ⟨rfl, c, hc, hs⟩ := matches_set_iff.mp hmatch
    exact .single (.set hq.pushed hc hs)

theorem look (l : Look) :
    Lays t (fun next p => push p (.look l next)) (Matches t (.look l)) where
  within := fun h => h.bounds.2
  keeps := fun _ p => keeps_push p _
  sound := fun hq _ i _ hi hrun => by
    obtain ⟨m, rfl, hl, hrest⟩ := hrun.of_look hq.pushed
    exact ⟨i, m, Nat.le_succ m, .look hi hl, hrest⟩
  complete := fun hq _ _ hmatch => by
    obtain ⟨rfl, -, hl⟩ := matches_look_iff.mp hmatch
    exact .single (.look hq.pushed hl)

theorem save (slot : Nat) :
    Lays t (fun next p => push p (.save slot next)) (fun i k => i = k ∧ k ≤ t.length) where
  within := fun htakes => htakes.2
  keeps := fun _ p => keeps_push p _
  sound := fun hq _ i _ hi hrun => by
    obtain ⟨m, rfl, hrest⟩ := hrun.of_save hq.pushed
    exact ⟨i, m, Nat.le_succ m, ⟨rfl, hi⟩, hrest⟩
  complete := fun hq _ _ htakes => by
    obtain ⟨rfl, -⟩ := htakes
    exact .single (.save hq.pushed)

/-- One part in front of another; the one behind is laid down first. -/
theorem seq (h : Lays t part takes) (h' : Lays t part' takes') :
    Lays t (fun next p => part (part' next p).1 (part' next p).2)
      (fun i k => ∃ l, takes i l ∧ takes' l k) where
  within := fun ⟨_, _, htakes'⟩ => h'.within htakes'
  keeps := fun next p => (h'.keeps next p).trans (h.keeps _ _)
  sound := fun {next p q} hq n i j hi hrun => by
    obtain ⟨l, m, hmn, htakes, hrest⟩ := h.sound (hq.last (h'.keeps next p)) hi hrun
    obtain ⟨k, m', hm', htakes', hrest'⟩ :=
      h'.sound (hq.first (h.keeps _ _)) (h.within htakes) hrest
    exact ⟨k, m', Nat.le_trans hm' hmn, ⟨l, htakes, htakes'⟩, hrest'⟩
  complete := fun {next p q} hq i k htakes => by
    obtain ⟨l, htakes, htakes'⟩ := htakes
    exact (h.complete (hq.last (h'.keeps next p)) htakes).trans
      (h'.complete (hq.first (h.keeps _ _)) htakes')

theorem alt (h : Lays t part takes) (h' : Lays t part' takes') :
    Lays t (fun next p => push (part' next (part next p).2).2
        (.split (part next p).1 (part' next (part next p).2).1))
      (fun i k => takes i k ∨ takes' i k) where
  within := fun htakes => htakes.elim h.within h'.within
  keeps := fun next p => ((h.keeps next p).trans (h'.keeps _ _)).trans (keeps_push _ _)
  sound := fun {next p q} hq n i j hi hrun => by
    have hq₁ := hq.first (keeps_push _ _)
    have hsplit := (hq.last ((h.keeps next p).trans (h'.keeps _ _))).pushed
    obtain ⟨m, rfl, hrest | hrest⟩ := hrun.of_split hsplit
    · obtain ⟨k, m', hm', htakes, hrest'⟩ := h.sound (hq₁.first (h'.keeps _ _)) hi hrest
      exact ⟨k, m', by omega, Or.inl htakes, hrest'⟩
    · obtain ⟨k, m', hm', htakes, hrest'⟩ := h'.sound (hq₁.last (h.keeps _ _)) hi hrest
      exact ⟨k, m', by omega, Or.inr htakes, hrest'⟩
  complete := fun {next p q} hq i k htakes => by
    have hq₁ := hq.first (keeps_push _ _)
    have hsplit := (hq.last ((h.keeps next p).trans (h'.keeps _ _))).pushed
    rcases htakes with htakes | htakes
    · exact .head (.preferred hsplit) (h.complete (hq₁.first (h'.keeps _ _)) htakes)
    · exact .head (.other hsplit) (h'.complete (hq₁.last (h.keeps _ _)) htakes)

/-- A part that may be left out. -/
theorem optional (h : Lays t part takes) (greedy : Bool) :
    Lays t (fun next p => push (part next p).2 (choice greedy (part next p).1 next))
      (fun i k => takes i k ∨ i = k ∧ k ≤ t.length) where
  within := fun htakes => htakes.elim h.within And.right
  keeps := fun next p => (h.keeps next p).trans (keeps_push _ _)
  sound := fun {next p q} hq n i j hi hrun => by
    obtain ⟨m, rfl, hrest | hrest⟩ := hrun.of_choice (hq.last (h.keeps next p)).pushed
    · obtain ⟨k, m', hm', htakes, hrest'⟩ := h.sound (hq.first (keeps_push _ _)) hi hrest
      exact ⟨k, m', by omega, Or.inl htakes, hrest'⟩
    · exact ⟨i, m, by omega, Or.inr ⟨rfl, hi⟩, hrest⟩
  complete := fun {next p q} hq i k htakes => by
    have hchoice := (hq.last (h.keeps next p)).pushed
    rcases htakes with htakes | ⟨rfl, -⟩
    · exact .head (step_body hchoice) (h.complete (hq.first (keeps_push _ _)) htakes)
    · exact .single (step_leave hchoice)

/-! Repetitions -/

variable {body : Expr}

theorem exactly (h : Lays t part (Matches t body)) (n : Nat) :
    Lays t (copies part n) (Rounds t body n) := by
  induction n with
  | zero => exact nothing.congr fun _ _ => rounds_zero_iff.symm
  | succ n ih => exact (ih.seq h).congr fun _ _ => rounds_concat_iff.symm

theorem keeps_options (h : Lays t part (Matches t body)) (greedy : Bool) (leave n next : Nat)
    (p : Program) : Keeps p (options part greedy leave n next p).2 := by
  induction n generalizing next p with
  | zero => exact .refl p
  | succ n ih => exact ((h.keeps next p).trans (keeps_push _ _)).trans (ih _ _)

/-- What is laid down for one option more: a copy of the part, a choice, and the other options. -/
theorem holds_options (h : Lays t part (Matches t body)) {greedy : Bool} {leave count next : Nat}
    {p q : Program} (hq : Holds q p (options part greedy leave (count + 1) next p).2) :
    Holds q p (part next p).2 ∧
    q[(part next p).2.size]? = some (choice greedy (part next p).1 leave) ∧
    Holds q (push (part next p).2 (choice greedy (part next p).1 leave)).2
      (options part greedy leave count (part next p).2.size
        (push (part next p).2 (choice greedy (part next p).1 leave)).2).2 := by
  have hfirst := hq.first (h.keeps_options greedy leave count _ _)
  exact ⟨hfirst.first (keeps_push _ _), (hfirst.last (h.keeps next p)).pushed,
    hq.last ((h.keeps next p).trans (keeps_push _ _))⟩

/-- A run through the options leaves them early, or has gone through all. -/
theorem of_options (h : Lays t part (Matches t body)) {greedy : Bool} {leave count next : Nat}
    {p q : Program} (hq : Holds q p (options part greedy leave count next p).2) {n i j : Nat}
    (hi : i ≤ t.length) (hrun : Run q t n ((options part greedy leave count next p).1, i) j) :
    ∃ r k m, m ≤ n ∧ Rounds t body r i k ∧
      (r ≤ count ∧ Run q t m (leave, k) j ∨ r = count ∧ Run q t m (next, k) j) := by
  induction count generalizing next p n with
  | zero => exact ⟨0, i, n, Nat.le_refl _, .none hi, Or.inr ⟨rfl, hrun⟩⟩
  | succ count ih =>
    obtain ⟨hpart, hchoice, hoptions⟩ := h.holds_options hq
    obtain ⟨r, k, m, hmn, hrounds, hend⟩ := ih hoptions hrun
    rcases hend with ⟨hr, hrest⟩ | ⟨rfl, hrest⟩
    · exact ⟨r, k, m, hmn, hrounds, Or.inl ⟨Nat.le_succ_of_le hr, hrest⟩⟩
    · obtain ⟨m', rfl, hrest | hrest⟩ := Run.of_choice hrest hchoice
      · obtain ⟨k', m'', hm'', hmatch, hrest'⟩ := h.sound hpart hrounds.bounds.2 hrest
        exact ⟨r + 1, k', m'', by omega, rounds_concat_iff.mpr ⟨k, hrounds, hmatch⟩,
          Or.inr ⟨rfl, hrest'⟩⟩
      · exact ⟨r, k, m', by omega, hrounds, Or.inl ⟨Nat.le_succ r, hrest⟩⟩

theorem leads_options (h : Lays t part (Matches t body)) {greedy : Bool} {leave count next : Nat}
    {p q : Program} (hq : Holds q p (options part greedy leave count next p).2) {r i k : Nat}
    (hrounds : Rounds t body r i k) :
    (r < count → Leads q t ((options part greedy leave count next p).1, i) (leave, k)) ∧
    (r = count → Leads q t ((options part greedy leave count next p).1, i) (next, k)) := by
  induction count generalizing next p r k with
  | zero =>
    refine ⟨fun hr => absurd hr (Nat.not_lt_zero r), ?_⟩
    rintro rfl
    obtain ⟨rfl, -⟩ := rounds_zero_iff.mp hrounds
    exact .refl
  | succ count ih =>
    obtain ⟨hpart, hchoice, hoptions⟩ := h.holds_options hq
    have ih := fun {r k} => ih (r := r) (k := k) hoptions
    constructor
    · intro hr
      by_cases hlast : r = count
      · exact ((ih hrounds).2 hlast).tail (step_leave hchoice)
      · exact (ih hrounds).1 (by omega)
    · rintro rfl
      obtain ⟨l, hrounds, hmatch⟩ := rounds_concat_iff.mp hrounds
      exact (((ih hrounds).2 rfl).tail (step_body hchoice)).trans (h.complete hpart hmatch)

/-- Options that are all left for the same address. -/
theorem upTo (h : Lays t part (Matches t body)) (greedy : Bool) (count : Nat) :
    Lays t (fun next p => options part greedy next count next p)
      (fun i k => ∃ r, r ≤ count ∧ Rounds t body r i k) where
  within := fun ⟨_, _, hrounds⟩ => hrounds.bounds.2
  keeps := fun next p => h.keeps_options greedy next count next p
  sound := fun hq n i j hi hrun => by
    obtain ⟨r, k, m, hmn, hrounds, ⟨hr, hrest⟩ | ⟨rfl, hrest⟩⟩ := h.of_options hq hi hrun
    · exact ⟨k, m, hmn, ⟨r, hr, hrounds⟩, hrest⟩
    · exact ⟨k, m, hmn, ⟨r, Nat.le_refl r, hrounds⟩, hrest⟩
  complete := fun hq i k htakes => by
    obtain ⟨r, hr, hrounds⟩ := htakes
    rcases Nat.lt_or_eq_of_le hr with hlt | heq
    · exact (h.leads_options hq hrounds).1 hlt
    · exact (h.leads_options hq hrounds).2 heq

/-! A loop leaves an address free for itself, lays down its body to come back there, and then puts
its choice in that place. -/

def looped (part : Nat → Program → Nat × Program) (p : Program) : Nat × Program :=
  part p.size (push p .done).2

theorem size_loop (greedy : Bool) (next : Nat) (p : Program) :
    (loop part greedy next p).2.2.size = (looped part p).2.size := Array.size_setIfInBounds

theorem getElem?_loop (greedy : Bool) (next : Nat) (p : Program) {a : Nat} (hne : a ≠ p.size) :
    (loop part greedy next p).2.2[a]? = (looped part p).2[a]? :=
  Array.getElem?_setIfInBounds_ne (Ne.symm hne)

theorem keeps_loop (h : Lays t part takes) (greedy : Bool) (next : Nat) (p : Program) :
    Keeps p (loop part greedy next p).2.2 := by
  have hkeeps : Keeps p (looped part p).2 := (keeps_push p .done).trans (h.keeps p.size _)
  constructor
  · rw [size_loop]
    exact hkeeps.size_le
  · intro a ha
    rw [getElem?_loop greedy next p (Nat.ne_of_lt ha), hkeeps.same a ha]

/-- What a loop has laid down: its choice, and behind it its body. -/
theorem holds_loop (h : Lays t part takes) {greedy : Bool} {next : Nat} {p q : Program}
    (hq : Holds q p (loop part greedy next p).2.2) :
    q[p.size]? = some (choice greedy (looped part p).1 next) ∧
      Holds q (push p .done).2 (looped part p).2 := by
  have hsize : p.size < (looped part p).2.size := by
    have hle : (push p .done).2.size ≤ (looped part p).2.size := (h.keeps p.size _).size_le
    have hpush : (push p .done).2.size = p.size + 1 := Array.size_push _
    omega
  constructor
  · rw [hq p.size (Nat.le_refl _) (by rw [size_loop]; exact hsize)]
    exact Array.getElem?_setIfInBounds_self_of_lt hsize
  · intro a hle hlt
    have hpush : (push p .done).2.size = p.size + 1 := Array.size_push _
    rw [hq a (by omega) (by rw [size_loop]; exact hlt), getElem?_loop greedy next p (by omega)]

theorem of_loop (h : Lays t part (Matches t body)) {greedy : Bool} {next : Nat} {p q : Program}
    (hq : Holds q p (loop part greedy next p).2.2) {n i j : Nat} (hi : i ≤ t.length)
    (hrun : Run q t n (p.size, i) j) :
    ∃ k m, m ≤ n ∧ (∃ r, Rounds t body r i k) ∧ Run q t m (next, k) j := by
  obtain ⟨hchoice, hpart⟩ := h.holds_loop hq
  -- A round that comes back to the choice has used up steps of the run.
  induction n using Nat.strongRecOn generalizing i with
  | ind n ih =>
    obtain ⟨m, rfl, hrest | hrest⟩ := hrun.of_choice hchoice
    · obtain ⟨l, m', hm', hmatch, hback⟩ := h.sound hpart hi hrest
      obtain ⟨k, m'', hm'', ⟨r, hrounds⟩, hrest'⟩ := ih m' (by omega) hmatch.bounds.2 hback
      exact ⟨k, m'', by omega, ⟨r + 1, .next hmatch hrounds⟩, hrest'⟩
    · exact ⟨i, m, Nat.le_succ m, ⟨0, .none hi⟩, hrest⟩

theorem leads_loop (h : Lays t part (Matches t body)) {greedy : Bool} {next : Nat} {p q : Program}
    (hq : Holds q p (loop part greedy next p).2.2) {r i k : Nat} (hrounds : Rounds t body r i k) :
    Leads q t (p.size, i) (next, k) := by
  obtain ⟨hchoice, hpart⟩ := h.holds_loop hq
  induction hrounds with
  | none _ => exact .single (step_leave hchoice)
  | next hmatch _ ih => exact .head (step_body hchoice) ((h.complete hpart hmatch).trans ih)

/-- A loop that is entered at its choice. -/
theorem again (h : Lays t part (Matches t body)) (greedy : Bool) :
    Lays t (fun next p => ((loop part greedy next p).1, (loop part greedy next p).2.2))
      (fun i k => ∃ r, Rounds t body r i k) where
  within := fun ⟨_, hrounds⟩ => hrounds.bounds.2
  keeps := fun next p => h.keeps_loop greedy next p
  sound := fun hq _ _ _ hi hrun => h.of_loop hq hi hrun
  complete := fun hq _ _ ⟨_, hrounds⟩ => h.leads_loop hq hrounds

/-- A loop that is entered at its body. -/
theorem entered (h : Lays t part (Matches t body)) (greedy : Bool) :
    Lays t (fun next p => ((loop part greedy next p).2.1, (loop part greedy next p).2.2))
      (fun i k => ∃ r, Rounds t body (r + 1) i k) where
  within := fun ⟨_, hrounds⟩ => hrounds.bounds.2
  keeps := fun next p => h.keeps_loop greedy next p
  sound := fun hq n i j hi hrun => by
    obtain ⟨l, m, hm, hmatch, hback⟩ := h.sound (h.holds_loop hq).2 hi hrun
    obtain ⟨k, m', hm', ⟨r, hrounds⟩, hrest⟩ := h.of_loop hq hmatch.bounds.2 hback
    exact ⟨k, m', Nat.le_trans hm' hm, ⟨r, .next hmatch hrounds⟩, hrest⟩
  complete := fun hq i k htakes => by
    obtain ⟨r, hrounds⟩ := htakes
    obtain ⟨l, hmatch, hrounds⟩ := rounds_succ_iff.mp hrounds
    exact (h.complete (h.holds_loop hq).2 hmatch).trans (h.leads_loop hq hrounds)

end Lays

/-- A tree without width matches the empty text only. -/
theorem Matches.eq_of_width {t : Text} {e : Expr} {i j : Nat} (h : Matches t e i j)
    (hwidth : e.width? = false) : i = j := by
  induction h with
  | empty _ => rfl
  | set _ _ => cases hwidth
  | look _ _ => rfl
  | group _ ih => exact ih hwidth
  | seq _ _ ih₁ ih₂ =>
    obtain ⟨hfirst, hsecond⟩ := Bool.or_eq_false_iff.mp hwidth
    exact (ih₁ hfirst).trans (ih₂ hsecond)
  | preferred _ ih => exact ih (Bool.or_eq_false_iff.mp hwidth).1
  | other _ ih => exact ih (Bool.or_eq_false_iff.mp hwidth).2
  | enough _ => rfl
  | @due least extra greedy body i k j _ _ ih₁ ih₂ =>
    have hbody : body.width? = false := by simpa [Expr.width?] using hwidth
    exact (ih₁ hbody).trans (ih₂ (by simp [Expr.width?, hbody]))
  | @more extra greedy body i k j _ _ ih₁ ih₂ =>
    have hbody : body.width? = false := by simpa [Expr.width?] using hwidth
    exact (ih₁ hbody).trans (ih₂ (by simp [Expr.width?, hbody]))
  | @again greedy body i k j _ _ ih₁ ih₂ =>
    have hbody : body.width? = false := by simpa [Expr.width?] using hwidth
    exact (ih₁ hbody).trans (ih₂ (by simp [Expr.width?, hbody]))

/-- Rounds without width may be as many as one likes, from one on. -/
theorem Rounds.of_width {t : Text} {body : Expr} {r i j : Nat} (h : Rounds t body (r + 1) i j)
    (hwidth : body.width? = false) (s : Nat) : Rounds t body (s + 1) i j := by
  have hempty : i = j ∧ Matches t body i i := by
    generalize hcount : r + 1 = count at h
    induction h generalizing r with
    | none _ => cases hcount
    | next hmatch hrest ih =>
      obtain rfl := hmatch.eq_of_width hwidth
      cases r with
      | zero =>
        cases hcount
        exact ⟨(rounds_zero_iff.mp hrest).1, hmatch⟩
      | succ r => exact ⟨(ih (Nat.succ.inj hcount)).1, hmatch⟩
  obtain ⟨rfl, hmatch⟩ := hempty
  induction s with
  | zero => exact .next hmatch (.none hmatch.bounds.2)
  | succ s ih => exact .next hmatch ih

/-- A body without width need not be repeated. -/
theorem matches_times_of_width {t : Text} {body : Expr} (hwidth : body.width? = false)
    (least : Nat) (extra : Option Nat) (greedy : Bool) {i j : Nat} :
    Matches t (.times (min least 1) (extra.map (min · (1 - min least 1))) greedy body) i j ↔
      Matches t (.times least extra greedy body) i j := by
  simp only [matches_times_iff, Option.map_eq_some_iff]
  constructor
  · intro h
    obtain ⟨n, hleast, hmost, hrounds⟩ := h
    cases n with
    | zero =>
      have hzero : least = 0 := by omega
      exact ⟨0, by omega, fun m _ => Nat.zero_le _, hrounds⟩
    | succ n =>
      refine ⟨max least 1 - 1 + 1, by omega, fun m hm => ?_, hrounds.of_width hwidth _⟩
      have hbound := hmost _ ⟨m, hm, rfl⟩
      omega
  · intro h
    obtain ⟨n, hleast, hmost, hrounds⟩ := h
    cases n with
    | zero => exact ⟨0, by omega, fun m _ => Nat.zero_le _, hrounds⟩
    | succ n =>
      refine ⟨0 + 1, by omega, fun m hm => ?_, hrounds.of_width hwidth 0⟩
      obtain ⟨m', hm', rfl⟩ := hm
      have hbound := hmost m' hm'
      omega

section Repetitions

variable {t : Text} {body : Expr} {part : Nat → Program → Nat × Program}

theorem Lays.bounded (h : Lays t part (Matches t body)) (least extra : Nat) (greedy : Bool) :
    Lays t (fun next p => copies part least (options part greedy next extra next p).1
        (options part greedy next extra next p).2)
      (Matches t (.times least (some extra) greedy body)) := by
  refine ((h.exactly least).seq (h.upTo greedy extra)).congr fun i j => ?_
  rw [matches_times_iff]
  constructor
  · intro htakes
    obtain ⟨k, hleast, r, hr, hrest⟩ := htakes
    refine ⟨least + r, Nat.le_add_right _ _, fun m hm => ?_, rounds_add_iff.mpr ⟨k, hleast, hrest⟩⟩
    cases hm
    omega
  · intro hmatch
    obtain ⟨n, hle, hmost, hrounds⟩ := hmatch
    obtain ⟨r, rfl⟩ := Nat.exists_eq_add_of_le hle
    obtain ⟨k, hleast, hrest⟩ := rounds_add_iff.mp hrounds
    have hbound := hmost extra rfl
    exact ⟨k, hleast, r, by omega, hrest⟩

theorem Lays.unbounded (h : Lays t part (Matches t body)) (least : Nat) (greedy nullable : Bool) :
    Lays t (fun next p =>
        let (again, entry, p) := loop part greedy next p
        if least = 0 then if nullable then push p (choice greedy entry next) else (again, p)
        else copies part (least - 1) entry p)
      (Matches t (.times least none greedy body)) := by
  have hunbounded : ∀ i j, Matches t (.times least none greedy body) i j ↔
      ∃ n, least ≤ n ∧ Rounds t body n i j := by
    intro i j
    rw [matches_times_iff]
    simp
  cases least with
  | zero =>
    cases nullable with
    | true =>
      refine ((h.entered greedy).optional greedy).congr fun i j => ?_
      rw [hunbounded]
      constructor
      · intro htakes
        rcases htakes with ⟨r, hrounds⟩ | hnone
        · exact ⟨r + 1, Nat.zero_le _, hrounds⟩
        · exact ⟨0, Nat.le_refl _, rounds_zero_iff.mpr hnone⟩
      · intro hmatch
        obtain ⟨n, -, hrounds⟩ := hmatch
        cases n with
        | zero => exact Or.inr (rounds_zero_iff.mp hrounds)
        | succ n => exact Or.inl ⟨n, hrounds⟩
    | false =>
      refine (h.again greedy).congr fun i j => ?_
      rw [hunbounded]
      simp
  | succ least =>
    refine ((h.exactly least).seq (h.entered greedy)).congr fun i j => ?_
    rw [hunbounded]
    constructor
    · intro htakes
      obtain ⟨k, hleast, r, hrest⟩ := htakes
      exact ⟨least + (r + 1), by omega, rounds_add_iff.mpr ⟨k, hleast, hrest⟩⟩
    · intro hmatch
      obtain ⟨n, hle, hrounds⟩ := hmatch
      obtain ⟨r, rfl⟩ := Nat.exists_eq_add_of_le hle
      rw [Nat.add_assoc, Nat.add_comm 1 r] at hrounds
      obtain ⟨k, hleast, hrest⟩ := rounds_add_iff.mp hrounds
      exact ⟨k, hleast, r, hrest⟩

end Repetitions

/-- A tree is laid down so that the program takes what the tree matches. -/
theorem lays_layout (t : Text) (e : Expr) : Lays t (layout e) (Matches t e) := by
  induction e with
  | empty => exact Lays.nothing.congr fun _ _ => matches_empty_iff.symm
  | set s levels => exact .set s levels
  | look l => exact .look l
  | group number body ih =>
    cases number with
    | none => exact ih.congr fun _ _ => matches_group_iff.symm
    | some k =>
      refine ((Lays.save (2 * k)).seq (ih.seq (.save (2 * k + 1)))).congr fun i j => ?_
      rw [matches_group_iff]
      constructor
      · intro htakes
        obtain ⟨_, ⟨rfl, -⟩, _, hmatch, rfl, -⟩ := htakes
        exact hmatch
      · intro hmatch
        exact ⟨i, ⟨rfl, Nat.le_trans hmatch.bounds.1 hmatch.bounds.2⟩, j, hmatch, rfl,
          hmatch.bounds.2⟩
  | seq first second ih₁ ih₂ => exact (ih₁.seq ih₂).congr fun _ _ => matches_seq_iff.symm
  | alt preferred other ih₁ ih₂ => exact (ih₁.alt ih₂).congr fun _ _ => matches_alt_iff.symm
  | times least extra greedy body ih =>
    cases extra with
    | some extra =>
      refine (ih.bounded (if body.width? then least else min least 1) (if body.width? then extra
        else min extra (1 - if body.width? then least else min least 1)) greedy).congr fun i j => ?_
      cases hwidth : body.width? with
      | true => exact Iff.rfl
      | false => exact matches_times_of_width hwidth least (some extra) greedy
    | none =>
      refine (ih.unbounded (if body.width? then least else min least 1) greedy
        body.nullable).congr fun i j => ?_
      cases hwidth : body.width? with
      | true => exact Iff.rfl
      | false => exact matches_times_of_width hwidth least none greedy

/-- The program of a tree ends at the places where the matches of the tree end. -/
theorem ends_program_iff {t : Text} {e : Expr} {i j : Nat} (hi : i ≤ t.length) :
    Ends e.program.2 t (e.program.1, i) j ↔ Matches t e i j := by
  have hlays := lays_layout t e
  have hholds : Holds e.program.2 #[.done] e.program.2 := fun _ _ _ => rfl
  have hdone : e.program.2[0]? = some .done := (hlays.keeps 0 #[.done]).same 0 Nat.one_pos
  constructor
  · intro hends
    obtain ⟨n, hrun⟩ := exists_run_of_ends hends
    obtain ⟨k, m, -, hmatch, hrest⟩ := hlays.sound hholds hi hrun
    obtain rfl := hrest.of_done hdone
    exact hmatch
  · intro hmatch
    exact ⟨0, hlays.complete hholds hmatch, hdone⟩

end Phrasebook.Pattern
