import Phrasebook.Proofs.Translator.Coherence

/-!
Requests one after the other, with no reload between them. An answer is told by the dictionary
alone, and an entry by its input alone: whoever asks first for a text that stays open has the same
entry put into the ledger. So two requests can change places, and with them any order of requests
can be brought into any other. The files differ in the order of their lines, but every line is
read back, and what they are read as is the one ledger.
-/

namespace Phrasebook

open FileSystem

def Dictionary.openEntry? (d : Dictionary) (input : Text) : Option Entry :=
  if input = [] ∨ (d.resolve input).resolved = true then none
  else some (.ofResolution input (d.resolve input))

namespace Ledger

/-- The ledger after a request: a text that stays open has an entry. -/
def noted (l : Ledger) (d : Dictionary) (input : Text) : Ledger :=
  match d.openEntry? input with
  | none => l
  | some e => if l.contains input then l else l.insert e

variable {d : Dictionary} {l : Ledger}

theorem input_of_openEntry? {input : Text} {e : Entry} (h : d.openEntry? input = some e) :
    e.input = input := by
  unfold Dictionary.openEntry? at h
  split at h
  · cases h
  · cases h
    rfl

/-- Recording a text that stays open makes the ledger what it is after a request, even if its line
cannot be written. -/
theorem eq_noted_of_record {l' : Ledger} {path input : Text} {r : Except LedgerError Bool}
    {fs fs' : FileSystem} (hinput : input ≠ []) (hopen : (d.resolve input).resolved = false)
    (h : l.recordAndAppend path (.ofResolution input (d.resolve input)) fs = ((l', r), fs')) :
    l' = l.noted d input := by
  have hsome : d.openEntry? input = some (.ofResolution input (d.resolve input)) :=
    if_neg (by simp [hopen, hinput])
  simp only [noted, hsome]
  rcases recordAndAppend_cases h with ⟨hnil, -⟩ | ⟨-, hcontains, -, rfl, -⟩ |
    ⟨-, hcontains, rfl, -⟩
  · exact absurd hnil hinput
  · exact (if_pos hcontains).symm
  · exact (if_neg (Bool.eq_false_iff.mp hcontains)).symm

/-- A request leaves the entries that are there, and brings at most the one for its text. -/
theorem get?_noted (l : Ledger) (d : Dictionary) (input k : Text) :
    (l.noted d input).get? k = (l.get? k).or (if input = k then d.openEntry? input else none) := by
  unfold noted
  cases hopen : d.openEntry? input with
  | none => simp
  | some e =>
    dsimp only
    have hinput := input_of_openEntry? hopen
    by_cases hold : l.contains input = true
    · rw [if_pos hold]
      by_cases hk : input = k
      · obtain ⟨old, hfound⟩ := Option.isSome_iff_exists.mp hold
        rw [← hk, hfound, Option.some_or]
      · rw [if_neg hk, Option.or_none]
    · rw [if_neg hold, get?_insert, hinput]
      by_cases hk : input = k
      · have hnone : l.get? k = none := by
          rw [← hk]
          exact Option.not_isSome_iff_eq_none.mp hold
        rw [if_pos hk, if_pos hk, hnone, Option.none_or]
      · rw [if_neg hk, if_neg hk, Option.or_none]

/-- Two requests can change places. -/
theorem noted_comm (l : Ledger) (d : Dictionary) (a b : Text) :
    (l.noted d a).noted d b = (l.noted d b).noted d a := by
  refine ext_get? fun k => ?_
  simp only [get?_noted, Option.or_assoc]
  by_cases ha : a = k
  · by_cases hb : b = k
    · rw [ha, hb]
    · rw [if_neg hb, Option.or_none, Option.none_or]
  · rw [if_neg ha, Option.or_none, Option.none_or]

/-- The order of the requests does not matter for the ledger. -/
theorem foldl_noted_perm {inputs inputs' : List Text} (h : inputs.Perm inputs') (l : Ledger)
    (d : Dictionary) : inputs.foldl (noted · d) l = inputs'.foldl (noted · d) l :=
  h.foldl_eq' (fun a _ b _ l => noted_comm l d a b) l

/-- After some requests the ledger has what it had and the texts among these that stay open. -/
theorem contains_foldl_noted {inputs : List Text} {k : Text} :
    (inputs.foldl (noted · d) l).contains k = true ↔
      l.contains k = true ∨ k ∈ inputs ∧ k ≠ [] ∧ (d.resolve k).resolved = false := by
  have hopen : (d.openEntry? k).isSome = true ↔ k ≠ [] ∧ (d.resolve k).resolved = false := by
    simp [Dictionary.openEntry?]
  induction inputs generalizing l with
  | nil => simp
  | cons input inputs ih =>
    have hstep : (l.noted d input).contains k = true ↔ l.contains k = true ∨
        k = input ∧ k ≠ [] ∧ (d.resolve k).resolved = false := by
      rw [contains, get?_noted, Option.isSome_or, Bool.or_eq_true, ← contains]
      by_cases hk : input = k
      · rw [if_pos hk, hk, hopen]
        simp
      · rw [if_neg hk]
        simp [Ne.symm hk]
    rw [List.foldl_cons, List.mem_cons, or_and_right, ← or_assoc, ← hstep]
    exact ih

end Ledger

namespace Translator

def answer (t : Translator) (input : Text) : Answer :=
  .ofResolution (t.live.dictionary.resolve input)

def noting (t : Translator) (input : Text) : Translator :=
  { t with live := { t.live with ledger := t.live.ledger.noted t.live.dictionary input } }

/-- Apart from the disk, all that a request does is told by the translator and the text. -/
theorem translate_eq (t : Translator) (input : Text) (fs : FileSystem) :
    (t.translate input fs).1 = (t.noting input, t.answer input) := by
  have hnoting : (t.resolve input fs).1 = (t.noting input, t.live.dictionary.resolve input) := by
    cases hdone : t.resolve input fs with
    | mk resolved fs' =>
      obtain ⟨t', r⟩ := resolved
      obtain ⟨rfl, ⟨hsettled, rfl, rfl⟩ | ⟨hopen, hinput, l, outcome, hrecord, rfl⟩⟩ :=
        resolve_cases hdone
      · have hnone : t'.live.dictionary.openEntry? input = none := if_pos hsettled.symm
        simp only [noting, Ledger.noted, hnone]
      · rw [Ledger.eq_noted_of_record hinput hopen hrecord]
        rfl
  simp only [Translator.translate, Disk.bind_apply, Disk.pure_apply, hnoting]
  rfl

def translateAll (t : Translator) : List Text → Disk (Translator × List Answer)
  | [] => pure (t, [])
  | input :: rest => do
    let (t, a) ← t.translate input
    let (t, answers) ← t.translateAll rest
    pure (t, a :: answers)

theorem translateAll_eq (t : Translator) (inputs : List Text) (fs : FileSystem) :
    (t.translateAll inputs fs).1 = (inputs.foldl noting t, inputs.map t.answer) := by
  induction inputs generalizing t fs with
  | nil => rfl
  | cons input inputs ih =>
    simp only [translateAll, Disk.bind_apply, Disk.pure_apply, ih, translate_eq, List.foldl_cons,
      List.map_cons]
    rfl

theorem foldl_noting (t : Translator) (inputs : List Text) :
    inputs.foldl noting t =
      { t with live := { t.live with
          ledger := inputs.foldl (Ledger.noted · t.live.dictionary) t.live.ledger } } := by
  induction inputs generalizing t with
  | nil => rfl
  | cons input inputs ih => rw [List.foldl_cons, ih, List.foldl_cons]; rfl

section Coherent

variable {config : Config} {t t' : Translator} {fs fs' : FileSystem}

/-- A coherent translator can record whatever it is asked, since its ledger file is there, unless
the system refuses to write. -/
theorem Coherent.canRecord (h : Coherent config t fs) (hwrite : fs.refuses.write = none)
    (input : Text) : t.CanRecord input fs := by
  intro hinput hopen fault herror
  obtain ⟨bytes, hread, -⟩ := h.contents
  rw [← h.config_eq] at hread
  cases hrecord : t.live.ledger.recordAndAppend t.config.ledgerPath
      (.ofResolution input (t.live.dictionary.resolve input)) fs with
  | mk recorded fs₁ =>
    obtain ⟨l, r⟩ := recorded
    rw [hrecord] at herror
    rcases Ledger.recordAndAppend_cases hrecord with ⟨hnil, -⟩ | ⟨-, -, hdone, -⟩ |
      ⟨-, -, -, ⟨e, happend, -⟩ | ⟨-, hdone⟩⟩
    · exact hinput hnil
    · rw [hdone] at herror
      cases herror
    · obtain ⟨fs₂, hagain⟩ := Ledger.exists_append
        (.ofResolution input (t.live.dictionary.resolve input)) hread hwrite
      rw [hagain] at happend
      cases happend
    · rw [hdone] at herror
      cases herror

/-- A request changes nothing about what is refused. -/
theorem refuses_translate (t : Translator) (input : Text) (fs : FileSystem) :
    (t.translate input fs).2.refuses = fs.refuses := by
  simp only [Translator.translate, Disk.bind_apply, Disk.pure_apply]
  rcases hdone : t.resolve input fs with ⟨⟨t', r⟩, fs'⟩
  obtain ⟨-, ⟨-, -, rfl⟩ | ⟨-, -, l, outcome, hrecord, -⟩⟩ := resolve_cases hdone
  · rfl
  · have hrecorded := Ledger.refuses_recordAndAppend t.live.ledger t.config.ledgerPath
      (.ofResolution input r) fs
    rwa [hrecord] at hrecorded

theorem Coherent.translateAll {inputs : List Text} {answers : List Answer}
    (h : Coherent config t fs) (hwrite : fs.refuses.write = none)
    (hdone : t.translateAll inputs fs = ((t', answers), fs')) :
    Coherent config t' fs' := by
  induction inputs generalizing t fs answers with
  | nil =>
    cases hdone
    exact h
  | cons input inputs ih =>
    cases htranslate : t.translate input fs with
    | mk translated fs₁ =>
      obtain ⟨t₁, a⟩ := translated
      have hfirst := (Step.translate htranslate (h.canRecord hwrite input)).coherent h
      have hsame := refuses_translate t input fs
      rw [htranslate] at hsame
      simp only [Translator.translateAll, Disk.bind_apply, htranslate, Disk.pure_apply] at hdone
      cases hrest : t₁.translateAll inputs fs₁ with
      | mk others fs₂ =>
        obtain ⟨t₂, answers₂⟩ := others
        simp only [hrest] at hdone
        cases hdone
        exact ih hfirst (hsame ▸ hwrite) hrest

end Coherent

/-- The states that a translator can come to: it is started, then takes steps in which the ledger
file can be read and written and nothing else touches that file, and it may stop watching. -/
inductive Reached (config : Config) : Translator → FileSystem → Prop
  | start {t : Translator} {fs fs' : FileSystem}
      (hstart : Translator.start config fs = (.ok t, fs')) : Reached config t fs'
  | step {t t' : Translator} {fs fs' : FileSystem} {e : Event} (h : Reached config t fs)
      (hstep : Step t fs e t' fs') : Reached config t' fs'
  | shutdown {t : Translator} {fs : FileSystem} (h : Reached config t fs) :
      Reached config t.shutdown fs

theorem Reached.coherent {config : Config} {t : Translator} {fs : FileSystem}
    (h : Reached config t fs) : Coherent config t fs := by
  induction h with
  | start hstart => exact coherent_of_start hstart
  | step _ hstep ih => exact hstep.coherent ih
  | shutdown _ ih => exact { ih with }

/-- In whatever order some texts are translated, each text gets the same answer, which the
dictionary in use gives it, and the same translator comes of it. The ledger has then what it had
and the texts that stay open, and, as long as the system does not refuse to write, both ledger files
are read as this ledger. -/
theorem requests_independent {config : Config} {t t₁ t₂ : Translator} {fs fs₁ fs₂ : FileSystem}
    {inputs inputs' : List Text} {answers₁ answers₂ : List Answer} (h : Reached config t fs)
    (hperm : inputs.Perm inputs') (h₁ : t.translateAll inputs fs = ((t₁, answers₁), fs₁))
    (h₂ : t.translateAll inputs' fs = ((t₂, answers₂), fs₂)) :
    answers₁ = inputs.map t.answer ∧ answers₂ = inputs'.map t.answer ∧ t₁ = t₂ ∧
    (∀ k, t₁.live.ledger.contains k = true ↔ t.live.ledger.contains k = true ∨
      k ∈ inputs ∧ k ≠ [] ∧ (t.live.dictionary.resolve k).resolved = false) ∧
    (fs.refuses.write = none → ∃ bytes₁ bytes₂, fs₁.contents config.ledgerPath = .ok bytes₁ ∧
      fs₂.contents config.ledgerPath = .ok bytes₂ ∧
      Ledger.ofBytes bytes₁ = t₁.live.ledger ∧ Ledger.ofBytes bytes₂ = t₁.live.ledger) := by
  have heq₁ := t.translateAll_eq inputs fs
  have heq₂ := t.translateAll_eq inputs' fs
  rw [h₁, foldl_noting] at heq₁
  rw [h₂, foldl_noting, ← Ledger.foldl_noted_perm hperm] at heq₂
  obtain ⟨ht₁, rfl⟩ := Prod.mk.inj heq₁
  obtain ⟨ht₂, rfl⟩ := Prod.mk.inj heq₂
  have hsame : t₁ = t₂ := ht₁.trans ht₂.symm
  refine ⟨rfl, rfl, hsame, fun k => ?_, fun hwrite => ?_⟩
  · rw [ht₁]
    exact Ledger.contains_foldl_noted
  · obtain ⟨bytes₁, hread₁, hledger₁⟩ := (h.coherent.translateAll hwrite h₁).contents
    obtain ⟨bytes₂, hread₂, hledger₂⟩ := (h.coherent.translateAll hwrite h₂).contents
    exact ⟨bytes₁, bytes₂, hread₁, hread₂, hledger₁, hsame ▸ hledger₂⟩

/-- The disk that a translator is left with when it was set up on an empty one. -/
def startedDisk : FileSystem := ⟨[([], .directory (.moment 6)), ([['l']], .file [] (.moment 4)),
  ([['d']], .file [] (.moment 2))], 7, {}⟩

/-- Set up on an empty disk, a translator is asked for `a` twice and for `b`, with `b` between and
with `b` first. The lines of the two files stand in different orders. -/
theorem requests_independent_here : Reached here (wordless .empty) startedDisk ∧
    ∃ t fs₁ fs₂ bytes₁ bytes₂,
      (wordless .empty).translateAll [['a'], ['b'], ['a']] startedDisk =
        ((t, [['a'], ['b'], ['a']].map (wordless .empty).answer), fs₁) ∧
      (wordless .empty).translateAll [['b'], ['a'], ['a']] startedDisk =
        ((t, [['b'], ['a'], ['a']].map (wordless .empty).answer), fs₂) ∧
      t.live.ledger.contains ['b'] = true ∧
      fs₁.contents ['l'] = .ok bytes₁ ∧ fs₂.contents ['l'] = .ok bytes₂ ∧ bytes₁ ≠ bytes₂ ∧
      Ledger.ofBytes bytes₁ = Ledger.ofBytes bytes₂ := by
  have hstart : start here {} = (.ok (wordless .empty), startedDisk) := rfl
  have hreached := Reached.start hstart
  have hperm : [['a'], ['b'], ['a']].Perm [['b'], ['a'], ['a']] := List.Perm.swap _ _ _
  have hlines₁ : ((wordless .empty).translateAll [['a'], ['b'], ['a']] startedDisk).2.contents
      ['l'] = .ok [97, 61, 97, 40, 97, 41, 10, 98, 61, 98, 40, 98, 41, 10] := rfl
  have hlines₂ : ((wordless .empty).translateAll [['b'], ['a'], ['a']] startedDisk).2.contents
      ['l'] = .ok [98, 61, 98, 40, 98, 41, 10, 97, 61, 97, 40, 97, 41, 10] := rfl
  obtain ⟨⟨⟨t₁, answers₁⟩, fs₁⟩, h₁⟩ : ∃ done,
    (wordless .empty).translateAll [['a'], ['b'], ['a']] startedDisk = done := ⟨_, rfl⟩
  obtain ⟨⟨⟨t₂, answers₂⟩, fs₂⟩, h₂⟩ : ∃ done,
    (wordless .empty).translateAll [['b'], ['a'], ['a']] startedDisk = done := ⟨_, rfl⟩
  rw [h₁] at hlines₁
  rw [h₂] at hlines₂
  obtain ⟨rfl, rfl, rfl, hcontains, hfiles⟩ :=
    requests_independent hreached hperm h₁ h₂
  obtain ⟨bytes₁, bytes₂, hread₁, hread₂, hledger₁, hledger₂⟩ := hfiles rfl
  refine ⟨hreached, t₁, fs₁, fs₂, bytes₁, bytes₂, h₁, h₂, (hcontains ['b']).mpr (Or.inr ?_),
    hread₁, hread₂, ?_, hledger₁.trans hledger₂.symm⟩
  · exact ⟨by decide, by decide, by decide⟩
  · intro heq
    subst heq
    have hboth := (hlines₁.symm.trans hread₁).trans (hread₂.symm.trans hlines₂)
    exact absurd (Except.ok.inj hboth) (by decide)

end Translator

end Phrasebook
