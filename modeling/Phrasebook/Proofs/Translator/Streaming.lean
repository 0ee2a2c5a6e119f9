import Phrasebook.CommandLine
import Phrasebook.Proofs.Resolution.Provenance
import Phrasebook.Proofs.Translator.Requests

/-!
A stream of lines through a translator. The lines are requests one after the other, and each of
them gets its answer, ended by a newline. What is given out has one line for each line that came
in exactly as long as no answer holds a newline itself. None does if the dictionary has no newline
to bring; but the values of words are written with escapes, so it can have one.
-/

namespace Phrasebook

open Text

/-- Each line is either translated or stays unresolved. -/
theorem StreamReport.translated_add_unresolved (s : StreamReport) :
    s.translated + s.unresolved = s.answers.length := by
  rw [translated, unresolved, List.length_eq_countP_add_countP Answer.isTranslated]
  simp only [Bool.not_eq_true, Bool.decide_eq_false]

theorem StreamReport.output_eq (s : StreamReport) :
    s.output = (s.answers.map Answer.value).flatMap fun value => value ++ ['\n'] := by
  rw [output, List.flatMap_map]

namespace Translator

theorem value_answer (t : Translator) (input : Text) :
    (t.answer input).value = (t.live.dictionary.resolve input).value := by
  unfold answer Answer.ofResolution
  split <;> rfl

/-- A stream of lines is answered as the lines are when they are translated one by one. -/
theorem translateStream_lines (t : Translator) (inputs : List Text) (fs : FileSystem) :
    t.translateStream (inputs.map .line) fs =
      (((t.translateAll inputs fs).1.1, { answers := (t.translateAll inputs fs).1.2 }),
        (t.translateAll inputs fs).2) := by
  induction inputs generalizing t fs with
  | nil => rfl
  | cons input inputs ih =>
    simp only [List.map_cons, translateStream, translateAll, Disk.bind_apply, Disk.pure_apply, ih]

/-- A stream of lines is answered to its end, each line as the dictionary says, and each line
counts once. What is given out is cut into the answers by its newlines, and has as many newlines
as there were lines, exactly if no answer holds a newline. This is so whenever neither the lines
nor the values and templates of the dictionary hold one. -/
theorem stream_aligned_iff (t : Translator) (inputs : List Text) (fs : FileSystem) :
    let report := (t.translateStream (inputs.map .line) fs).1.2
    report.broken = false ∧ report.answers = inputs.map t.answer ∧
    report.translated + report.unresolved = inputs.length ∧
    (pieces (fun c => c == '\n') report.output = (inputs.map fun x => (t.answer x).value) ++ [[]] ↔
      ∀ input ∈ inputs, '\n' ∉ (t.answer input).value) ∧
    (report.output.count '\n' = inputs.length ↔
      ∀ input ∈ inputs, '\n' ∉ (t.answer input).value) ∧
    ((∀ input ∈ inputs, '\n' ∉ input) → ¬ t.live.dictionary.Brings '\n' →
      ∀ input ∈ inputs, '\n' ∉ (t.answer input).value) := by
  intro report
  have hreport : report = { answers := inputs.map t.answer } := by
    simp only [report, translateStream_lines, translateAll_eq]
  have hlength : report.answers.length = inputs.length := by rw [hreport, List.length_map]
  have hvalues : report.answers.map Answer.value = inputs.map fun x => (t.answer x).value := by
    rw [hreport, List.map_map]
    rfl
  have hfree : (∀ value ∈ report.answers.map Answer.value, '\n' ∉ value) ↔
      ∀ input ∈ inputs, '\n' ∉ (t.answer input).value := by
    rw [hvalues, List.forall_mem_map]
  refine ⟨by rw [hreport], by rw [hreport], ?_, ?_, ?_, ?_⟩
  · rw [report.translated_add_unresolved, hlength]
  · rw [← hfree, ← pieces_flatMap_newline_iff, ← report.output_eq, hvalues]
  · rw [← hfree, ← count_flatMap_newline_iff, ← report.output_eq, List.length_map, hlength]
  · intro hinputs hdictionary input hinput hmem
    rw [value_answer] at hmem
    rcases Dictionary.mem_value_resolve hmem with htext | hbrings
    · exact hinputs input hinput htext
    · exact hdictionary hbrings

def speaking (words : WordTable) : Translator := ⟨here, ⟨['d'], ['l'], { words }, .empty, 0⟩, none⟩

def startAndQuit : WordTable :=
  ⟨[⟨"Start".toList, "开始".toList⟩, ⟨"Quit".toList, "退出".toList⟩], by decide⟩

/-- Three lines, one of them empty and one with a run of letters that stays, give three lines. -/
theorem stream_aligned_startAndQuit :
    let inputs := ["Start".toList, "Quit game".toList, []]
    let report := ((speaking startAndQuit).translateStream (inputs.map .line) {}).1.2
    pieces (fun c => c == '\n') report.output = ["开始".toList, "退出 game".toList, [], []] ∧
      report.translated = 2 ∧ report.unresolved = 1 := by
  intro inputs report
  obtain ⟨-, hanswers, hsum, hcut, -, hfree⟩ := stream_aligned_iff (speaking startAndQuit) inputs {}
  have hbrings : ¬ (speaking startAndQuit).live.dictionary.Brings '\n' := by
    rintro (⟨w, hw, hmem⟩ | ⟨r, hr, -⟩)
    · rcases List.mem_pair.mp hw with rfl | rfl
      · exact absurd hmem (by decide)
      · exact absurd hmem (by decide)
    · cases hr
  have hvalues : inputs.map (fun x => ((speaking startAndQuit).answer x).value) =
      ["开始".toList, "退出 game".toList, []] := by decide +kernel
  have htranslated : report.translated = 2 := by
    rw [StreamReport.translated, hanswers]
    decide +kernel
  refine ⟨?_, htranslated, ?_⟩
  · rw [hcut.mpr (hfree (by decide) hbrings), hvalues]
    rfl
  · have hlength : inputs.length = 3 := rfl
    change report.translated + report.unresolved = inputs.length at hsum
    omega

/-- The value of a word can be written with an escaped newline, and then the one line `a` gives two
lines. -/
theorem stream_not_aligned_escaped :
    (∃ words, Dictionary.read "a=x\\ny".toList = .ok { words } ∧
      let report := ((speaking words).translateStream [.line ['a']] {}).1.2
      pieces (fun c => c == '\n') report.output = [['x'], ['y'], []]) ∧
    ¬ ∀ (t : Translator) (inputs : List Text) (fs : FileSystem),
      (t.translateStream (inputs.map .line) fs).1.2.output.count '\n' = inputs.length := by
  let broken : WordTable := ⟨[⟨['a'], ['x', '\n', 'y']⟩], by decide⟩
  have htwice : ((speaking broken).translateStream ([['a']].map .line) {}).1.2.output.count '\n' =
      2 := by decide +kernel
  refine ⟨⟨broken, by decide +kernel, by decide +kernel⟩, fun hall => ?_⟩
  have hcount := hall (speaking broken) [['a']] {}
  rw [htwice] at hcount
  exact absurd hcount (by decide)

end Translator

end Phrasebook
