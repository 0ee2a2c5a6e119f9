import Phrasebook.Dictionary.Reader
import Phrasebook.Proofs.Line.RoundTrip

/-!
Lines among other lines. What is written for a pair stays on one line and is taken neither for a
comment nor for the marker of a section, and what readers strip from their lines is not there to
be stripped: byte order marks at the start and white space at both ends. So every pair is read
back, whatever its sides hold.
-/

namespace Phrasebook.Line

open Text

theorem head?_escapeBlank (c : Char) : (escapeBlank c).head? = some '\\' := by
  unfold escapeBlank
  split
  · rfl
  · rename_i hplain
    rcases escapeInner_cases c with h | ⟨x, h, -⟩
    · exact absurd h hplain
    · rw [h]
      rfl

theorem head?_escapeFirst (c : Char) : (escapeFirst c).head? = some '\\' ∨
    escapeFirst c = [c] ∧ c ≠ separator ∧ c ≠ byteOrderMark := by
  unfold escapeFirst
  split
  · exact Or.inl rfl
  split
  · exact Or.inl rfl
  · rename_i hmark
    rcases escapeInner_cases c with h | ⟨x, h, -⟩
    · exact Or.inr ⟨h, (ne_of_escapeInner_eq h).2.1, hmark⟩
    · rw [h]
      exact Or.inl rfl

/-- What is written for a side begins neither with a separator nor with a byte order mark. -/
theorem head?_escape_ne (t : Text) :
    (escape t).head? ≠ some separator ∧ (escape t).head? ≠ some byteOrderMark := by
  have hslash : some '\\' ≠ some separator ∧ some '\\' ≠ some byteOrderMark := by decide
  by_cases ht : t = []
  · subst ht
    decide
  · obtain ⟨c, rest, heq | ⟨-, heq⟩⟩ := exists_escape_front ht
    · rw [heq, List.head?_append, head?_escapeBlank, Option.some_or]
      exact hslash
    · rw [heq, List.head?_append]
      rcases head?_escapeFirst c with hhead | ⟨hplain, hseparator, hmark⟩
      · rw [hhead, Option.some_or]
        exact hslash
      · rw [hplain, List.head?_singleton, Option.some_or]
        exact ⟨by simpa using hseparator, by simpa using hmark⟩

theorem head?_encode_ne (key value : Text) : (encode key value).head? ≠ some byteOrderMark := by
  rw [encode, List.head?_append]
  cases hhead : (escape key).head? with
  | none =>
    rw [Option.none_or, List.head?_cons]
    decide
  | some c =>
    rw [Option.some_or, ← hhead]
    exact (head?_escape_ne key).2

/-- A line never begins with two separators, let alone with the five of a marker. -/
theorem not_separators_prefix_encode (key value : Text) :
    ¬ [separator, separator] <+: encode key value := by
  intro hprefix
  obtain ⟨rest, hrest⟩ := hprefix
  cases hkey : escape key with
  | nil =>
    have hvalue : (escape value).head? = some separator := by
      rw [encode, hkey] at hrest
      rw [← (List.cons.inj hrest).2]
      rfl
    exact (head?_escape_ne value).1 hvalue
  | cons c front =>
    have hhead : (escape key).head? = some separator := by
      rw [encode, hkey] at hrest
      rw [hkey, (List.cons.inj hrest).1]
      rfl
    exact (head?_escape_ne key).1 hhead

/-- Stripping byte order marks and white space leaves a line as it is. -/
theorem clean_encode (key value : Text) :
    DictionaryReader.clean (encode key value) = encode key value := by
  have hmark := head?_encode_ne key value
  obtain ⟨c, rest, hstart, -⟩ := encode_starts key value
  have hkept : (encode key value).dropWhile (· == byteOrderMark) = encode key value := by
    rw [hstart, List.head?_cons, ne_eq, Option.some.injEq] at hmark
    rw [hstart, List.dropWhile_cons_of_neg (by simpa using hmark)]
  rw [DictionaryReader.clean, hkept, trim_encode]

/-- For all pairs: the line of the pair holds no line end, neither begins nor ends with white
space, begins neither with a byte order mark nor like a comment nor like a marker, and is read as
the pair, be it as it is, trimmed, or first freed from byte order marks and then trimmed. -/
theorem pair_read_back_from_line (key value : Text) :
    (∀ c ∈ encode key value, c ≠ '\n' ∧ c ≠ '\r') ∧
    StartsVisibly (encode key value) ∧ EndsVisibly (encode key value) ∧
    (encode key value).head? ≠ some byteOrderMark ∧
    ¬ ['/', '/'] <+: encode key value ∧ ¬ ['=', '=', '=', '=', '='] <+: encode key value ∧
    decode? (encode key value) = some (key, value) ∧
    decode? (trim (encode key value)) = some (key, value) ∧
    decode? (DictionaryReader.clean (encode key value)) = some (key, value) := by
  have hread := decode?_encode key value
  have hcomment : ¬ ['/', '/'] <+: encode key value := by
    intro hprefix
    have hcomment := isComment_encode key value
    rw [isComment, List.isPrefixOf_iff_prefix.mpr hprefix] at hcomment
    cases hcomment
  have hmarker : ¬ ['=', '=', '=', '=', '='] <+: encode key value := by
    intro hprefix
    have htwo : [separator, separator] <+: ['=', '=', '=', '=', '='] := ⟨['=', '=', '='], rfl⟩
    exact not_separators_prefix_encode key value (htwo.trans hprefix)
  refine ⟨fun c hc => ne_of_mem_encode hc, encode_starts key value, encode_ends key value,
    head?_encode_ne key value, hcomment, hmarker, hread, ?_, ?_⟩
  · rw [trim_encode]
    exact hread
  · rw [clean_encode]
    exact hread

end Phrasebook.Line
