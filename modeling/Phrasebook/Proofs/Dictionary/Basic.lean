import Mathlib.Data.List.Induction
import Mathlib.Data.List.Nodup
import Phrasebook.Dictionary.Basic

/-!
What a dictionary finds. Looking a key up gives the value of the only word with that key. The
rules settle a text if an anchored one among them applies, and each of them sees what those
before it have made of the text.
-/

namespace Phrasebook

namespace WordTable

theorem eq_of_key_eq {table : WordTable} {v w : Word} (hv : v ∈ table.entries)
    (hw : w ∈ table.entries) (hkey : v.key = w.key) : v = w :=
  List.inj_on_of_nodup_map table.distinct hv hw hkey

theorem lookup_eq_some_iff {table : WordTable} {key value : Text} :
    table.lookup key = some value ↔ ⟨key, value⟩ ∈ table.entries := by
  rw [lookup, Option.map_eq_some_iff]
  constructor
  · intro hfound
    obtain ⟨w, hw, rfl⟩ := hfound
    have hkey : w.key = key := by simpa using List.find?_some hw
    rw [← hkey]
    exact List.mem_of_find?_eq_some hw
  · intro hmem
    cases hfound : table.entries.find? (fun w => w.key == key) with
    | none =>
      have hmiss := List.find?_eq_none.mp hfound _ hmem
      simp at hmiss
    | some w =>
      have hkey : w.key = key := by simpa using List.find?_some hfound
      exact ⟨w, rfl, by rw [eq_of_key_eq (List.mem_of_find?_eq_some hfound) hmem hkey]⟩

/-- A word comes behind the others, unless its key is taken. -/
theorem insert_cases (table : WordTable) (w : Word) :
    (w.key ∉ table.entries.map Word.key ∧ ∃ table', table.insert w = .ok table' ∧
      table'.entries = table.entries ++ [w]) ∨
    (w.key ∈ table.entries.map Word.key ∧ table.insert w = .error ⟨w.key⟩) := by
  by_cases htaken : table.contains w.key = true
  · exact Or.inr ⟨contains_iff.mp htaken, dif_pos htaken⟩
  · exact Or.inl ⟨fun hmem => htaken (contains_iff.mpr hmem), _, dif_neg htaken, rfl⟩

end WordTable

namespace Expansion

theorem ofRules_concat (rules : List Rule) (r : Rule) (t : Text) :
    ofRules (rules ++ [r]) t = (ofRules rules t).apply r := by
  simp [ofRules, List.foldl_append]

theorem settled_apply (e : Expansion) (r : Rule) :
    (e.apply r).settled = (e.settled || (r.isAnchored && r.pattern.isMatch e.text)) := by
  unfold apply
  split
  · rename_i hmatch
    rw [hmatch, Bool.and_true]
  · rename_i hmatch
    rw [Bool.not_eq_true] at hmatch
    rw [hmatch, Bool.and_false, Bool.or_false]

/-- The rules settle a text if an anchored one matches what those before it have made of it. -/
theorem settled_ofRules_iff {rules : List Rule} {t : Text} :
    (ofRules rules t).settled = true ↔ ∃ before r after, rules = before ++ r :: after ∧
      r.isAnchored = true ∧ r.pattern.isMatch (ofRules before t).text = true := by
  induction rules using List.reverseRecOn with
  | nil => simp [ofRules]
  | append_singleton rules last ih =>
    rw [ofRules_concat, settled_apply, Bool.or_eq_true, Bool.and_eq_true, ih]
    constructor
    · intro hsettled
      rcases hsettled with ⟨before, r, after, rfl, hr⟩ | hlast
      · exact ⟨before, r, after ++ [last], by simp, hr⟩
      · exact ⟨rules, last, [], rfl, hlast⟩
    · intro hsplit
      obtain ⟨before, r, after, hrules, hr⟩ := hsplit
      rcases List.eq_nil_or_concat after with rfl | ⟨after, x, rfl⟩
      · obtain ⟨rfl, hlast⟩ := List.append_inj' hrules rfl
        obtain ⟨rfl, -⟩ := List.cons.inj hlast
        exact Or.inr hr
      · rw [List.concat_eq_append, ← List.cons_append, ← List.append_assoc] at hrules
        obtain ⟨rfl, -⟩ := List.append_inj' hrules rfl
        exact Or.inl ⟨before, r, after, rfl, hr⟩

end Expansion

end Phrasebook
