import Phrasebook.Proofs.Pattern.Basic
import Phrasebook.Proofs.Text.Lines
import Phrasebook.Proofs.Text.Numeral
import Phrasebook.Settings.Config

/-!
The two ways to a configuration. A section holds values of the right kinds. Under dotted keys the
same values are found as texts, and the texts are read. What was written for a value is read as
that value, so both ways lead to the same configuration, unless a member of the root has one of the
dotted keys for its name: that member would be found in place of the one in the section.
-/

namespace Phrasebook

open Text

namespace JsonSettings

/-- No member has a name that begins with the given one and a dot. -/
def Plain (s : JsonSettings) (name : Text) : Prop := ∀ m ∈ s.members, ¬ name ++ ['.'] <+: m.1

theorem section?_eq_some_iff {s : JsonSettings} {name : Text} {members : List (Text × Json)} :
    s.section? name = some members ↔ s.members.lookup name = some (.object members) := by
  unfold section?
  split
  · rename_i inner hlookup
    simp [hlookup]
  · rename_i hlookup
    simp only [false_iff, reduceCtorEq]
    exact hlookup members

/-- A key of two names leads into the section under the first one. -/
theorem find?_of_section {s : JsonSettings} {name field : Text} {members : List (Text × Json)}
    (hplain : s.Plain name) (hsection : s.section? name = some members) (hname : '.' ∉ name)
    (hfield : '.' ∉ field) : s.find? (name ++ '.' :: field) = members.lookup field := by
  have hroot : s.members.lookup (name ++ '.' :: field) = none := by
    refine List.lookup_eq_none_iff.mpr fun m hm => ?_
    rw [bne_iff_ne]
    intro heq
    exact hplain m hm ⟨field, by rw [← heq, List.append_assoc, List.singleton_append]⟩
  have hno : ∀ t : Text, '.' ∉ t → ∀ c ∈ t, (c == '.') = false := fun t ht c hc =>
    beq_eq_false_iff_ne.mpr (ne_of_mem_of_not_mem hc ht)
  have hway : pieces (· == '.') (name ++ '.' :: field) = [name, field] := by
    rw [pieces_append_cons (hno name hname) rfl, pieces_of_forall_not (hno field hfield)]
  simp only [find?, hroot, hway, along, section?_eq_some_iff.mp hsection, Option.none_or]

end JsonSettings

/-- White space is no digit. -/
theorem trim_decimal (n : Nat) : trim (decimal n) = decimal n := by
  have hvisible : ∀ c ∈ decimal n, isBlank c = false := by
    intro c hc
    obtain ⟨m, hm, rfl⟩ := exists_digit_of_mem_toDigits (by decide) hc
    have hall : ∀ m < 10, isBlank (Nat.digitChar m) = false := by decide
    exact hall m hm
  have hne : decimal n ≠ [] := Nat.toDigits_ne_nil
  refine trim_eq_self ?_ ?_
  · obtain ⟨c, rest, hdigits⟩ := List.exists_cons_of_ne_nil hne
    exact ⟨c, rest, hdigits, hvisible c (hdigits ▸ List.mem_cons_self)⟩
  · refine ⟨(decimal n).dropLast, (decimal n).getLast hne, ?_, hvisible _ (List.getLast_mem hne)⟩
    exact (List.dropLast_concat_getLast hne).symm

namespace Config

/-- A value of the kind that is expected can be got from its text, and nothing can be got from no
text. -/
structure Gets {α : Type} (expect : Json → Except KindFault α)
    (get : Settings → Text → Option α) : Prop where
  missing : ∀ (s : Settings) (key : Text), s key = none → get s key = none
  found : ∀ (s : Settings) (key : Text) (v : Json) (a : α), expect v = .ok a →
    s key = JsonSettings.valueText v → get s key = some a

theorem gets_path : Gets expectPath fun s key => s key where
  missing := fun _ _ h => h
  found := by
    intro s key v t hexpect hkey
    cases v with
    | text value =>
      cases hexpect
      exact hkey
    | _ => cases hexpect

theorem gets_bool : Gets expectBool Settings.bool? where
  missing := fun s key h => by rw [Settings.bool?, h, Option.bind_none]
  found := by
    intro s key v b hexpect hkey
    cases v with
    | bool value =>
      cases hexpect
      rw [Settings.bool?, hkey]
      cases b <;> rfl
    | _ => cases hexpect

theorem gets_natural : Gets expectNatural Settings.natural? where
  missing := fun s key h => by rw [Settings.natural?, h, Option.bind_none]
  found := by
    intro s key v n hexpect hkey
    cases v with
    | natural value =>
      cases hexpect
      have hread : readNumeral? 10 limit64 (decimal n.toNat) = some n.toNat :=
        readNumeral?_toDigits (by decide) (by decide) n.toNat_lt
      have htext : JsonSettings.valueText (.natural n) = some (decimal n.toNat) := rfl
      rw [Settings.natural?, hkey, htext, Option.bind_some, trim_decimal, hread, Option.map_some,
        UInt64.ofNat_toNat]
    | _ => cases hexpect

/-- What the fields of a section that can be read have to be. -/
theorem fieldOr_of_ofMembers {members : List (Text × Json)} {c : Config}
    (h : ofMembers members = .ok c) :
    fieldOr expectPath members "FilePath" ({} : Config).dictionaryPath = .ok c.dictionaryPath ∧
      fieldOr expectPath members "OutFilePath" ({} : Config).ledgerPath = .ok c.ledgerPath ∧
      fieldOr expectBool members "Observe" ({} : Config).observe = .ok c.observe ∧
      fieldOr expectNatural members "PollIntervalMs" ({} : Config).interval = .ok c.interval ∧
      fieldOr expectBool members "SkipFirstObservation" ({} : Config).skipFirst =
        .ok c.skipFirst := by
  unfold ofMembers at h
  obtain ⟨dictionaryPath, hdictionary, h⟩ := Pattern.bind_eq_ok_iff.mp h
  obtain ⟨observe, hobserve, h⟩ := Pattern.bind_eq_ok_iff.mp h
  obtain ⟨ledgerPath, hledger, h⟩ := Pattern.bind_eq_ok_iff.mp h
  obtain ⟨interval, hinterval, h⟩ := Pattern.bind_eq_ok_iff.mp h
  obtain ⟨skipFirst, hskip, h⟩ := Pattern.bind_eq_ok_iff.mp h
  cases h
  exact ⟨hdictionary, hledger, hobserve, hinterval, hskip⟩

section Fields

variable {s : JsonSettings} {members : List (Text × Json)} (hplain : s.Plain sectionName)
  (hsection : s.section? sectionName = some members)

include hplain hsection

/-- The text under the key of a field is that of the member of the section. -/
theorem toSettings_key {field : String} (hdot : '.' ∉ field.toList) :
    s.toSettings (key field) = (members.lookup field.toList).bind JsonSettings.valueText := by
  rw [JsonSettings.toSettings, key,
    JsonSettings.find?_of_section hplain hsection (by decide) hdot]

/-- What the section has for a field is got from its key, and nothing is got if the section has
nothing for it. -/
theorem Gets.field {α : Type} {expect : Json → Except KindFault α}
    {get : Settings → Text → Option α} {field : String} {default value : α}
    (hget : Gets expect get) (hdot : '.' ∉ field.toList)
    (hvalue : fieldOr expect members field default = .ok value) :
    (get s.toSettings (key field) = none ∧ value = default) ∨
      get s.toSettings (key field) = some value := by
  have hkey := toSettings_key hplain hsection hdot
  unfold fieldOr at hvalue
  split at hvalue
  · rename_i hnone
    rw [hnone, Option.bind_none] at hkey
    cases hvalue
    exact Or.inl ⟨hget.missing _ _ hkey, rfl⟩
  · rename_i v hsome
    rw [hsome, Option.bind_some] at hkey
    exact Or.inr (hget.found _ _ v value hvalue hkey)

theorem Gets.getD_field {α : Type} {expect : Json → Except KindFault α}
    {get : Settings → Text → Option α} {field : String} {default value : α}
    (hget : Gets expect get) (hdot : '.' ∉ field.toList)
    (hvalue : fieldOr expect members field default = .ok value) :
    (get s.toSettings (key field)).getD default = value := by
  rcases hget.field hplain hsection hdot hvalue with ⟨hnone, rfl⟩ | hsome
  · rw [hnone, Option.getD_none]
  · rw [hsome, Option.getD_some]

/-- An interval of zero is taken for the default on both ways. -/
theorem ofSettings_toSettings {c : Config} (hmembers : ofMembers members = .ok c) :
    ofSettings s.toSettings = c.normalized := by
  obtain ⟨hdictionary, hledger, hobserve, hinterval, hskip⟩ := fieldOr_of_ofMembers hmembers
  -- As a text zero is passed over for the default, in a section it is replaced by the default.
  have hpositive : ((s.toSettings.natural? (key "PollIntervalMs")).filter (0 < ·)).getD 1000 =
      if c.interval = 0 then 1000 else c.interval := by
    rcases gets_natural.field hplain hsection (by decide) hinterval with ⟨hnone, hdefault⟩ | hsome
    · rw [hnone, hdefault]
      rfl
    · rw [hsome, Option.filter_some]
      by_cases hzero : c.interval = 0
      · rw [if_pos hzero, hzero]
        rfl
      · rw [if_neg hzero, if_pos (by simpa using UInt64.pos_iff_ne_zero.mpr hzero),
          Option.getD_some]
  simp only [ofSettings, normalized]
  rw [gets_path.getD_field hplain hsection (by decide) hdictionary,
    gets_path.getD_field hplain hsection (by decide) hledger,
    gets_bool.getD_field hplain hsection (by decide) hobserve,
    gets_bool.getD_field hplain hsection (by decide) hskip, hpositive]
  split <;> rfl

end Fields

theorem interval_ofSettings_ne (s : Settings) : (ofSettings s).interval ≠ 0 := by
  have hfilter : ∀ o : Option UInt64, (o.filter (0 < ·)).getD 1000 ≠ 0 := by
    intro o
    cases hn : o.filter (0 < ·) with
    | none => decide
    | some n => exact UInt64.pos_iff_ne_zero.mp (by simpa using (Option.filter_eq_some_iff.mp hn).2)
  exact hfilter _

theorem interval_normalized_ne (c : Config) : c.normalized.interval ≠ 0 := by
  unfold normalized
  split
  · have hdefault : ({} : Config).interval ≠ 0 := by decide
    exact hdefault
  · assumption

/-- Both ways to a configuration lead to the same one, if the section can be read and no member of
the root stands in front of it. Whatever the settings are, no way leads to an interval of zero. -/
theorem configured_either_way :
    (∀ (s : JsonSettings) (c : Config), s.Plain sectionName →
      ofSection? s sectionName = .ok (some c) → ofJson s = .ok (ofSettings s.toSettings)) ∧
    (∀ s : Settings, (ofSettings s).interval ≠ 0) ∧
    ∀ (s : JsonSettings) (c : Config), ofJson s = .ok c → c.interval ≠ 0 := by
  refine ⟨fun s c hplain hsection => ?_, interval_ofSettings_ne, fun s c hjson => ?_⟩
  · rw [ofJson, hsection]
    unfold ofSection? at hsection
    split at hsection
    · cases hsection
    · rename_i members hmembers
      split at hsection
      · rename_i c' hc'
        cases hsection
        rw [ofSettings_toSettings hplain hmembers hc']
      · cases hsection
  · unfold ofJson at hjson
    split at hjson
    · cases hjson
    · cases hjson
      exact interval_normalized_ne _
    · cases hjson
      exact interval_ofSettings_ne _

def pausedSettings : JsonSettings :=
  ⟨[(sectionName, .object [("FilePath".toList, .text "d".toList), ("Note".toList, .null),
    ("Observe".toList, .bool true), ("PollIntervalMs".toList, .natural 0)])]⟩

theorem configured_either_way_paused :
    ofJson pausedSettings = .ok (ofSettings pausedSettings.toSettings) ∧
      ofSettings pausedSettings.toSettings = { dictionaryPath := "d".toList, observe := true } := by
  obtain ⟨hagree, -, -⟩ := configured_either_way
  have hplain : pausedSettings.Plain sectionName := by
    intro m hm
    cases List.mem_singleton.mp hm
    decide
  exact ⟨hagree _ ⟨"d".toList, ({} : Config).ledgerPath, true, 0, true⟩ hplain rfl, rfl⟩

def dottedSettings : JsonSettings :=
  ⟨[(sectionName, .object []), (key "Observe", .bool true)]⟩

/-- The member stands in front of the section on one way only. -/
example : ofJson dottedSettings = .ok {} ∧
    ofSettings dottedSettings.toSettings = { observe := true } := ⟨rfl, rfl⟩

end Config

end Phrasebook
