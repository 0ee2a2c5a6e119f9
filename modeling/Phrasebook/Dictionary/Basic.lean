import Phrasebook.Pattern.Basic

/-!
One generation of a dictionary: words with their values, rules that replace what a pattern
matches, literals that shield the text they cover, patterns that exempt a whole text, and known
tokens that may stay as they are. All lists are in the order of the file. No two words have the
same key.

The rules are applied to a text one after the other. A rule whose pattern is anchored at both ends
settles the text if it applies; the later rules are applied all the same.
-/

namespace Phrasebook

structure Word where
  key : Text
  value : Text
deriving DecidableEq, Repr

structure WordTable where
  entries : List Word := []
  distinct : (entries.map Word.key).Nodup := by exact List.nodup_nil
deriving DecidableEq, Repr

structure DuplicateKey where
  key : Text
deriving DecidableEq, Repr

def DuplicateKey.message (e : DuplicateKey) : Text := "Duplicate dictionary key: ".toList ++ e.key

namespace WordTable

def lookup (t : WordTable) (key : Text) : Option Text :=
  (t.entries.find? fun w => w.key == key).map Word.value

def contains (t : WordTable) (key : Text) : Bool := t.entries.any fun w => w.key == key

theorem contains_iff {t : WordTable} {key : Text} :
    t.contains key = true ↔ key ∈ t.entries.map Word.key := by
  simp [contains]

def insert (t : WordTable) (w : Word) : Except DuplicateKey WordTable :=
  if h : t.contains w.key = true then .error ⟨w.key⟩
  else
    .ok ⟨t.entries ++ [w], by
      simp only [List.map_append, List.map_cons, List.map_nil]
      exact List.nodup_append.mpr ⟨t.distinct, by simp, by
        rintro _ ha _ hb rfl
        exact h (contains_iff.mpr (List.mem_singleton.mp hb ▸ ha))⟩⟩

end WordTable

structure Rule where
  pattern : Pattern
  template : Text
deriving DecidableEq, Repr

/-- The source of the pattern begins with a caret and ends with a dollar sign. -/
def Rule.isAnchored (r : Rule) : Bool :=
  r.pattern.source.head? == some '^' && r.pattern.source.getLast? == some '$'

def Rule.compile (source template : Text) : Except Pattern.Fault Rule := do
  pure ⟨← Pattern.compile source, template⟩

/-- A pattern that exempts the texts it matches from end to end. -/
structure Exemption where
  source : Text
  whole : Pattern
deriving DecidableEq, Repr

namespace Exemption

def anchored (source : Text) : Text := ['^', '(', '?', ':'] ++ source ++ [')', '$']

/-- The pattern must be one as written, not only between the anchors. -/
def compile (source : Text) : Except Pattern.Fault Exemption := do
  let _ ← Pattern.compile source
  pure ⟨source, ← Pattern.compile (anchored source)⟩

def covers (e : Exemption) (t : Text) : Bool := e.whole.isMatch t

end Exemption

structure Dictionary where
  words : WordTable := {}
  rules : List Rule := []
  ignores : List Text := []
  exemptions : List Exemption := []
  /-- The known tokens, each once. -/
  known : List Text := []
deriving DecidableEq, Repr

namespace Dictionary

def insertWord (d : Dictionary) (key value : Text) : Except DuplicateKey Dictionary := do
  pure { d with words := ← d.words.insert ⟨key, value⟩ }

def addRule (d : Dictionary) (r : Rule) : Dictionary :=
  { d with rules := d.rules ++ [r] }

def addIgnore (d : Dictionary) (literal : Text) : Dictionary :=
  { d with ignores := d.ignores ++ [literal] }

def addExemption (d : Dictionary) (e : Exemption) : Dictionary :=
  { d with exemptions := d.exemptions ++ [e] }

def addKnown (d : Dictionary) (token : Text) : Dictionary :=
  { d with known := d.known.insert token }

def lookup (d : Dictionary) (key : Text) : Option Text := d.words.lookup key

def isKnown (d : Dictionary) (token : Text) : Bool := d.known.contains token

def isEmpty (d : Dictionary) : Bool :=
  d.words.entries.isEmpty && d.rules.isEmpty && d.ignores.isEmpty && d.exemptions.isEmpty
    && d.known.isEmpty

end Dictionary

structure Expansion where
  text : Text
  settled : Bool := false
deriving DecidableEq, Repr

namespace Expansion

def apply (e : Expansion) (r : Rule) : Expansion :=
  if r.pattern.isMatch e.text then
    ⟨r.pattern.replaceAll r.template e.text, e.settled || r.isAnchored⟩
  else e

def ofRules (rules : List Rule) (t : Text) : Expansion := rules.foldl apply { text := t }

end Expansion

end Phrasebook
