import Phrasebook.Line.Basic
import Phrasebook.Resolution.Basic
import Phrasebook.Text.Utf8

/-!
The ledger: entries for texts that could not be resolved, one for each input and in the
order of the inputs. Reconciling resolves every input anew.

An entry has the draft that came of its input and the tokens that were left. On a line the draft and
the tokens make one value, `draft(token,token)`.
-/

namespace Phrasebook

open Text

structure Entry where
  input : Text
  draft : Text
  tokens : List Text
deriving DecidableEq, Repr

namespace Entry

def ofResolution (input : Text) (r : Resolution) : Entry := ⟨input, r.value, r.tokens⟩

def summary (e : Entry) : Text :=
  e.draft ++ '(' :: [','].intercalate e.tokens ++ [')']

def toLine (e : Entry) : Text := Line.encode e.input e.summary

/-- Reads a value: the tokens stand behind its last opening parenthesis, if it ends in a
closing one. Empty tokens do not count. -/
def splitSummary (value : Text) : Text × List Text :=
  match value.reverse with
  | ')' :: body =>
    match body.dropWhile (· != '(') with
    | [] => (value, [])
    | _ :: draft => (draft.reverse, runs (· != ',') (body.takeWhile (· != '(')).reverse)
  | _ => (value, [])

/-- Reads a line. Blank lines, comments, and lines that lack a side hold no entry. -/
def ofLine? (raw : Text) : Option Entry :=
  match Line.decode? (trim raw) with
  | none => none
  | some (input, value) =>
    if input.isEmpty || value.isEmpty then none
    else some ⟨input, (splitSummary value).1, (splitSummary value).2⟩

end Entry

structure Ledger where
  entries : List Entry := []
  ordered : entries.Pairwise (fun a b => precedes a.input b.input) := by exact List.Pairwise.nil
deriving DecidableEq, Repr

structure Reconciliation where
  resolved : Nat
  remaining : Nat
deriving DecidableEq, Repr

namespace Ledger

def empty : Ledger := {}

def insertEntry (e : Entry) : List Entry → List Entry
  | [] => [e]
  | a :: rest =>
    if precedes e.input a.input then e :: a :: rest
    else if e.input = a.input then e :: rest
    else a :: insertEntry e rest

theorem mem_insertEntry {e x : Entry} {l : List Entry} (h : x ∈ insertEntry e l) :
    x = e ∨ x ∈ l := by
  induction l with
  | nil => simpa [insertEntry] using h
  | cons a l ih =>
    simp only [insertEntry] at h
    split at h
    · simpa using h
    split at h
    · rcases List.mem_cons.mp h with h | h
      · exact Or.inl h
      · exact Or.inr (List.mem_cons_of_mem a h)
    · rcases List.mem_cons.mp h with h | h
      · exact Or.inr (h ▸ List.mem_cons_self)
      · rcases ih h with h | h
        · exact Or.inl h
        · exact Or.inr (List.mem_cons_of_mem a h)

theorem ordered_insertEntry (e : Entry) {l : List Entry}
    (h : l.Pairwise (fun a b => precedes a.input b.input)) :
    (insertEntry e l).Pairwise (fun a b => precedes a.input b.input) := by
  induction l with
  | nil => simp [insertEntry]
  | cons a l ih =>
    have hhead := (List.pairwise_cons.mp h).1
    have htail := (List.pairwise_cons.mp h).2
    simp only [insertEntry]
    split
    · rename_i hlt
      refine List.pairwise_cons.mpr ⟨fun x hx => ?_, h⟩
      rcases List.mem_cons.mp hx with hx | hx
      · exact hx ▸ hlt
      · exact precedes_trans hlt (hhead x hx)
    split
    · rename_i heq
      exact List.pairwise_cons.mpr ⟨fun x hx => heq ▸ hhead x hx, htail⟩
    · rename_i hnlt hne
      refine List.pairwise_cons.mpr ⟨fun x hx => ?_, ih htail⟩
      rcases mem_insertEntry hx with hx | hx
      · subst hx
        by_cases hgt : precedes a.input x.input = true
        · exact hgt
        · exact absurd (eq_of_not_precedes (by simpa using hnlt) (by simpa using hgt)) hne
      · exact hhead x hx

def insert (l : Ledger) (e : Entry) : Ledger :=
  ⟨insertEntry e l.entries, ordered_insertEntry e l.ordered⟩

def get? (l : Ledger) (input : Text) : Option Entry :=
  l.entries.find? fun e => e.input == input

def contains (l : Ledger) (input : Text) : Bool := (l.get? input).isSome

def size (l : Ledger) : Nat := l.entries.length

def inputs (l : Ledger) : List Text := l.entries.map Entry.input

/-- The ledger of the lines of a text; of two lines with one input the later one counts. -/
def ofText (content : Text) : Ledger :=
  ((lines content).filterMap Entry.ofLine?).foldl insert empty

def ofBytes (bytes : Bytes) : Ledger := ofText (Utf8.decodeLossy bytes)

def toText (l : Ledger) : Text := l.entries.flatMap fun e => e.toLine ++ ['\n']

def toBytes (l : Ledger) : Bytes := Utf8.encode l.toText

def refresh (d : Dictionary) (e : Entry) : Option Entry :=
  let r := d.resolve e.input
  if r.resolved then none else some (.ofResolution e.input r)

theorem input_of_refresh {d : Dictionary} {e e' : Entry} (h : refresh d e = some e') :
    e'.input = e.input := by
  simp only [refresh] at h
  split at h
  · simp at h
  · simp only [Option.some.injEq] at h
    rw [← h]
    rfl

theorem ordered_refresh (d : Dictionary) {l : List Entry}
    (h : l.Pairwise (fun a b => precedes a.input b.input)) :
    (l.filterMap (refresh d)).Pairwise (fun a b => precedes a.input b.input) :=
  List.Pairwise.filterMap _
    (fun a b hab a' ha b' hb => by
      rw [input_of_refresh ha, input_of_refresh hb]
      exact hab) h

/-- Resolves every input anew: what resolves is dropped, the rest is brought up to date. -/
def reconcile (l : Ledger) (d : Dictionary) : Ledger :=
  ⟨l.entries.filterMap (refresh d), ordered_refresh d l.ordered⟩

def reconciliation (l : Ledger) (d : Dictionary) : Reconciliation :=
  ⟨l.size - (l.reconcile d).size, (l.reconcile d).size⟩

end Ledger

end Phrasebook
