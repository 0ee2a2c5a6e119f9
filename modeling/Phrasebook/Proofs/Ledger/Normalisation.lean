import Phrasebook.Proofs.Ledger.Storage
import Phrasebook.Proofs.Text.Utf8

/-!
Ledger files that were written by other means. Whatever a file holds, what is read from it can be
read back, so writing it anew loses nothing and comes to rest at once: the file then has one line
for each entry, in the order of the inputs, and is written in the same way from then on.
-/

namespace Phrasebook.Ledger

open Text FileSystem

/-- The entries of a ledger stand in the order of the bytes of their inputs. -/
theorem bytes_ascending (l : Ledger) :
    l.entries.Pairwise fun a b => Utf8.encode a.input < Utf8.encode b.input :=
  l.ordered.imp fun h => Utf8.encode_lt_of_precedes h

/-- A file of a ledger that can be read back has a line for each entry. -/
theorem map_ofLine?_lines {l : Ledger} (h : ∀ e ∈ l.entries, e.Legible) :
    (lines (Utf8.decodeLossy l.toBytes)).map Entry.ofLine? = l.entries.map some := by
  rw [toBytes, Utf8.decodeLossy_encode, toText_eq, lines_linesOf, List.map_map]
  exact List.map_congr_left fun e he => Entry.ofLine?_toLine (h e he)

/-- Every file that can be read, whatever its bytes, is a ledger. Written anew, which only a
directory in the place of the temporary file or a system that refuses it can prevent, it is read as
the same ledger and written anew with the same bytes. It then has one line for each entry and no
other line, and the lines stand in the order of the bytes of the inputs. -/
theorem normalised_by_flush {path : Text} {fs : FileSystem} {bytes : Bytes}
    (hread : fs.contents path = .ok bytes)
    (hfree : ¬ fs.IsDirectory (Path.location (Path.temporary path)))
    (hallows : fs.Allows (ofBytes bytes).toBytes) :
    ∃ l fs₁ fs₂, load path fs = (.ok l, fs) ∧ l.flush path fs = (.ok (), fs₁) ∧
      load path fs₁ = (.ok l, fs₁) ∧ l.flush path fs₁ = (.ok (), fs₂) ∧
      fs₁.contents path = .ok l.toBytes ∧ fs₂.contents path = .ok l.toBytes ∧
      (lines (Utf8.decodeLossy l.toBytes)).map Entry.ofLine? = l.entries.map some ∧
      l.entries.Pairwise fun a b => Utf8.encode a.input < Utf8.encode b.input := by
  have hlegible : ∀ e ∈ (ofBytes bytes).entries, e.Legible := fun e he => legible_of_mem_ofBytes he
  obtain ⟨fs₁, hflush⟩ := exists_flush (ofBytes bytes) hread hfree hallows
  obtain ⟨fs₂, hagain⟩ := flush_again (ofBytes bytes) hflush fun hnil => hnil
  have hreload := load_of_contents (contents_flush hflush)
  rw [ofBytes_toBytes hlegible] at hreload
  exact ⟨ofBytes bytes, fs₁, fs₂, load_of_contents hread, hflush, hreload, hagain,
    contents_flush hflush, contents_flush hagain, map_ofLine?_lines hlegible, bytes_ascending _⟩

/-- A file with a byte that is no character, a comment, a line of no pair, an input on two lines, a
value that lacks an opening parenthesis, one with empty tokens and an unknown escape, and no newline
at the end. -/
def worn : Bytes :=
  0xFF :: Utf8.encode "=x\n// c\r\njunk\na=b)\na=\\qc,(,d,)\nz=1".toList

def tidied : Ledger :=
  ⟨[⟨['a'], "\\qc,".toList, [['d']]⟩, ⟨['z'], ['1'], []⟩, ⟨['\uFFFD'], ['x'], []⟩], by decide⟩

theorem normalised_by_flush_worn : load ['l'] (soleFile worn) = (.ok tidied, soleFile worn) ∧
    ∃ fs₁ fs₂, tidied.flush ['l'] (soleFile worn) = (.ok (), fs₁) ∧
      load ['l'] fs₁ = (.ok tidied, fs₁) ∧ tidied.flush ['l'] fs₁ = (.ok (), fs₂) ∧
      fs₂.contents ['l'] =
        .ok (Utf8.encode "a=\\\\qc,(d)\nz=1()\n\uFFFD=x()\n".toList) := by
  have hread := contents_soleFile worn
  have hfree : ¬ (soleFile worn).IsDirectory (Path.location (Path.temporary ['l'])) := by
    intro hdir
    obtain ⟨stamp, hnode⟩ := hdir
    cases hnode
  have htidied : ofBytes worn = tidied := by decide +kernel
  have hbytes : tidied.toBytes =
      Utf8.encode "a=\\\\qc,(d)\nz=1()\n\uFFFD=x()\n".toList := by decide +kernel
  have hload := load_of_contents hread
  rw [htidied] at hload
  obtain ⟨l, fs₁, fs₂, hl, hflush, hreload, hagain, -, hcontents, -⟩ :=
    normalised_by_flush hread hfree (allows_of_refuses_nothing rfl _)
  cases hload.symm.trans hl
  exact ⟨hload, fs₁, fs₂, hflush, hreload, hagain, hbytes ▸ hcontents⟩

end Phrasebook.Ledger
