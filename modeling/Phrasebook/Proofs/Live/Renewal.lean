import Mathlib.Data.List.Dedup
import Phrasebook.Proofs.Ledger.Normalisation
import Phrasebook.Proofs.Ledger.Reconciling
import Phrasebook.Proofs.Live.Reload

/-!
What a reload that succeeds leaves behind, and that it comes to rest. The ledger is made of the
inputs on its file and of what the new dictionary makes of them; the ledger of before is forgotten.
Each of its entries is read back from the line that is written for it, so a second reload finds what
the first one has left, and resolves it to the same.
-/

namespace Phrasebook

open Text FileSystem

namespace Ledger

/-- The inputs of the lines of a ledger file that hold an entry, in the order of the lines. A file
that cannot be read has none. -/
def inputsOn (fs : FileSystem) (path : Text) : List Text :=
  match fs.contents path with
  | .ok bytes => ((lines (Utf8.decodeLossy bytes)).filterMap Entry.ofLine?).map Entry.input
  | .error _ => []

theorem inputsOn_of_contents {fs : FileSystem} {path : Text} {bytes : Bytes}
    (h : fs.contents path = .ok bytes) : inputsOn fs path =
      ((lines (Utf8.decodeLossy bytes)).filterMap Entry.ofLine?).map Entry.input := by
  rw [inputsOn, h]

/-- A ledger that was loaded has the inputs on its file, each of them once. -/
theorem mem_inputs_of_load {path : Text} {fs fs' : FileSystem} {l : Ledger}
    (h : load path fs = (.ok l, fs')) {input : Text} :
    input ∈ l.inputs ↔ input ∈ inputsOn fs path := by
  rw [mem_inputs]
  rcases load_ok_cases h with ⟨⟨fault, hread⟩, rfl⟩ | ⟨bytes, hread, rfl⟩
  · rw [inputsOn, hread]
    simp [contains, get?, empty]
  · have hempty : ¬ empty.contains input = true := Bool.false_ne_true
    rw [inputsOn_of_contents hread, ofBytes, ofText, contains_foldl_insert, List.mem_map,
      or_iff_left hempty]

theorem size_of_load {path : Text} {fs fs' : FileSystem} {l : Ledger}
    (h : load path fs = (.ok l, fs')) : l.size = (inputsOn fs path).dedup.length := by
  rw [← length_inputs]
  refine List.Perm.length_eq ?_
  refine (List.perm_ext_iff_of_nodup l.nodup_inputs (List.nodup_dedup _)).mpr fun input => ?_
  rw [mem_inputs_of_load h, List.mem_dedup]

/-- Whatever a dictionary leaves of a ledger that was loaded can be read back. -/
theorem legible_of_mem_reconcile {path : Text} {fs fs' : FileSystem} {l : Ledger}
    (h : load path fs = (.ok l, fs')) {d : Dictionary} :
    ∀ e ∈ (l.reconcile d).entries, e.Legible := by
  intro e he
  obtain ⟨a, ha, hrefresh⟩ := mem_reconcile.mp he
  obtain ⟨-, rfl⟩ := refresh_eq_some_iff.mp hrefresh
  exact Entry.legible_ofResolution d (input_ne_of_load h a ha)

end Ledger

namespace Live

/-- A reload that finds what another one has left changes nothing but the generation number. -/
theorem reload_again {live : Live} {d : Dictionary} {l : Ledger} {fs fs₁ fs' : FileSystem}
    {bytes : Bytes} (hfiles : DistinctFiles live.dictionaryPath live.ledgerPath)
    (hload : Dictionary.load live.dictionaryPath fs = (.ok d, fs₁))
    (hdictionary : fs₁.contents live.dictionaryPath = .ok bytes)
    (hread : Ledger.load live.ledgerPath fs₁ = (.ok l, fs₁))
    (hflush : (l.reconcile d).flush live.ledgerPath fs₁ = (.ok (), fs')) :
    ∃ fs'', (live.renew d (l.reconcile d)).reload fs' =
        (((live.renew d (l.reconcile d)).renew d (l.reconcile d),
          .ok ⟨live.generation + 2, ⟨0, (l.reconcile d).size⟩⟩), fs'') ∧
      SameFiles fs' fs'' := by
  have hkeep := Ledger.keeps_flush (l.reconcile d) fs₁ hfiles.ledger hfiles.temporary
  rw [hflush] at hkeep
  have hload' : Dictionary.load live.dictionaryPath fs' = (.ok d, fs') :=
    Dictionary.load_of_keeps (Dictionary.load_again hload hdictionary) hdictionary hkeep
  have hread' : Ledger.load live.ledgerPath fs' = (.ok (l.reconcile d), fs') := by
    rw [Ledger.load_of_contents (Ledger.contents_flush hflush),
      Ledger.ofBytes_toBytes (Ledger.legible_of_mem_reconcile hread)]
  obtain ⟨fs'', hflush'⟩ := Ledger.flush_again (l.reconcile d) hflush fun hnil => hnil
  refine ⟨fs'', ?_, Ledger.sameFiles_of_flush_again hfiles.own hflush hflush'⟩
  have hreload := @reload_of_steps (live.renew d (l.reconcile d)) _ _ _ _ _ hload' hread'
    (by rw [Ledger.reconcile_reconcile]; exact hflush')
  rwa [Ledger.reconcile_reconcile, Ledger.reconciliation_reconcile] at hreload

/-- If the dictionary file is loaded, and the ledger file is read and can be written anew, a reload
takes the dictionary into use as the next generation. The ledger then has one entry, and no other,
for each input on the ledger file that stays unresolved: what the dictionary makes of it, whatever
ledger there was before. The file has the lines of these entries, in the order of the bytes of the
inputs, and each input that was on it is counted once, whether it is resolved or remains. A second
reload changes nothing but the generation number. That is said where there is a dictionary file after
loading; the runs left out are those in which its path can lead to no file, since it ends in a slash
or leads below another file. -/
theorem reload_renews {live : Live} {d : Dictionary} {l : Ledger} {fs fs₁ fs' : FileSystem}
    (hfiles : DistinctFiles live.dictionaryPath live.ledgerPath)
    (hload : Dictionary.load live.dictionaryPath fs = (.ok d, fs₁))
    (hread : Ledger.load live.ledgerPath fs₁ = (.ok l, fs₁))
    (hflush : (l.reconcile d).flush live.ledgerPath fs₁ = (.ok (), fs')) :
    ∃ (rest : Ledger) (done : Reconciliation),
      (∀ before, { live with ledger := before }.reload fs =
        ((live.renew d rest, .ok ⟨live.generation + 1, done⟩), fs')) ∧
      (∀ bytes, fs.contents live.ledgerPath = .ok bytes →
        Ledger.inputsOn fs₁ live.ledgerPath = Ledger.inputsOn fs live.ledgerPath) ∧
      (∀ input e, rest.get? input = some e ↔
        input ∈ Ledger.inputsOn fs₁ live.ledgerPath ∧ (d.resolve input).resolved = false ∧
          e = .ofResolution input (d.resolve input)) ∧
      rest.inputs.Nodup ∧
      fs'.contents live.ledgerPath = .ok (Utf8.encode (Ledger.linesOf rest.entries)) ∧
      rest.entries.Pairwise (fun a b => Utf8.encode a.input < Utf8.encode b.input) ∧
      done.resolved + done.remaining = (Ledger.inputsOn fs₁ live.ledgerPath).dedup.length ∧
      done.remaining = rest.size ∧
      ∀ bytes, fs₁.contents live.dictionaryPath = .ok bytes →
        ∃ fs'', (live.renew d rest).reload fs' = (((live.renew d rest).renew d rest,
            .ok ⟨live.generation + 2, ⟨0, rest.size⟩⟩), fs'') ∧
          SameFiles fs' fs'' := by
  refine ⟨l.reconcile d, l.reconciliation d, fun before => ?_, fun bytes hbytes => ?_,
    fun input e => ?_, (l.reconcile d).nodup_inputs, ?_, Ledger.bytes_ascending _, ?_, rfl,
    fun bytes hdictionary => reload_again hfiles hload hdictionary hread hflush⟩
  · exact @reload_of_steps { live with ledger := before } _ _ _ _ _ hload hread hflush
  · have hkeep := @Dictionary.keeps_load _ _ fs hfiles.ledger.symm
    rw [hload] at hkeep
    rw [Ledger.inputsOn_of_contents hbytes]
    exact Ledger.inputsOn_of_contents (hkeep.contents hbytes)
  · rw [← Ledger.mem_inputs_of_load hread, Ledger.mem_inputs]
    exact Ledger.get?_reconcile_eq_some_iff
  · rw [Ledger.contents_flush hflush, Ledger.toBytes, Ledger.toText_eq]
  · rw [← Ledger.size_of_load hread]
    exact Nat.sub_add_cancel (Ledger.size_reconcile_le l d)

def blank : Live := ⟨['d'], ['l'], {}, .empty, 0⟩

/-- A tree with the word for `a` in the dictionary file `d`, and with a line for `a` and two for `c`
in the ledger file `l`. -/
def wordDisk : FileSystem where
  nodes := [([['d']], .file (Utf8.encode "a=b".toList) (.moment 1)),
    ([['l']], .file (Utf8.encode "c=x\na=a(a)\nc=y".toList) (.moment 2)),
    ([], .directory (.moment 0))]
  clock := 3

def oneOpen : Ledger := .insert .empty ⟨['c'], ['c'], [['c']]⟩

/-- The word is resolved, and one entry remains for the two lines of the other letter. -/
theorem reload_renews_wordDisk : ∃ (live : Live) (fs' fs'' : FileSystem),
    live = blank.renew (oneWord ['d'] ['l']).dictionary oneOpen ∧
    blank.reload wordDisk = ((live, .ok ⟨1, ⟨1, 1⟩⟩), fs') ∧
    fs'.contents ['l'] = .ok (Utf8.encode "c=c(c)\n".toList) ∧
    live.reload fs' = (({ live with generation := 2 }, .ok ⟨2, ⟨0, 1⟩⟩), fs'') ∧
    SameFiles fs' fs'' := by
  have hread : wordDisk.contents ['l'] =
      .ok (Utf8.encode "c=x\na=a(a)\nc=y".toList) := rfl
  have hdictionary : wordDisk.contents ['d'] = .ok (Utf8.encode "a=b".toList) := rfl
  have hload : Dictionary.load ['d'] wordDisk =
      (.ok (oneWord ['d'] ['l']).dictionary, wordDisk) := by
    have hword : Dictionary.read (Utf8.decodeLossy (Utf8.encode "a=b".toList)) =
        .ok (oneWord ['d'] ['l']).dictionary := by decide +kernel
    rw [Dictionary.load_of_contents hdictionary, hword]
    rfl
  have hfree : ¬ wordDisk.IsDirectory (Path.location (Path.temporary ['l'])) := by
    intro hdir
    obtain ⟨stamp, hnode⟩ := hdir
    cases hnode
  obtain ⟨fs', hflush⟩ := Ledger.exists_flush (Ledger.reconcile _ _) hread hfree
    (allows_of_refuses_nothing rfl _)
  obtain ⟨rest, done, hreload, -, -, -, hlines, -, -, -, hagain⟩ :=
    @reload_renews blank _ _ _ _ _ ⟨by decide, by decide, by decide⟩ hload
      (Ledger.load_of_contents hread) hflush
  obtain ⟨fs'', hsecond, hsame⟩ := hagain _ hdictionary
  have hfirst : (blank.reload wordDisk).1 =
      (blank.renew (oneWord ['d'] ['l']).dictionary oneOpen, .ok ⟨1, ⟨1, 1⟩⟩) := by
    decide +kernel
  have hresult := (congrArg Prod.fst (hreload .empty)).symm.trans hfirst
  obtain ⟨hlive, hdone⟩ := Prod.mk.inj hresult
  cases congrArg Live.ledger hlive
  cases hdone
  exact ⟨_, fs', fs'', rfl, hreload .empty, hlines, hsecond, hsame⟩

end Live

end Phrasebook
