import Phrasebook.FileSystem.Path
import Phrasebook.Proofs.Text.Runs

/-!
The directory around a path, as it is written. Its names are names of the path, so the way to it
is a part of the way that the path takes, and the temporary file of a path lies in it.
-/

namespace Phrasebook.Path

open Text

theorem dropSlashes_suffix (reversed : Text) : dropSlashes reversed <:+ reversed := by
  fun_induction dropSlashes reversed with
  | case1 rest ih => exact ih.trans (List.suffix_cons '/' rest)
  | case2 rest ih => exact ih.trans ((List.suffix_cons '/' rest).trans (List.suffix_cons '.' _))
  | case3 => exact List.suffix_rfl

/-- A path is written as what stands before its last name, the name, and slashes and dots. What
stands before the name is nothing or ends with a slash. -/
theorem exists_splitName_append (path : Text) : ∃ front name trail, splitName path = (front, name) ∧
    path = front ++ name ++ trail ∧ (front = [] ∨ ∃ s, front = s ++ ['/']) ∧ '/' ∉ name := by
  obtain ⟨trail, htrail⟩ := dropSlashes_suffix path.reverse
  obtain ⟨hcut, hfront, hname⟩ := cut_at_last '/' (dropSlashes path.reverse)
  refine ⟨_, _, trail.reverse, rfl, ?_, hfront, hname⟩
  rw [← hcut, ← List.reverse_append, htrail, List.reverse_reverse]

theorem names_append {front : Text} (h : front = [] ∨ ∃ s, front = s ++ ['/']) (t : Text) :
    names (front ++ t) = names front ++ names t := by
  obtain rfl | ⟨s, rfl⟩ := h
  · rfl
  · have hslash : names (s ++ ['/']) = names s := by
      rw [names, runs_append_of_not s [] (by decide)]
      exact List.append_nil _
    rw [hslash, List.append_assoc, List.singleton_append, names, runs_append_of_not s t (by decide)]
    rfl

theorem names_eq_singleton {name : Text} (hne : name ≠ []) (h : '/' ∉ name) :
    names name = [name] := by
  have hrun : ∀ c ∈ name, (c != '/') = true := fun c hc =>
    bne_iff_ne.mpr (ne_of_mem_of_not_mem hc h)
  rw [names, ← List.append_nil name, runs_run_append hne hrun (by simp), List.append_nil]
  rfl

theorem stationsFrom_append (way : Location) (names more : List Text) :
    stationsFrom way (names ++ more) =
      stationsFrom way names ++ stationsFrom (names.foldl follow way) more := by
  induction names generalizing way with
  | nil => rfl
  | cons name names ih => simp only [List.cons_append, stationsFrom, ih, List.foldl_cons]

theorem stations_dropLast {path : Text} {before more : List Text} (hne : more ≠ [])
    (h : names path = before ++ more) :
    (stations path).dropLast =
      stationsFrom [] before ++ (stationsFrom (before.foldl follow []) more).dropLast := by
  obtain ⟨name, rest, rfl⟩ := List.exists_cons_of_ne_nil hne
  rw [stations, h, stationsFrom_append, List.dropLast_append_of_ne_nil (by simp [stationsFrom])]

/-- The directory around a path is on the way to it. -/
theorem mem_stations_of_parent {path : Text} (hne : path ≠ []) (hslash : isSlashed path = false)
    {m : Location} (h : m ∈ stations (splitName path).1) : m ∈ (stations path).dropLast := by
  obtain ⟨front, name, trail, hsplit, hpath, hfront, -⟩ := exists_splitName_append path
  have hlast : ∀ t, path ≠ t ++ ['/'] := by
    rintro t rfl
    simp [isSlashed] at hslash
  have hmore : names (name ++ trail) ≠ [] := by
    intro hnone
    have hslashes := eq_false_of_runs_eq_nil hnone
    rw [List.append_assoc] at hpath
    rcases List.eq_nil_or_concat (name ++ trail) with hnil | ⟨t, c, hconcat⟩
    · rw [hnil, List.append_nil] at hpath
      rcases hfront with rfl | ⟨s, rfl⟩
      · exact hne hpath
      · exact hlast s hpath
    · have hc : c = '/' := by simpa using hslashes c (by simp [hconcat])
      rw [hconcat, hc, List.concat_eq_append, ← List.append_assoc] at hpath
      exact hlast _ hpath
  have hnames : names path = names front ++ names (name ++ trail) := by
    rw [hpath, List.append_assoc, names_append hfront]
  rw [hsplit] at h
  rw [stations_dropLast hmore hnames]
  exact List.mem_append_left _ h

theorem mem_of_mem_stem {name : Text} {c : Char} (h : c ∈ stem name) : c ∈ name := by
  unfold stem at h
  split at h
  · exact h
  · exact h
  · rename_i dot reversed _ hdrop
    have hmem : c ∈ name.reverse.dropWhile (· != '.') := by
      rw [hdrop]
      exact List.mem_cons_of_mem dot (List.mem_reverse.mp h)
    exact List.mem_reverse.mp ((List.dropWhile_sublist _).mem hmem)

/-- The temporary file of a path has the path itself or lies in the directory around it. -/
theorem temporary_cases (path : Text) : temporary path = path ∨
    ∃ name, '/' ∉ name ∧ temporary path = (splitName path).1 ++ (name ++ ['.', 't', 'm', 'p']) := by
  obtain ⟨front, name, trail, hsplit, -, -, hname⟩ := exists_splitName_append path
  unfold temporary withExtension
  rw [hsplit]
  dsimp only
  split
  · exact Or.inl rfl
  · refine Or.inr ⟨stem name, fun h => hname (mem_of_mem_stem h), ?_⟩
    rw [List.append_assoc]

section Temporary

variable {path : Text} (hne : path ≠ []) (hslash : isSlashed path = false)

include hne in
theorem temporary_ne_nil : temporary path ≠ [] := by
  rcases temporary_cases path with heq | ⟨name, -, heq⟩
  · rwa [heq]
  · simp [heq]

include hslash in
theorem isSlashed_temporary : isSlashed (temporary path) = false := by
  rcases temporary_cases path with heq | ⟨name, -, heq⟩
  · rwa [heq]
  · simp [isSlashed, heq]

include hne hslash in
/-- The way to the temporary file is a part of the way to the file. -/
theorem mem_stations_of_temporary {m : Location}
    (h : m ∈ (stations (temporary path)).dropLast) : m ∈ (stations path).dropLast := by
  rcases temporary_cases path with heq | ⟨name, hname, heq⟩
  · rwa [heq] at h
  · obtain ⟨front, _, _, hsplit, -, hfront, -⟩ := exists_splitName_append path
    rw [hsplit] at heq
    have hfile : names (name ++ ['.', 't', 'm', 'p']) = [name ++ ['.', 't', 'm', 'p']] :=
      names_eq_singleton (by simp) (by simpa using hname)
    have hnames : names (temporary path) = names front ++ [name ++ ['.', 't', 'm', 'p']] := by
      rw [heq, names_append hfront, hfile]
    rw [stations_dropLast (by simp) hnames, stationsFrom, stationsFrom, List.dropLast_singleton,
      List.append_nil] at h
    refine mem_stations_of_parent hne hslash ?_
    rw [hsplit]
    exact h

end Temporary

end Phrasebook.Path
