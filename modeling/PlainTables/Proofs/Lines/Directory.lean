import Mathlib.Data.List.Nodup
import PlainTables.Lines.FileSet

/-!
# The files of a directory

A set has the files of a directory whose names match, in the order of their names. In which order the
directory lists them is of no importance, so a further file takes its place by its name alone.
-/

namespace PlainTables.FileSetLines

def inOrder (entries : List DirectoryEntry) : List DirectoryEntry :=
  entries.mergeSort fun a b => (compare a.name b.name).isLE

def matching? (p : NamePattern) (entry : DirectoryEntry) : Option SetFile :=
  (p.program.captures? entry.name).map fun values => ⟨entry.content, values⟩

theorem ofDirectory_eq (l : FileSetLayout) {pattern : String} {p : NamePattern}
    (parsed : NamePattern.ofFileNames? pattern = some p) (entries : List DirectoryEntry) :
    ofDirectory l pattern entries =
      .ok { layout := l, files := (inOrder entries).filterMap (matching? p) } := by
  unfold ofDirectory
  rw [parsed]
  rfl

theorem ofDirectory_single (l : FileSetLayout) {pattern name : String} {p : NamePattern}
    (parsed : NamePattern.ofFileNames? pattern = some p) {values : List String}
    (captured : p.program.captures? name = some values) (content : Option (List UInt8)) :
    ofDirectory l pattern [⟨name, content⟩] = .ok { layout := l, files := [⟨content, values⟩] } := by
  rw [ofDirectory_eq l parsed]
  simp [inOrder, matching?, captured]

theorem pairwise_inOrder (entries : List DirectoryEntry) :
    (inOrder entries).Pairwise fun a b => (compare a.name b.name).isLE := by
  have trans (a b c : DirectoryEntry) (first : (compare a.name b.name).isLE = true)
      (second : (compare b.name c.name).isLE = true) : (compare a.name c.name).isLE = true :=
    Std.TransCmp.isLE_trans first second
  have total (a b : DirectoryEntry) :
      ((compare a.name b.name).isLE || (compare b.name a.name).isLE) = true := by
    have swapped : compare b.name a.name = (compare a.name b.name).swap :=
      Std.OrientedCmp.eq_swap
    rw [swapped]
    cases compare a.name b.name <;> rfl
  exact List.pairwise_mergeSort trans total entries

theorem eq_of_sameName {entries : List DirectoryEntry} (distinct : (entries.map (·.name)).Nodup)
    {a b : DirectoryEntry} (left : a ∈ entries) (right : b ∈ entries) (same : a.name = b.name) :
    a = b :=
  List.inj_on_of_nodup_map distinct left right same

theorem inOrder_eq_of_perm {entries sorted : List DirectoryEntry}
    (distinct : (entries.map (·.name)).Nodup) (perm : sorted.Perm entries)
    (ordered : sorted.Pairwise fun a b => (compare a.name b.name).isLE) :
    inOrder entries = sorted := by
  refine List.Perm.eq_of_pairwise (fun a b left right first second => ?_)
    (pairwise_inOrder entries) ordered ((List.mergeSort_perm _ _).trans perm.symm)
  refine eq_of_sameName distinct ((List.mergeSort_perm _ _).mem_iff.mp left)
    (perm.mem_iff.mp right) ?_
  exact Std.LawfulEqCmp.eq_of_compare (Std.OrientedCmp.isLE_antisymm first second)

/-- A further entry takes a place among the others, which stay in their order. -/
theorem exists_inOrder_append {entries more : List DirectoryEntry} {added : DirectoryEntry}
    (distinct : (more.map (·.name)).Nodup) (listed : more.Perm (added :: entries)) :
    ∃ front back, inOrder entries = front ++ back ∧ inOrder more = front ++ added :: back := by
  have perm : (inOrder more).Perm more := List.mergeSort_perm _ _
  obtain ⟨front, back, split⟩ := List.append_of_mem
    (perm.mem_iff.mpr (listed.mem_iff.mpr List.mem_cons_self))
  have ordered := pairwise_inOrder more
  rw [split] at perm ordered
  have others : (front ++ back).Perm entries :=
    List.Perm.cons_inv (List.perm_middle.symm.trans (perm.trans listed))
  have distinct' : (entries.map (·.name)).Nodup :=
    ((listed.map _).nodup_iff.mp distinct).of_cons
  have without : (front ++ back).Sublist (front ++ added :: back) :=
    (List.Sublist.refl front).append (List.sublist_cons_self added back)
  exact ⟨front, back, inOrder_eq_of_perm distinct' others (ordered.sublist without), split⟩

theorem ofDirectory_numbered (l : FileSetLayout) (first second : Option (List UInt8)) :
    FileSetLines.ofDirectory l "t(.).csv" [⟨"t1.csv", first⟩, ⟨"t2.csv", second⟩] =
      .ok { layout := l, files := [⟨first, ["1"]⟩, ⟨second, ["2"]⟩] } := by
  have captures : (NamePattern.ofFileNames? "t(.).csv").map (fun p =>
      ["t1.csv", "t2.csv"].map p.program.captures?) = some [some ["1"], some ["2"]] := by
    decide +kernel
  obtain ⟨p, parsed, captures⟩ := Option.map_eq_some_iff.mp captures
  simp only [List.map_cons, List.map_nil, List.cons.injEq, and_true] at captures
  obtain ⟨one, two⟩ := captures
  rw [ofDirectory_eq l parsed, inOrder_eq_of_perm (by simp) (.refl _)
    (List.pairwise_pair.mpr (by decide : (compare "t1.csv" "t2.csv").isLE))]
  simp [matching?, one, two]

theorem exists_files_append {p : NamePattern} {entries more : List DirectoryEntry}
    {added : DirectoryEntry} {values : List String} (distinct : (more.map (·.name)).Nodup)
    (listed : more.Perm (added :: entries))
    (named : p.program.captures? added.name = some values)
    (notFirst : ∃ entry ∈ entries,
      (p.program.captures? entry.name).isSome ∧ entry.name < added.name) :
    ∃ first front back,
      (inOrder entries).filterMap (matching? p) = first :: (front ++ back) ∧
      (inOrder more).filterMap (matching? p) =
        first :: (front ++ ⟨added.content, values⟩ :: back) := by
  obtain ⟨front, back, without, withAdded⟩ := exists_inOrder_append distinct listed
  have here : matching? p added = some ⟨added.content, values⟩ := by
    rw [matching?, named]
    rfl
  rw [without, withAdded, List.filterMap_append, List.filterMap_append,
    List.filterMap_cons_some here]
  obtain ⟨entry, mem, hasName, less⟩ := notFirst
  have inFront : entry ∈ front := by
    have mem' : entry ∈ front ++ back := by
      rw [← without]
      exact (List.mergeSort_perm _ _).mem_iff.mpr mem
    refine (List.mem_append.mp mem').resolve_right fun inBack => ?_
    have ordered := pairwise_inOrder more
    rw [withAdded] at ordered
    have le : (compare added.name entry.name).isLE :=
      List.rel_of_pairwise_cons (List.pairwise_append.mp ordered).2.1 inBack
    have lt : compare entry.name added.name = .lt := compareOfLessAndEq_eq_lt.mpr less
    have swapped : compare added.name entry.name = (compare entry.name added.name).swap :=
      Std.OrientedCmp.eq_swap
    rw [swapped, lt] at le
    cases le
  cases files : front.filterMap (matching? p) with
  | nil =>
    have none := List.filterMap_eq_nil_iff.mp files entry inFront
    rw [matching?, Option.map_eq_none_iff] at none
    rw [none] at hasName
    cases hasName
  | cons first rest => exact ⟨first, rest, _, rfl, rfl⟩

end PlainTables.FileSetLines
