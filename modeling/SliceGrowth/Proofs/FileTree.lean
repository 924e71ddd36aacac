import Mathlib.Data.List.Forall2
import SliceGrowth.FileTree
import SliceGrowth.Proofs.SlashPath

/-!
Proper file trees: the entries of a folder have names of their own, and names that a path can spell. In a
proper tree a path to a folder and the name of an entry make a path to the entry. Trees stay proper when files
are written and folders are made or removed.
-/
namespace SliceGrowth

section ByName

-- What is listed by name, such as the entries of a folder.
variable {α : Type} {listed listed' : List (String × α)}

theorem byName_pairwise (distinct : (listed.map Prod.fst).Nodup) :
    (listed.mergeSort fun a b => a.1 ≤ b.1).Pairwise fun a b => a.1 < b.1 := by
  have sorted : (listed.mergeSort fun a b => a.1 ≤ b.1).Pairwise fun a b => decide (a.1 ≤ b.1) = true := by
    apply List.pairwise_mergeSort
    · intro a b c before after
      exact decide_eq_true (String.le_trans (of_decide_eq_true before) (of_decide_eq_true after))
    · intro a b
      simpa using String.le_total a.1 b.1
  have apart : (listed.mergeSort fun a b => a.1 ≤ b.1).Pairwise fun a b => a.1 ≠ b.1 := by
    rw [← List.pairwise_map]
    exact ((List.mergeSort_perm listed _).map Prod.fst).nodup_iff.mpr distinct
  refine sorted.imp₂ ?_ apart
  intro a b le ne
  refine Decidable.byContradiction fun notLt => ne ?_
  exact String.le_antisymm (of_decide_eq_true le) (String.not_lt.mp notLt)

theorem byName_eq_of_perm (distinct : (listed.map Prod.fst).Nodup) (same : listed.Perm listed') :
    (listed.mergeSort fun a b => a.1 ≤ b.1) = listed'.mergeSort fun a b => a.1 ≤ b.1 := by
  have distinct' := (same.map Prod.fst).nodup_iff.mp distinct
  have perm := (List.mergeSort_perm listed fun a b => a.1 ≤ b.1).trans
    (same.trans (List.mergeSort_perm listed' fun a b => a.1 ≤ b.1).symm)
  refine perm.eq_of_pairwise ?_ (byName_pairwise distinct) (byName_pairwise distinct')
  intro a b _ _ before after
  exact absurd (String.lt_trans before after) (String.lt_irrefl a.1)

theorem byName_map {β : Type} (g : String × α → β) :
    ((listed.map fun e => (e.1, g e)).mergeSort fun a b => a.1 ≤ b.1) =
      (listed.mergeSort fun a b => a.1 ≤ b.1).map fun e => (e.1, g e) := by
  symm
  apply List.map_mergeSort
  intro a _ b _
  rfl

end ByName

structure IsEntryName (name : String) : Prop extends SlashPath.IsPart name where
  notUp : name ≠ ".."

instance (name : String) : Decidable (IsEntryName name) :=
  decidable_of_iff ((name ≠ "" ∧ name ≠ "." ∧ '/' ∉ name.toList) ∧ name ≠ "..")
    ⟨fun ⟨⟨nonempty, notHere, noSlash⟩, notUp⟩ => ⟨⟨nonempty, notHere, noSlash⟩, notUp⟩,
      fun ⟨⟨nonempty, notHere, noSlash⟩, notUp⟩ => ⟨⟨nonempty, notHere, noSlash⟩, notUp⟩⟩

namespace FileTree

inductive Proper : FileTree → Prop
  | file (content : ByteArray) : Proper (.file content)
  | folder {entries : List (String × FileTree)} (named : ∀ e ∈ entries, IsEntryName e.1)
    (distinct : (entries.map Prod.fst).Nodup) (inner : ∀ e ∈ entries, Proper e.2) : Proper (.folder entries)

theorem Proper.named {entries : List (String × FileTree)} (proper : (FileTree.folder entries).Proper) :
    ∀ e ∈ entries, IsEntryName e.1 := by
  cases proper with
  | folder named => exact named

theorem Proper.distinct {entries : List (String × FileTree)} (proper : (FileTree.folder entries).Proper) :
    (entries.map Prod.fst).Nodup := by
  cases proper with
  | folder _ distinct => exact distinct

theorem Proper.inner {entries : List (String × FileTree)} (proper : (FileTree.folder entries).Proper) :
    ∀ e ∈ entries, e.2.Proper := by
  cases proper with
  | folder _ _ inner => exact inner

theorem mem_of_named? {entries : List (String × FileTree)} {name : String} {tree : FileTree}
    (found : named? entries name = some tree) : (name, tree) ∈ entries := by
  obtain ⟨before, after, same, -⟩ := List.lookup_eq_some_iff.mp found
  simp [same]

theorem named?_of_mem {entries : List (String × FileTree)} {name : String} {tree : FileTree}
    (distinct : (entries.map Prod.fst).Nodup) (member : (name, tree) ∈ entries) :
    named? entries name = some tree := by
  obtain ⟨before, after, rfl⟩ := List.append_of_mem member
  refine List.lookup_eq_some_iff.mpr ⟨before, after, rfl, fun e earlier => ?_⟩
  rw [List.map_append, List.nodup_append] at distinct
  have other := distinct.2.2 e.1 (List.mem_map_of_mem earlier) name (by simp)
  exact bne_iff_ne.mpr other.symm

theorem map_fst_bind (name : String) (tree : FileTree) (entries : List (String × FileTree)) :
    (bind name tree entries).map Prod.fst =
      if name ∈ entries.map Prod.fst then entries.map Prod.fst else entries.map Prod.fst ++ [name] := by
  induction entries with
  | nil => rfl
  | cons e rest ih =>
    obtain ⟨other, t⟩ := e
    by_cases same : other = name
    · simp [bind, same]
    · rw [bind, if_neg (by simpa using same), List.map_cons, ih]
      by_cases listed : name ∈ rest.map Prod.fst <;> simp [listed, Ne.symm same]

theorem mem_bind {name : String} {tree : FileTree} {entries : List (String × FileTree)} {e : String × FileTree}
    (member : e ∈ bind name tree entries) : e = (name, tree) ∨ e ∈ entries := by
  induction entries with
  | nil => exact .inl (List.mem_singleton.mp member)
  | cons first rest ih =>
    obtain ⟨other, t⟩ := first
    rw [bind] at member
    split at member
    · rcases List.mem_cons.mp member with same | member
      · exact .inl same
      · exact .inr (List.mem_cons_of_mem _ member)
    · rcases List.mem_cons.mp member with same | member
      · exact .inr (by simp [same])
      · exact (ih member).imp_right (List.mem_cons_of_mem _)

theorem Proper.bind {name : String} {tree : FileTree} {entries : List (String × FileTree)}
    (proper : (FileTree.folder entries).Proper) (named : IsEntryName name) (inner : tree.Proper) :
    (FileTree.folder (FileTree.bind name tree entries)).Proper := by
  refine .folder (fun e member => ?_) ?_ fun e member => ?_
  · rcases mem_bind member with rfl | member
    · exact named
    · exact proper.named e member
  · rw [map_fst_bind]
    split
    · exact proper.distinct
    · rename_i fresh
      exact List.nodup_append.mpr ⟨proper.distinct, by simp, by grind⟩
  · rcases mem_bind member with rfl | member
    · exact inner
    · exact proper.inner e member

theorem empty_proper : (FileTree.folder []).Proper := .folder (by simp) (by simp) (by simp)

theorem Proper.getD_named? {entries : List (String × FileTree)} (proper : (FileTree.folder entries).Proper)
    (name : String) : ((named? entries name).getD (.folder [])).Proper := by
  cases found : named? entries name with
  | none => exact empty_proper
  | some tree => exact proper.inner _ (mem_of_named? found)

section Changes

variable {tree leaf : FileTree} {names : List String}

theorem Proper.insert (proper : tree.Proper) (named : ∀ name ∈ names, IsEntryName name) (inner : leaf.Proper) :
    (tree.insert names leaf).Proper := by
  induction names generalizing tree with
  | nil =>
    cases tree <;> exact inner
  | cons name names ih =>
    have entry := named name (by simp)
    have below := fun {t : FileTree} (proper : t.Proper) => ih proper fun n member => named n (by simp [member])
    cases tree with
    | file content => exact empty_proper.bind entry (below empty_proper)
    | folder entries => exact proper.bind entry (below (proper.getD_named? name))

theorem Proper.insertFolder (proper : tree.Proper) (named : ∀ name ∈ names, IsEntryName name) :
    (tree.insertFolder names).Proper := by
  induction names generalizing tree with
  | nil => cases tree <;> exact proper
  | cons name names ih =>
    cases tree with
    | file content => exact proper
    | folder entries =>
      have below := ih (proper.getD_named? name) fun n member => named n (by simp [member])
      exact proper.bind (named name (by simp)) below

theorem Proper.erase (proper : tree.Proper) (named : ∀ name ∈ names, IsEntryName name) :
    (tree.erase names).Proper := by
  fun_induction FileTree.erase tree names with
  | case1 entries name =>
    refine .folder (fun e member => ?_) ?_ fun e member => ?_
    · exact proper.named e (List.mem_of_mem_filter member)
    · exact proper.distinct.sublist (List.filter_sublist.map Prod.fst)
    · exact proper.inner e (List.mem_of_mem_filter member)
  | case2 entries name names _ inner found ih =>
    have below := ih (proper.inner _ (mem_of_named? found)) fun n member => named n (by simp [member])
    exact proper.bind (named name (by simp)) below
  | case3 => exact proper
  | case4 => exact proper

end Changes

/-- Folders are smaller than what holds them. -/
theorem sizeOf_entry {entries : List (String × FileTree)} {e : String × FileTree} (member : e ∈ entries) :
    sizeOf e.2 < sizeOf (folder entries) := by
  have inside := List.sizeOf_lt_of_mem member
  have pair : sizeOf e.2 < sizeOf e := by
    cases e
    simp only [Prod.mk.sizeOf_spec]
    omega
  simp only [folder.sizeOf_spec]
  omega

@[elab_as_elim]
theorem induction_on_entries {motive : FileTree → Prop} (tree : FileTree)
    (file : ∀ content, motive (.file content))
    (folder : ∀ entries, (∀ e ∈ entries, motive e.2) → motive (.folder entries)) : motive tree :=
  match tree with
  | .file content => file content
  | .folder entries => folder entries fun e _ => induction_on_entries e.2 file folder
termination_by sizeOf tree
decreasing_by exact sizeOf_entry ‹_›

/-- The same tree, with the entries of its folders listed in another order. The entries of two such folders
are matched by name. -/
inductive Reordered : FileTree → FileTree → Prop
  | file (content : ByteArray) : Reordered (.file content) (.file content)
  | folder {entries entries' : List (String × FileTree)} (matched : List (String × FileTree × FileTree))
    (left : entries.Perm (matched.map fun m => (m.1, m.2.1)))
    (right : entries'.Perm (matched.map fun m => (m.1, m.2.2)))
    (inner : ∀ m ∈ matched, Reordered m.2.1 m.2.2) : Reordered (.folder entries) (.folder entries')

theorem distinct_of_matched {entries entries' : List (String × FileTree)}
    {matched : List (String × FileTree × FileTree)} (left : entries.Perm (matched.map fun m => (m.1, m.2.1)))
    (right : entries'.Perm (matched.map fun m => (m.1, m.2.2))) (distinct : (entries.map Prod.fst).Nodup) :
    (entries'.map Prod.fst).Nodup := by
  have first := left.map Prod.fst
  have second := right.map Prod.fst
  simp only [List.map_map, Function.comp_def] at first second
  exact (first.trans second.symm).nodup_iff.mp distinct

/-- A name leads in either of two matched folders to the trees of one match. -/
theorem named?_of_matched {entries entries' : List (String × FileTree)}
    {matched : List (String × FileTree × FileTree)} {name : String} {tree : FileTree}
    (left : entries.Perm (matched.map fun m => (m.1, m.2.1)))
    (right : entries'.Perm (matched.map fun m => (m.1, m.2.2))) (distinct : (entries.map Prod.fst).Nodup)
    (found : named? entries name = some tree) :
    ∃ tree', named? entries' name = some tree' ∧ (name, tree, tree') ∈ matched := by
  have distinct' := distinct_of_matched left right distinct
  obtain ⟨m, member, same⟩ := List.mem_map.mp (left.mem_iff.mp (mem_of_named? found))
  cases same
  have member' := right.mem_iff.mpr (List.mem_map_of_mem member)
  exact ⟨m.2.2, named?_of_mem distinct' member', member⟩

theorem Reordered.named? {entries entries' : List (String × FileTree)} {name : String} {tree : FileTree}
    (proper : (FileTree.folder entries).Proper) (same : (FileTree.folder entries).Reordered (.folder entries'))
    (found : FileTree.named? entries name = some tree) :
    ∃ tree', FileTree.named? entries' name = some tree' ∧ tree.Reordered tree' := by
  cases same with
  | folder matched left right inner =>
    obtain ⟨tree', found', member⟩ := named?_of_matched left right proper.distinct found
    exact ⟨tree', found', inner _ member⟩

end FileTree

namespace FileSystem

open FileTree

theorem follow_child {trail : List FileTree} {tree : FileTree} {parts : List String}
    {entries : List (String × FileTree)} {name : String} {inner : FileTree}
    (found : follow trail tree parts = .ok (.folder entries)) (below : named? entries name = some inner)
    (notUp : name ≠ "..") : follow trail tree (parts ++ [name]) = .ok inner := by
  induction parts generalizing trail tree with
  | nil =>
    cases found
    simp [follow, step, below, notUp]
  | cons part parts ih =>
    rw [List.cons_append, follow]
    rw [follow] at found
    cases next : step trail tree part with
    | error e =>
      rw [next] at found
      cases found
    | ok reached =>
      rw [next] at found
      exact ih found

theorem get_child {fs : FileSystem} {path : SlashPath} {entries : List (String × FileTree)} {name : String}
    {tree : FileTree} (found : fs.get path = .ok (.folder entries)) (below : named? entries name = some tree)
    (notUp : name ≠ "..") : fs.get (path.child name) = .ok tree := by
  obtain ⟨anchor, parts⟩ := path
  cases anchor with
  | relative =>
    have extended := follow_child found below notUp
    rwa [List.append_assoc] at extended
  | root => exact follow_child found below notUp
  | doubleRoot => exact follow_child found below notUp

theorem read_of_get {fs : FileSystem} {path : SlashPath} {content : ByteArray}
    (found : fs.get path = .ok (.file content)) : fs.read path = .ok content := by
  simp [read, found]

section Related

/-- A relation of trees that goes on to what folders hold: a name leads in a related folder to a related tree. -/
structure GoesOn (R : FileTree → FileTree → Prop) : Prop where
  folder {entries : List (String × FileTree)} {tree : FileTree} :
    R (.folder entries) tree → ∃ entries', tree = .folder entries'
  into {entries entries' : List (String × FileTree)} {name : String} {tree : FileTree} :
    R (.folder entries) (.folder entries') → named? entries name = some tree →
      ∃ tree', named? entries' name = some tree' ∧ R tree tree'

variable {R : FileTree → FileTree → Prop} (goesOn : GoesOn R)
include goesOn

theorem step_related {trail trail' up : List FileTree} {tree tree' inner : FileTree} {part : String}
    (outer : List.Forall₂ R trail trail') (same : R tree tree') (next : step trail tree part = .ok (up, inner)) :
    ∃ up' inner', step trail' tree' part = .ok (up', inner') ∧ List.Forall₂ R up up' ∧ R inner inner' := by
  cases tree with
  | file content => cases next
  | folder entries =>
    obtain ⟨entries', rfl⟩ := goesOn.folder same
    simp only [step] at next ⊢
    split at next
    · rename_i isUp
      rw [if_pos isUp]
      cases outer with
      | nil =>
        cases next
        exact ⟨[], _, rfl, .nil, same⟩
      | cons first rest =>
        cases next
        exact ⟨_, _, rfl, rest, first⟩
    · rename_i notUp
      rw [if_neg notUp]
      cases found : named? entries part with
      | none =>
        rw [found] at next
        cases next
      | some below =>
        rw [found] at next
        cases next
        obtain ⟨below', found', related⟩ := goesOn.into same found
        rw [found']
        exact ⟨_, _, rfl, .cons same outer, related⟩

theorem follow_related {trail trail' : List FileTree} {tree tree' reached : FileTree} {parts : List String}
    (outer : List.Forall₂ R trail trail') (same : R tree tree') (found : follow trail tree parts = .ok reached) :
    ∃ reached', follow trail' tree' parts = .ok reached' ∧ R reached reached' := by
  induction parts generalizing trail trail' tree tree' with
  | nil =>
    cases found
    exact ⟨tree', rfl, same⟩
  | cons part parts ih =>
    rw [follow] at found
    cases next : step trail tree part with
    | error e =>
      rw [next] at found
      cases found
    | ok place =>
      rw [next] at found
      obtain ⟨up', inner', next', outer, same⟩ := step_related goesOn outer same next
      rw [follow, next']
      exact ih outer same found

/-- A path leads to related trees in related file systems. -/
theorem get_related {fs other : FileSystem} {path : SlashPath} {tree : FileTree}
    (working : other.workingDirectory = fs.workingDirectory) (same : R fs.root other.root)
    (found : fs.get path = .ok tree) : ∃ tree', other.get path = .ok tree' ∧ R tree tree' := by
  unfold get at found ⊢
  rw [working]
  split at found
  · exact follow_related goesOn .nil same found
  · exact follow_related goesOn .nil same found

end Related

theorem get_proper {fs : FileSystem} {path : SlashPath} {tree : FileTree} (proper : fs.root.Proper)
    (found : fs.get path = .ok tree) : tree.Proper := by
  have goesOn : GoesOn fun t t' => t.Proper ∧ t = t' := by
    constructor
    · rintro entries _ ⟨-, rfl⟩
      exact ⟨entries, rfl⟩
    · rintro entries _ name tree ⟨inside, ⟨⟩⟩ below
      exact ⟨tree, below, inside.inner _ (mem_of_named? below), rfl⟩
  obtain ⟨tree', -, proper, rfl⟩ := get_related goesOn rfl ⟨proper, rfl⟩ found
  exact proper

/-- A proper tree, and a working directory that a path could lead to. -/
structure Proper (fs : FileSystem) : Prop where
  root : fs.root.Proper
  workingDirectory : ∀ name ∈ fs.workingDirectory, IsEntryName name

/-- With every `..` undone, the names that lead to a path are names of entries. -/
theorem Proper.names {fs : FileSystem} {path : SlashPath} (proper : fs.Proper) (spelled : path.Spelled) :
    ∀ name ∈ fs.names path, IsEntryName name := by
  refine List.foldlRecOn (motive := fun names => ∀ name ∈ names, IsEntryName name) path.parts _ ?_ ?_
  · split
    · exact proper.workingDirectory
    · simp
  · intro before named part member name listed
    have isPart := spelled part member
    split at listed
    · exact named name (List.dropLast_subset _ listed)
    · rename_i notUp
      rcases List.mem_append.mp listed with listed | listed
      · exact named name listed
      · rw [List.mem_singleton.mp listed]
        exact ⟨isPart, by simpa using notUp⟩

theorem Proper.empty {workingDirectory : List String} (named : ∀ name ∈ workingDirectory, IsEntryName name) :
    (FileSystem.empty workingDirectory).Proper :=
  ⟨empty_proper.insertFolder named, named⟩

section Changes

variable {fs : FileSystem} {path : SlashPath}

theorem Proper.write (proper : fs.Proper) (spelled : path.Spelled) (content : ByteArray) :
    (fs.write path content).Proper :=
  ⟨proper.root.insert (proper.names spelled) (.file content), proper.workingDirectory⟩

theorem Proper.makeFolder (proper : fs.Proper) (spelled : path.Spelled) : (fs.makeFolder path).Proper :=
  ⟨proper.root.insertFolder (proper.names spelled), proper.workingDirectory⟩

theorem Proper.remove (proper : fs.Proper) (spelled : path.Spelled) : (fs.remove path).Proper :=
  ⟨proper.root.erase (proper.names spelled), proper.workingDirectory⟩

end Changes

/-- The same file system, with the entries of its folders listed in another order. -/
structure Reordered (fs other : FileSystem) : Prop where
  root : fs.root.Reordered other.root
  workingDirectory : other.workingDirectory = fs.workingDirectory

end FileSystem

end SliceGrowth
