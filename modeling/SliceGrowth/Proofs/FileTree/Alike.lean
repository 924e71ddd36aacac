import SliceGrowth.Proofs.FileTree

/-!
File trees that are alike up to parts that do not count: the contents of some files, and all that some folders hold.
Two paths with the same names lead to such trees at alike places, as long as no folder on the way is one of those.
-/
namespace SliceGrowth

namespace FileTree

/-- Trees at some names that differ at most in the contents of free files and in what hidden folders hold. The
entries of other folders are matched by name. -/
inductive AlikeBut (free hidden : List String → Prop) : List String → FileTree → FileTree → Prop
  | file {names : List String} {content content' : ByteArray} (same : content = content' ∨ free names) :
    AlikeBut free hidden names (.file content) (.file content')
  | hidden {names : List String} {entries entries' : List (String × FileTree)} (is : hidden names) :
    AlikeBut free hidden names (.folder entries) (.folder entries')
  | folder {names : List String} {entries entries' : List (String × FileTree)}
    (matched : List (String × FileTree × FileTree)) (left : entries.Perm (matched.map fun m => (m.1, m.2.1)))
    (right : entries'.Perm (matched.map fun m => (m.1, m.2.2)))
    (inner : ∀ m ∈ matched, AlikeBut free hidden (names ++ [m.1]) m.2.1 m.2.2) :
    AlikeBut free hidden names (.folder entries) (.folder entries')

variable {free hidden : List String → Prop} {names : List String}

theorem Reordered.alikeBut {tree tree' : FileTree} (same : tree.Reordered tree') :
    AlikeBut free hidden names tree tree' := by
  induction same generalizing names with
  | file content => exact .file (.inl rfl)
  | folder matched left right _ ih => exact .folder matched left right fun m member => ih m member

/-- Folders are alike if their entries are, one by one. -/
theorem AlikeBut.of_forall₂ {entries entries' : List (String × FileTree)}
    (each : List.Forall₂ (fun e e' => e.1 = e'.1 ∧ AlikeBut free hidden (names ++ [e.1]) e.2 e'.2) entries entries') :
    AlikeBut free hidden names (.folder entries) (.folder entries') := by
  obtain ⟨matched, left, right, inner⟩ : ∃ matched : List (String × FileTree × FileTree),
      entries = matched.map (fun m => (m.1, m.2.1)) ∧ entries' = matched.map (fun m => (m.1, m.2.2)) ∧
        ∀ m ∈ matched, AlikeBut free hidden (names ++ [m.1]) m.2.1 m.2.2 := by
    induction each with
    | nil => exact ⟨[], rfl, rfl, by simp⟩
    | @cons e e' _ _ first _ ih =>
      obtain ⟨matched, rfl, rfl, inner⟩ := ih
      refine ⟨(e.1, e.2, e'.2) :: matched, rfl, ?_, List.forall_mem_cons.mpr ⟨first.2, inner⟩⟩
      rw [List.map_cons, first.1]
  exact .folder matched (.of_eq left) (.of_eq right) inner

theorem AlikeBut.isFolder {tree tree' : FileTree} (same : AlikeBut free hidden names tree tree') :
    tree'.isFolder = tree.isFolder := by
  cases same <;> rfl

theorem AlikeBut.eq_folder {entries : List (String × FileTree)} {tree : FileTree}
    (same : AlikeBut free hidden names (.folder entries) tree) : ∃ entries', tree = .folder entries' := by
  cases same with
  | hidden => exact ⟨_, rfl⟩
  | folder => exact ⟨_, rfl⟩

theorem AlikeBut.named? {entries entries' : List (String × FileTree)} {name : String} {tree : FileTree}
    (proper : (FileTree.folder entries).Proper) (shown : ¬ hidden names)
    (same : AlikeBut free hidden names (.folder entries) (.folder entries'))
    (found : FileTree.named? entries name = some tree) :
    ∃ tree', FileTree.named? entries' name = some tree' ∧ AlikeBut free hidden (names ++ [name]) tree tree' := by
  cases same with
  | hidden is => exact absurd is shown
  | folder matched left right inner =>
    obtain ⟨tree', found', member⟩ := named?_of_matched left right proper.distinct found
    exact ⟨tree', found', inner _ member⟩

end FileTree

namespace FileSystem

open FileTree

/-- The names lead from the root to a tree, through the folders of the trail, the nearest first. -/
inductive Trail (root : FileTree) : List String → List FileTree → FileTree → Prop
  | here : Trail root [] [] root
  | into {names : List String} {trail : List FileTree} {entries : List (String × FileTree)} {name : String}
    {tree : FileTree} (outer : Trail root names trail (.folder entries)) (found : named? entries name = some tree) :
    Trail root (names ++ [name]) (.folder entries :: trail) tree

/-- The names after one more part of a path. -/
def nextNames (names : List String) (part : String) : List String :=
  if part == ".." then names.dropLast else names ++ [part]

theorem step_trail {root tree inner : FileTree} {names : List String} {trail up : List FileTree} {part : String}
    (led : Trail root names trail tree) (next : step trail tree part = .ok (up, inner)) :
    Trail root (nextNames names part) up inner := by
  cases tree with
  | file content => cases next
  | folder entries =>
    simp only [step] at next
    unfold nextNames
    split at next
    · rename_i isUp
      rw [if_pos isUp]
      cases led with
      | here =>
        cases next
        exact .here
      | into outer found =>
        cases next
        rwa [List.dropLast_concat]
    · rename_i notUp
      rw [if_neg notUp]
      cases found : named? entries part with
      | none =>
        rw [found] at next
        cases next
      | some below =>
        rw [found] at next
        cases next
        exact .into led found

theorem follow_trail {root tree reached : FileTree} {names parts : List String} {trail : List FileTree}
    (led : Trail root names trail tree) (found : follow trail tree parts = .ok reached) :
    ∃ trail', Trail root (parts.foldl nextNames names) trail' reached := by
  induction parts generalizing names trail tree with
  | nil =>
    cases found
    exact ⟨trail, led⟩
  | cons part parts ih =>
    rw [follow] at found
    cases next : step trail tree part with
    | error e =>
      rw [next] at found
      cases found
    | ok place =>
      rw [next] at found
      exact ih (step_trail led next) found

theorem foldl_nextNames {names : List String} (plain : ∀ name ∈ names, name ≠ "..") (before : List String) :
    names.foldl nextNames before = before ++ names := by
  induction names generalizing before with
  | nil => simp
  | cons name names ih =>
    have notUp : (name == "..") = false := beq_eq_false_iff_ne.mpr (plain name (by simp))
    rw [List.foldl_cons, ih (fun n member => plain n (by simp [member])), nextNames, notUp]
    simp

/-- A path leads to where its names lead. -/
theorem get_trail {fs : FileSystem} {path : SlashPath} {tree : FileTree}
    (plain : ∀ name ∈ fs.workingDirectory, name ≠ "..") (found : fs.get path = .ok tree) :
    ∃ trail, Trail fs.root (fs.names path) trail tree := by
  have led := fun parts (found : follow [] fs.root parts = .ok tree) => follow_trail .here found
  unfold get at found
  obtain ⟨anchor, parts⟩ := path
  cases anchor with
  | relative =>
    have whole := led _ found
    rwa [List.foldl_append, foldl_nextNames plain] at whole
  | root => exact led _ found
  | doubleRoot => exact led _ found

theorem Trail.eq_root {root tree : FileTree} {trail : List FileTree} (led : Trail root [] trail tree) :
    tree = root := by
  generalize start : [] = names at led
  cases led with
  | here => rfl
  | into => exact absurd start.symm (List.concat_ne_nil _ _)

theorem Trail.last {root tree : FileTree} {names : List String} {name : String} {trail : List FileTree}
    (led : Trail root (names ++ [name]) trail tree) :
    ∃ trail' entries, Trail root names trail' (.folder entries) ∧ named? entries name = some tree := by
  generalize whole : names ++ [name] = all at led
  cases led with
  | here => exact absurd whole (List.concat_ne_nil _ _)
  | into outer found =>
    obtain ⟨rfl, same⟩ := List.append_inj' whole rfl
    cases same
    exact ⟨_, _, outer, found⟩

theorem Trail.proper {root tree : FileTree} {names : List String} {trail : List FileTree}
    (led : Trail root names trail tree) (proper : root.Proper) : tree.Proper := by
  induction led with
  | here => exact proper
  | into _ found ih => exact ih.inner _ (mem_of_named? found)

/-- Alike trees are alike wherever the same names lead, but inside of hidden folders. -/
theorem Trail.alikeBut {free hidden : List String → Prop} {root root' tree tree' : FileTree} {names : List String}
    {trail trail' : List FileTree} (proper : root.Proper) (same : AlikeBut free hidden [] root root')
    (led : Trail root names trail tree) (led' : Trail root' names trail' tree')
    (shown : ∀ front back, names = front ++ back → back ≠ [] → ¬ hidden front) :
    AlikeBut free hidden names tree tree' := by
  induction led generalizing trail' tree' with
  | here => rwa [led'.eq_root]
  | @into names trail entries name tree outer found ih =>
    obtain ⟨_, entries', outer', found'⟩ := led'.last
    have alike := ih outer' fun front back split rest =>
      shown front (back ++ [name]) (by rw [split, List.append_assoc]) (List.concat_ne_nil _ _)
    have here : ¬ hidden names := shown names [name] rfl (List.cons_ne_nil _ _)
    obtain ⟨_, below, inner⟩ := alike.named? (outer.proper proper) here found
    rw [found'] at below
    cases below
    exact inner

end FileSystem

end SliceGrowth
