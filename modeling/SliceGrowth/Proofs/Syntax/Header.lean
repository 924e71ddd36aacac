import SliceGrowth.Proofs.Text.Words
import SliceGrowth.Syntax.Header

/-!
The head of a file. It is decided by the comments that a file opens with and the one node after them: the first
build line among the comments gives the constraint, and the node gives the package if it is a clause. This is
also what is found by going through the nodes one by one.
-/
namespace SliceGrowth.Syntax

/-- The named children of a node are these comments and no further comment, and then comes `next`. -/
structure Node.Opens (root : Node) (comments : List Node) (next : Option Node) : Prop where
  split : ∃ rest, root.namedChildren = comments ++ rest ∧ next = rest.head?
  allComments : ∀ n ∈ comments, n.kind = "comment"
  noMore : ∀ n ∈ next, n.kind ≠ "comment"

/-- The first word of a comment is the directive. -/
def IsBuildLine (comment : String) : Prop := (Text.words comment).head? = some buildDirective

/-- The line is what a comment says after the directive, without the blanks around it. -/
def CarriesLine (comment line : String) : Prop :=
  ∃ after, Text.BeginsWithWord comment.toList buildDirective.toList after ∧ Text.Strips after line.toList

def Node.IsPackageName (n : Node) : Prop := n.kind = "package_identifier" ∨ n.kind = "identifier"

def Node.HasFirstName (clause n : Node) : Prop :=
  n.IsPackageName ∧ ∃ before after, clause.namedChildren = before ++ n :: after ∧ ∀ m ∈ before, ¬ m.IsPackageName

/-- What a header says of a file that opens with these comments and `next`. -/
structure HeaderOf (source : ByteArray) (comments : List Node) (next : Option Node) (h : Header) : Prop where
  package : ∀ name, h.packageName = some name ↔ ∃ clause ∈ next, clause.kind = "package_clause" ∧
    ∃ n, clause.HasFirstName n ∧ spanText source n.span = name
  unconstrained : h.constraint = none ↔ ∀ n ∈ comments, ¬ IsBuildLine (spanText source n.span)
  constrained : ∀ line, h.constraint = some line ↔ ∃ before n after, comments = before ++ n :: after ∧
    (∀ m ∈ before, ¬ IsBuildLine (spanText source m.span)) ∧ CarriesLine (spanText source n.span) line

section Lines

variable {comment line : String}

theorem constraintOf?_eq_some_iff : constraintOf? comment = some line ↔ CarriesLine comment line := by
  rw [CarriesLine, ← Text.firstWord?_eq_some_iff]
  unfold constraintOf?
  cases Text.firstWord? comment with
  | none => simp
  | some found =>
    obtain ⟨word, rest⟩ := found
    simp only [Option.ite_none_right_eq_some, beq_iff_eq, Option.some.injEq, Prod.mk.injEq]

theorem isBuildLine_iff : IsBuildLine comment ↔ ∃ line, CarriesLine comment line := by
  rw [IsBuildLine, Text.head?_words_eq_some_iff]
  constructor
  · rintro ⟨after, begins⟩
    exact ⟨Text.trim (String.ofList after), after, begins, by simpa [Text.trim] using Text.trim_strips after⟩
  · rintro ⟨line, after, begins, -⟩
    exact ⟨after, begins⟩

theorem constraintOf?_eq_none_iff : constraintOf? comment = none ↔ ¬ IsBuildLine comment := by
  simp only [isBuildLine_iff, ← constraintOf?_eq_some_iff, Option.eq_none_iff_forall_ne_some, not_exists]

end Lines

theorem packageNameOf?_eq_some_iff {source : ByteArray} {clause : Node} {name : String} :
    packageNameOf? source clause = some name ↔ ∃ n, clause.HasFirstName n ∧ spanText source n.span = name := by
  simp only [packageNameOf?, Option.map_eq_some_iff, List.find?_eq_some_iff_append, Node.HasFirstName,
    Node.IsPackageName, Bool.or_eq_true, beq_iff_eq, Bool.not_eq_true', Bool.or_eq_false_iff, beq_eq_false_iff_ne,
    not_or]

/-- The header of a file that opens with these comments and `next`. -/
def headerFrom (source : ByteArray) (comments : List Node) (next : Option Node) : Header where
  packageName := (next.filter (·.kind == "package_clause")).bind (packageNameOf? source)
  constraint := comments.findSome? fun n => constraintOf? (spanText source n.span)

theorem headerFrom_spec (source : ByteArray) (comments : List Node) (next : Option Node) :
    HeaderOf source comments next (headerFrom source comments next) where
  package name := by
    simp only [headerFrom, Option.bind_eq_some_iff, Option.filter_eq_some_iff, packageNameOf?_eq_some_iff,
      beq_iff_eq, Option.mem_def, and_assoc]
  unconstrained := by
    simp only [headerFrom, List.findSome?_eq_none_iff, constraintOf?_eq_none_iff]
  constrained line := by
    simp only [headerFrom, List.findSome?_eq_some_iff, constraintOf?_eq_some_iff, constraintOf?_eq_none_iff]
    simp only [and_comm]

namespace Node

theorem exists_opens (root : Node) : ∃ comments next, root.Opens comments next := by
  refine ⟨root.namedChildren.takeWhile (·.isComment), (root.namedChildren.dropWhile (·.isComment)).head?, ?_, ?_, ?_⟩
  · exact ⟨_, List.takeWhile_append_dropWhile.symm, rfl⟩
  · intro n member
    have comment : n.isComment = true := List.mem_takeWhile_imp member
    exact eq_of_beq comment
  · intro n first
    exact ne_of_beq_false (Text.stops_of_dropWhile (·.isComment) root.namedChildren n first)

theorem Opens.header_eq {root : Node} {comments : List Node} {next : Option Node} (opens : root.Opens comments next)
    (source : ByteArray) : header source root = headerFrom source comments next := by
  obtain ⟨⟨rest, split, rfl⟩, allComments, noMore⟩ := opens
  have inside : ∀ n ∈ comments, n.isComment = true := fun n member => beq_of_eq (allComments n member)
  have stops : ∀ n ∈ rest.head?, n.isComment = false := fun n first => beq_false_of_ne (noMore n first)
  unfold header
  rw [split, Text.takeWhile_append_of_stop inside stops, Text.dropWhile_append_of_stop inside stops]
  rfl

end Node

section InTurn

variable {source : ByteArray}

/-- The header read node by node. A clause ends the reading, as does any other node that is no comment, and of the
build lines on the way the first is remembered. -/
def headerInTurn (source : ByteArray) (remembered : Option String) : List Node → Header
  | [] => ⟨none, remembered⟩
  | n :: rest =>
    if n.kind = "package_clause" then ⟨packageNameOf? source n, remembered⟩
    else if n.kind = "comment" then
      headerInTurn source (remembered.or (constraintOf? (spanText source n.span))) rest
    else ⟨none, remembered⟩

theorem headerInTurn_of_stop {rest : List Node} (noMore : ∀ n ∈ rest.head?, n.kind ≠ "comment")
    (remembered : Option String) : headerInTurn source remembered rest =
      ⟨(rest.head?.filter (·.kind == "package_clause")).bind (packageNameOf? source), remembered⟩ := by
  cases rest with
  | nil => rfl
  | cons n rest =>
    by_cases clause : n.kind = "package_clause"
    · simp [headerInTurn, clause, Option.filter]
    · simp [headerInTurn, clause, noMore n rfl, Option.filter]

theorem headerInTurn_append {comments rest : List Node} (allComments : ∀ n ∈ comments, n.kind = "comment")
    (remembered : Option String) : headerInTurn source remembered (comments ++ rest) =
      headerInTurn source (remembered.or (comments.findSome? fun n => constraintOf? (spanText source n.span))) rest := by
  induction comments generalizing remembered with
  | nil => simp
  | cons n comments ih =>
    have comment : n.kind = "comment" := allComments n List.mem_cons_self
    have notClause : n.kind ≠ "package_clause" := by simp [comment]
    rw [List.cons_append, headerInTurn, if_neg notClause, if_pos comment,
      ih fun m member => allComments m (List.mem_cons_of_mem n member), Option.or_assoc, List.findSome?_cons]
    cases constraintOf? (spanText source n.span) <;> rfl

theorem header_eq_inTurn (source : ByteArray) (root : Node) :
    header source root = headerInTurn source none root.namedChildren := by
  obtain ⟨comments, next, opens⟩ := root.exists_opens
  rw [opens.header_eq source]
  obtain ⟨⟨rest, split, rfl⟩, allComments, noMore⟩ := opens
  rw [split, headerInTurn_append allComments, headerInTurn_of_stop noMore, Option.none_or]
  rfl

/-- Nothing after a clause is read, wherever the clause stands. -/
theorem headerInTurn_upTo_clause {front : List Node} {clause : Node} (kind : clause.kind = "package_clause")
    (later : List Node) (remembered : Option String) :
    headerInTurn source remembered (front ++ clause :: later) = headerInTurn source remembered (front ++ [clause]) := by
  induction front generalizing remembered with
  | nil => simp [headerInTurn, kind]
  | cons n front ih => simp only [List.cons_append, headerInTurn, ih]

end InTurn

/-- A header is what the opening of a file says. Files that open alike have the same header, and what stands after
the package clause has no part in it. -/
theorem header_decided_by_opening (source : ByteArray) (root : Node) :
    header source root = headerInTurn source none root.namedChildren ∧
    (∃ comments next, root.Opens comments next) ∧
    (∀ comments next, root.Opens comments next → HeaderOf source comments next (header source root)) ∧
    (∀ comments next other, root.Opens comments next → other.Opens comments next →
      header source other = header source root) ∧
    ∀ front clause later, root.namedChildren = front ++ clause :: later → clause.kind = "package_clause" →
      header source { root with children := front ++ [clause] } = header source root := by
  refine ⟨header_eq_inTurn source root, root.exists_opens, ?_, ?_, ?_⟩
  · intro comments next opens
    rw [opens.header_eq source]
    exact headerFrom_spec source comments next
  · intro comments next other opens opens'
    rw [opens.header_eq source, opens'.header_eq source]
  · intro front clause later split kind
    have named : (front ++ [clause]).filter (·.named) = front ++ [clause] := by
      apply List.filter_eq_self.mpr
      intro n member
      have begins : front ++ [clause] <+: root.namedChildren := ⟨later, by rw [split, List.append_assoc]; rfl⟩
      exact (List.mem_filter.mp (begins.subset member)).2
    rw [header_eq_inTurn, header_eq_inTurn, split, headerInTurn_upTo_clause kind, Node.namedChildren, named]

def directedSource : ByteArray :=
  "//go:buildx\n//go:build a b \n//go:build c\npackage p\n//go:build d".toUTF8

/-- A comment that only begins like the directive, and two build lines. -/
def directedComments : List Node :=
  [{ kind := "comment", span := ⟨0, 11, 0, 0⟩ }, { kind := "comment", span := ⟨12, 27, 1, 0⟩ },
    { kind := "comment", span := ⟨28, 40, 2, 0⟩ }]

def directedClause : Node where
  kind := "package_clause"
  span := ⟨41, 50, 3, 0⟩
  children := [{ kind := "package", span := ⟨41, 48, 3, 0⟩, named := false },
    { kind := "package_identifier", span := ⟨49, 50, 3, 8⟩ }]

/-- The file with one more build line, after the clause. -/
def directedRoot : Node where
  kind := "source_file"
  span := ⟨0, 63, 0, 0⟩
  children := directedComments ++ [directedClause, { kind := "comment", span := ⟨51, 63, 4, 0⟩ }]

theorem header_decided_by_opening_directed :
    directedRoot.Opens directedComments (some directedClause) ∧
      HeaderOf directedSource directedComments (some directedClause) (header directedSource directedRoot) ∧
      header directedSource { directedRoot with children := directedComments ++ [directedClause] } =
        header directedSource directedRoot ∧
      header directedSource directedRoot = ⟨some "p", some "a b"⟩ := by
  have opens : directedRoot.Opens directedComments (some directedClause) :=
    ⟨⟨_, rfl, rfl⟩, by simp [directedComments], by simp [directedClause]⟩
  obtain ⟨-, -, decided, -, upToClause⟩ := header_decided_by_opening directedSource directedRoot
  exact ⟨opens, decided _ _ opens, upToClause directedComments directedClause _ rfl rfl, rfl⟩

end SliceGrowth.Syntax
