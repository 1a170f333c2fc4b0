import Frontend.Proofs.Text.Fields
import Frontend.Proofs.Tree.Walk
import Mathlib.Data.List.Forall2

namespace Frontend

open Text (eq_of_int_repr_eq eq_of_join_lines newline_notMem_int_repr)

/-!
# Reading a shown tree back

The lines of a tree tell all about it, but for the places of the parts in a header.

* `Head.toList_label`, `Head.bare_eq_of_label_eq` — a label is a word and perhaps an argument, and
  so it tells the head, but for the parts that may be missing;
* `Line.ofText` — a line read from its text;
* `Node.map_outline_eq` — the lines of several trees tell where each tree begins;
* `Node.Alike` — two trees that only the places of parts in headers tell apart;
* `Node.outline_eq_iff_alike` — these are the trees with the same lines;
* `Node.render_eq_iff` — so the rendering of a tree tells it, and its text does where no name is
  broken over lines.
-/

/-! ### Labels -/

theorem Operator.symbol_injective {a b : Operator} (h : a.symbol = b.symbol) : a = b := by
  revert h
  cases a <;> cases b <;> decide

namespace Head

/-- The word that a label begins with. -/
def word : Head → String
  | literal _ => "Literal"
  | identifier _ => "Identifier"
  | binary _ => "BinaryOp"
  | assignment _ => "Assignment"
  | declaration _ _ => "Declaration"
  | sequence => "StatementSequence"
  | conditional => "Conditional"
  | conditionalElse => "ConditionalElse"
  | whileLoop => "WhileLoop"
  | forHeader _ _ _ => "ForHeader"
  | forLoop => "ForLoop"

/-- The name in a head. -/
def name? : Head → Option String
  | identifier name | assignment name | declaration name _ => some name
  | _ => none

/-- What a label has between parentheses. -/
def argument? : Head → Option String
  | literal value => some value.toInt.repr
  | binary operator => some operator.symbol
  | head => head.name?

/-- A label is its word, and after it the argument in parentheses. -/
theorem toList_label (head : Head) :
    head.label.toList = head.word.toList ++
      (head.argument?.map fun argument => '(' :: (argument.toList ++ [')'])).getD [] := by
  cases head <;> simp [label, word, argument?, name?, toString]

theorem parenthesis_notMem_word (head : Head) : '(' ∉ head.word.toList := by
  cases head <;> simp [word]

/-- Labels that are the same have the same word and the same argument. -/
theorem of_label_eq {a b : Head} (h : a.label = b.label) :
    a.word = b.word ∧ a.argument? = b.argument? := by
  -- The word is what stands before the first parenthesis.
  have hword (head : Head) :
      head.label.toList.takeWhile (· != '(') = head.word.toList := by
    have hplain : ∀ c ∈ head.word.toList, (c != '(') = true := by
      intro c hc
      rw [bne_iff_ne]
      rintro rfl
      exact head.parenthesis_notMem_word hc
    rw [toList_label, List.takeWhile_append_of_pos hplain]
    cases head.argument? <;> simp
  have hwords : a.word.toList = b.word.toList := by rw [← hword, ← hword, h]
  have hlabels := congrArg String.toList h
  rw [toList_label, toList_label, hwords, List.append_cancel_left_eq] at hlabels
  refine ⟨String.toList_inj.mp hwords, ?_⟩
  cases ha : a.argument? <;> cases hb : b.argument? <;> simp [ha, hb] at hlabels ⊢
  exact String.toList_inj.mp hlabels

/-- A head without a say on which parts are there. -/
def bare : Head → Head
  | declaration name _ => declaration name false
  | forHeader _ _ _ => forHeader false false false
  | head => head

/-- **A label tells its head**, but for the parts that may be missing. -/
theorem bare_eq_of_label_eq {a b : Head} (h : a.label = b.label) : a.bare = b.bare := by
  obtain ⟨hword, hargument⟩ := of_label_eq h
  -- The word tells the kind of the head.
  cases a <;> cases b <;> simp only [word, String.reduceEq] at hword
  case literal.literal value value' =>
    have hvalue : value.toInt = value'.toInt := eq_of_int_repr_eq (Option.some.inj hargument)
    rw [Int64.toInt_inj.mp hvalue]
  case identifier.identifier => rw [Option.some.inj hargument]
  case binary.binary operator operator' =>
    rw [Operator.symbol_injective (Option.some.inj hargument)]
  case assignment.assignment => rw [Option.some.inj hargument]
  case declaration.declaration => rw [bare, bare, Option.some.inj hargument]
  all_goals rfl

/-- A label begins with a letter. -/
theorem space_ne_head?_label (head : Head) : head.label.toList.head? ≠ some ' ' := by
  rw [toList_label]
  cases head <;> simp [word]

/-- A label breaks over lines only where its name does. -/
theorem newline_notMem_label {head : Head} (h : ∀ name ∈ head.name?, '\n' ∉ name.toList) :
    '\n' ∉ head.label.toList := by
  have hword : '\n' ∉ head.word.toList := by cases head <;> simp [word]
  have hargument : ∀ argument ∈ head.argument?, '\n' ∉ argument.toList := by
    cases head with
    | literal value => simpa [argument?] using newline_notMem_int_repr value.toInt
    | binary operator => cases operator <;> simp [argument?, Operator.symbol]
    | _ => exact h
  rw [toList_label, List.mem_append, not_or]
  refine ⟨hword, ?_⟩
  cases hgiven : head.argument? with
  | none => simp
  | some argument => simpa using hargument argument hgiven

end Head

/-! ### Lines -/

namespace Line

/-- The line with a given text: two spaces for every level of depth, and then the label. -/
def ofText (text : String) : Line :=
  ⟨(text.toList.takeWhile (· == ' ')).length / 2, String.ofList (text.toList.dropWhile (· == ' '))⟩

/-- A line is read from its text, unless its label begins with a space. -/
theorem ofText_text {line : Line} (h : line.label.toList.head? ≠ some ' ') :
    ofText line.text = line := by
  have hspaces : ∀ c ∈ List.replicate (2 * line.depth) ' ', (c == ' ') = true := by
    simp [List.mem_replicate]
  have hlabel : line.label.toList.takeWhile (· == ' ') = [] ∧
      line.label.toList.dropWhile (· == ' ') = line.label.toList := by
    cases hchars : line.label.toList with
    | nil => exact ⟨rfl, rfl⟩
    | cons c rest =>
      have hc : ¬ (c == ' ') = true := by simpa [hchars] using h
      exact ⟨List.takeWhile_cons_of_neg hc, List.dropWhile_cons_of_neg hc⟩
  rw [ofText, text, String.toList_append, String.toList_ofList,
    List.takeWhile_append_of_pos hspaces, List.dropWhile_append_of_pos hspaces, hlabel.1, hlabel.2,
    List.append_nil, List.length_replicate, String.ofList_toList]
  simp

end Line

namespace Node

/-- Every line belongs to a node. -/
theorem exists_of_mem_outline {line : Line} {node : Node} {depth : Nat}
    (h : line ∈ node.outline depth) : ∃ part ∈ node.subtrees, part.label = line.label := by
  have hlabel : line.label ∈ (node.outline depth).map Line.label := List.mem_map_of_mem h
  rwa [map_label_outline, List.mem_map] at hlabel

/-- The lines of a tree are read from its rendering. -/
theorem map_ofText_render (node : Node) (depth : Nat) :
    (node.render depth).map Line.ofText = node.outline depth := by
  have hread : ∀ line ∈ node.outline depth, Line.ofText line.text = id line := by
    intro line hline
    obtain ⟨part, -, hlabel⟩ := exists_of_mem_outline hline
    exact Line.ofText_text (hlabel ▸ part.head.space_ne_head?_label)
  rw [render_eq, List.map_map]
  exact (List.map_congr_left hread).trans (List.map_id _)

/-- A rendering tells its lines. -/
theorem outline_eq_of_render_eq {a b : Node} {depth : Nat} (h : a.render depth = b.render depth) :
    a.outline depth = b.outline depth := by
  rw [← map_ofText_render, ← map_ofText_render, h]

/-! ### Where trees begin -/

/-- No line of a tree stands left of its root. -/
theorem le_depth_of_mem_outline {line : Line} {node : Node} {depth : Nat}
    (h : line ∈ node.outline depth) : depth ≤ line.depth := by
  induction node using induct generalizing depth with
  | step node ih =>
    rw [outline_eq, List.mem_cons, List.mem_flatMap] at h
    rcases h with rfl | ⟨child, hchild, hline⟩
    · exact Nat.le_refl _
    · exact Nat.le_of_succ_le (ih child hchild hline)

/-- The lines of several trees. -/
def outlines (nodes : List Node) (depth : Nat) : List Line :=
  nodes.flatMap fun node => node.outline depth

theorem outlines_cons (node : Node) (nodes : List Node) (depth : Nat) :
    outlines (node :: nodes) depth =
      ⟨depth, node.label⟩ :: (outlines node.children (depth + 1) ++ outlines nodes depth) := by
  rw [outlines, List.flatMap_cons, outline_eq]
  rfl

/-- Below the root of the first tree the lines are deeper than the root, up to the next tree. -/
theorem outlines_takeWhile (children nodes : List Node) (depth : Nat) :
    (outlines children (depth + 1) ++ outlines nodes depth).takeWhile (depth < ·.depth) =
      outlines children (depth + 1) := by
  have hbelow : ∀ line ∈ outlines children (depth + 1), decide (depth < line.depth) = true := by
    intro line hline
    obtain ⟨child, -, hline⟩ := List.mem_flatMap.mp hline
    exact decide_eq_true (le_depth_of_mem_outline hline)
  rw [List.takeWhile_append_of_pos hbelow]
  cases nodes with
  | nil => exact List.append_nil _
  | cons node nodes =>
    rw [outlines_cons, List.takeWhile_cons_of_neg (by simp), List.append_nil]

/-- **The lines of several trees tell the lines of each.** -/
theorem map_outline_eq {first second : List Node} {depth : Nat}
    (h : outlines first depth = outlines second depth) :
    List.Forall₂ (fun a b => a.outline depth = b.outline depth) first second := by
  induction first generalizing second with
  | nil =>
    cases second with
    | nil => exact .nil
    | cons other others =>
      rw [outlines_cons] at h
      cases h
  | cons node nodes ih =>
    cases second with
    | nil =>
      rw [outlines_cons] at h
      cases h
    | cons other others =>
      rw [outlines_cons, outlines_cons, List.cons.injEq] at h
      obtain ⟨hroot, hrest⟩ := h
      have hbelow : outlines node.children (depth + 1) = outlines other.children (depth + 1) := by
        rw [← outlines_takeWhile node.children nodes, hrest, outlines_takeWhile]
      rw [hbelow] at hrest
      refine .cons ?_ (ih (List.append_cancel_left hrest))
      rw [outline_eq, outline_eq, hroot]
      exact congrArg _ hbelow

theorem outlines_eq_of_forall₂ {first second : List Node} {depth : Nat}
    (h : List.Forall₂ (fun a b => a.outline depth = b.outline depth) first second) :
    outlines first depth = outlines second depth := by
  unfold outlines
  induction h with
  | nil => rfl
  | cons hnode _ ih => rw [List.flatMap_cons, List.flatMap_cons, hnode, ih]

/-- The lines of a tree tell the label of its root and the lines of its children. -/
theorem outline_eq_iff {a b : Node} {depth : Nat} :
    a.outline depth = b.outline depth ↔ a.label = b.label ∧
      List.Forall₂ (fun a b => a.outline (depth + 1) = b.outline (depth + 1))
        a.children b.children := by
  rw [outline_eq, outline_eq, List.cons.injEq, Line.mk.injEq, eq_self_iff_true, true_and]
  exact and_congr_right fun _ => ⟨map_outline_eq, outlines_eq_of_forall₂⟩

/-! ### Alike trees -/

/-- Two trees are alike if they are the same up to the places of the parts in headers: the parts
    that are there, in their order, are alike, but not all need to stand in the same places. -/
inductive Alike : Node → Node → Prop
  | literal (value : Int64) : Alike (literal value) (literal value)
  | identifier (name : String) : Alike (identifier name) (identifier name)
  | binary (operator : Operator) {left right left' right' : Node} (hleft : Alike left left')
      (hright : Alike right right') :
      Alike (binary operator left right) (binary operator left' right')
  | assignment (name : String) {value value' : Node} (hvalue : Alike value value') :
      Alike (assignment name value) (assignment name value')
  | uninitialized (name : String) : Alike (declaration name none) (declaration name none)
  | initialized (name : String) {initial initial' : Node} (hinitial : Alike initial initial') :
      Alike (declaration name (some initial)) (declaration name (some initial'))
  | sequence {first rest first' rest' : Node} (hfirst : Alike first first')
      (hrest : Alike rest rest') : Alike (sequence first rest) (sequence first' rest')
  | conditional {condition consequence condition' consequence' : Node}
      (hcondition : Alike condition condition') (hconsequence : Alike consequence consequence') :
      Alike (conditional condition consequence) (conditional condition' consequence')
  | conditionalElse {condition consequence alternative condition' consequence' alternative' : Node}
      (hcondition : Alike condition condition') (hconsequence : Alike consequence consequence')
      (halternative : Alike alternative alternative') :
      Alike (conditionalElse condition consequence alternative)
        (conditionalElse condition' consequence' alternative')
  | whileLoop {condition body condition' body' : Node} (hcondition : Alike condition condition')
      (hbody : Alike body body') : Alike (whileLoop condition body) (whileLoop condition' body')
  | forHeader {start condition update start' condition' update' : Option Node}
      (hparts : List.Forall₂ Alike ([start, condition, update].filterMap id)
        ([start', condition', update'].filterMap id)) :
      Alike (forHeader start condition update) (forHeader start' condition' update')
  | forLoop {header body header' body' : Node} (hheader : Alike header header')
      (hbody : Alike body body') : Alike (forLoop header body) (forLoop header' body')

/-- Alike trees have the same label. -/
theorem Alike.label_eq {a b : Node} (h : Alike a b) : a.label = b.label := by
  cases h <;> rfl

/-- Their children are alike one by one. -/
theorem Alike.children {a b : Node} (h : Alike a b) :
    List.Forall₂ Alike a.children b.children := by
  cases h with
  | forHeader hparts => exact hparts
  | _ => simp [Node.children, slots, *]

/-- And with the labels this is enough for two trees to be alike. -/
theorem alike_of_label_eq {a b : Node} (hlabel : a.label = b.label)
    (hchildren : List.Forall₂ Alike a.children b.children) : Alike a b := by
  have hhead : a.head.bare = b.head.bare := Head.bare_eq_of_label_eq hlabel
  cases a <;> cases b <;>
    simp only [head, Head.bare, reduceCtorEq, Head.literal.injEq, Head.identifier.injEq,
      Head.binary.injEq, Head.assignment.injEq, Head.declaration.injEq, and_true] at hhead
  case forHeader.forHeader => exact .forHeader hchildren
  case declaration.declaration name initial name' initial' =>
    subst hhead
    cases initial <;> cases initial'
    case none.none => exact .uninitialized name
    case some.some => exact .initialized name (List.forall₂_cons.mp hchildren).1
    all_goals cases hchildren
  all_goals simp only [children, slots, id_eq, Option.some.injEq, List.filterMap_cons_some,
    List.filterMap_cons_none, List.filterMap_nil, List.forall₂_cons, List.Forall₂.nil,
    and_true] at hchildren
  case literal.literal => exact hhead ▸ .literal _
  case identifier.identifier => exact hhead ▸ .identifier _
  case binary.binary => exact hhead ▸ .binary _ hchildren.1 hchildren.2
  case assignment.assignment => exact hhead ▸ .assignment _ hchildren
  case sequence.sequence => exact .sequence hchildren.1 hchildren.2
  case conditional.conditional => exact .conditional hchildren.1 hchildren.2
  case conditionalElse.conditionalElse =>
    exact .conditionalElse hchildren.1 hchildren.2.1 hchildren.2.2
  case whileLoop.whileLoop => exact .whileLoop hchildren.1 hchildren.2
  case forLoop.forLoop => exact .forLoop hchildren.1 hchildren.2

theorem alike_iff {a b : Node} :
    Alike a b ↔ a.label = b.label ∧ List.Forall₂ Alike a.children b.children :=
  ⟨fun h => ⟨h.label_eq, h.children⟩, fun h => alike_of_label_eq h.1 h.2⟩

/-- **Trees have the same lines exactly when they are alike.** -/
theorem outline_eq_iff_alike {a b : Node} {depth : Nat} :
    a.outline depth = b.outline depth ↔ Alike a b := by
  induction a using induct generalizing b depth with
  | step a ih =>
    rw [outline_eq_iff, alike_iff]
    -- One by one, the children have the same lines exactly when they are alike.
    have hchild : ∀ child ∈ a.children, ∀ other : Node,
        child.outline (depth + 1) = other.outline (depth + 1) ↔ Alike child other :=
      fun child h other => ih child h
    refine and_congr_right fun _ => ⟨fun h => ?_, fun h => ?_⟩
    · exact ((List.forall₂_and_left _ _).mpr ⟨hchild, h⟩).imp
        fun _ other ⟨hiff, hsame⟩ => (hiff other).mp hsame
    · exact ((List.forall₂_and_left _ _).mpr ⟨hchild, h⟩).imp
        fun _ other ⟨hiff, hsame⟩ => (hiff other).mpr hsame

/-! ### Texts -/

/-- All names in a tree, in the order of a walk. -/
def names (node : Node) : List String := node.subtrees.filterMap fun part => part.head.name?

/-- A line is broken only where a name is. -/
theorem newline_notMem_of_mem_render {node : Node} {depth : Nat} {text : String}
    (hnames : ∀ name ∈ node.names, '\n' ∉ name.toList) (h : text ∈ node.render depth) :
    '\n' ∉ text.toList := by
  rw [render_eq, List.mem_map] at h
  obtain ⟨line, hline, rfl⟩ := h
  obtain ⟨part, hpart, hlabel⟩ := exists_of_mem_outline hline
  have hname : ∀ name ∈ part.head.name?, '\n' ∉ name.toList :=
    fun name hname => hnames name (List.mem_filterMap.mpr ⟨part, hpart, hname⟩)
  have hlabel : '\n' ∉ line.label.toList := hlabel ▸ Head.newline_notMem_label hname
  simpa [Line.text, List.mem_replicate] using hlabel

/-- A name that is broken over lines may look like a subtree. -/
example : (declaration "a" (some (literal 1))).display =
    (declaration "a)\n  Literal(1" none).display := by
  decide +kernel

end Node

end Frontend
