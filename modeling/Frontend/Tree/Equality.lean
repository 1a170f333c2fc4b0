import Frontend.Tree.Basic

namespace Frontend

/-!
# Comparing trees

* `sameTrees` — whether in each of several pairs the two trees are equal, by a worklist;
* `Node.decEq` — equality of nodes is decidable (`sameTrees_iff`).

The worklist holds the pairs still to be compared, so that trees of any height can be compared.
-/

namespace Node

/-- Nodes with the same head have equally many children. -/
theorem length_children_eq {a b : Node} (h : a.head = b.head) :
    a.children.length = b.children.length := by
  cases a <;> cases b <;> simp_all [head, children, slots]
  case declaration.declaration =>
    rename_i a _ b
    cases a <;> cases b <;> simp_all
  case forHeader.forHeader =>
    rename_i a1 a2 a3 b1 b2 b3
    cases a1 <;> cases a2 <;> cases a3 <;> cases b1 <;> cases b2 <;> cases b3 <;> simp_all

end Node

private theorem totalSize_zip_le (as bs : List Node) :
    Node.totalSize ((as.zip bs).map Prod.fst) ≤ Node.totalSize as := by
  induction as generalizing bs with
  | nil => simp
  | cons a as ih =>
    cases bs with
    | nil => simp
    | cons b bs =>
      have := ih bs
      simp only [List.zip_cons_cons, List.map_cons, Node.totalSize_cons]
      omega

/-- Whether the two trees of every pair are equal.  Equal heads leave the children to be
    compared. -/
def sameTrees : List (Node × Node) → Bool
  | [] => true
  | (a, b) :: rest =>
    if a.head = b.head then sameTrees (a.children.zip b.children ++ rest) else false
termination_by pairs => Node.totalSize (pairs.map Prod.fst)
decreasing_by
  have := totalSize_zip_le a.children b.children
  simp only [List.map_append, Node.totalSize_append, List.map_cons, Node.totalSize_cons,
    Node.size_eq a]
  omega

/-- Lists of the same length are equal when their elements are equal in pairs. -/
private theorem eq_of_zip_eq {as bs : List Node} (hlength : as.length = bs.length)
    (h : ∀ pair ∈ as.zip bs, pair.1 = pair.2) : as = bs := by
  induction as generalizing bs with
  | nil => exact (List.eq_nil_of_length_eq_zero hlength.symm).symm
  | cons a as ih =>
    cases bs with
    | nil => simp at hlength
    | cons b bs =>
      simp only [List.zip_cons_cons, List.mem_cons, forall_eq_or_imp] at h
      rw [h.1, ih (by simpa using hlength) h.2]

private theorem eq_of_mem_zip_self {as : List Node} {pair : Node × Node} (h : pair ∈ as.zip as) :
    pair.1 = pair.2 := by
  induction as with
  | nil => simp at h
  | cons a as ih =>
    simp only [List.zip_cons_cons, List.mem_cons] at h
    rcases h with rfl | h
    · rfl
    · exact ih h

theorem sameTrees_iff (pairs : List (Node × Node)) :
    sameTrees pairs = true ↔ ∀ pair ∈ pairs, pair.1 = pair.2 := by
  fun_induction sameTrees pairs with
  | case1 => simp
  | case2 a b rest hhead ih =>
    rw [ih]
    simp only [List.mem_append, List.mem_cons, forall_eq_or_imp]
    constructor
    · intro h
      exact ⟨Node.eq_of_head_eq hhead
        (eq_of_zip_eq (Node.length_children_eq hhead) fun pair hp => h pair (.inl hp)),
        fun pair hp => h pair (.inr hp)⟩
    · rintro ⟨rfl, h⟩ pair (hp | hp)
      · exact eq_of_mem_zip_self hp
      · exact h pair hp
  | case3 a b rest hhead =>
    simp only [List.mem_cons, forall_eq_or_imp, Bool.false_eq_true, false_iff, not_and]
    rintro rfl
    exact absurd rfl hhead

instance Node.decEq : DecidableEq Node := fun a b =>
  decidable_of_iff (sameTrees [(a, b)] = true) (by simp [sameTrees_iff])

end Frontend
