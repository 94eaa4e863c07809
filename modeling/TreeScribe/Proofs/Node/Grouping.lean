import TreeScribe.ConcreteTree.Reshape

/-!
# Grouped children

The statements of a file and of a block are moved into a list node.  Main statements: grouping the
children of a block keeps an opening and a closing punctuation, if they are there, and moves
everything between them (`exists_groupBlock_eq`); dissolving the list nodes again gives back the
children as they were (`unlistedAll_grouped`).
-/

namespace TreeScribe.Node

/-! ## The ends of a list -/

section Ends

variable {α : Type} (p : α → Bool)

/-- Taking the first element off, if it satisfies `p`, loses nothing. -/
theorem head?_filter_append_drop (l : List α) :
    l.head?.toList.filter p ++ l.drop (l.head?.toList.filter p).length = l := by
  cases l with
  | nil => rfl
  | cons a l => by_cases h : p a = true <;> simp [h]

/-- Taking the last element off, if it satisfies `p`, loses nothing. -/
theorem take_append_getLast?_filter (l : List α) :
    l.take (l.length - (l.getLast?.toList.filter p).length) ++ l.getLast?.toList.filter p = l := by
  rcases List.eq_nil_or_concat l with rfl | ⟨l, a, rfl⟩
  · rfl
  · by_cases h : p a = true
    · simp [h]
    · have hlen : (l ++ [a]).length ≤ l.length + 1 := by simp
      simp [h, List.take_of_length_le hlen]

theorem length_toList_filter_le (o : Option α) : (o.toList.filter p).length ≤ 1 := by
  cases o with
  | none => exact Nat.zero_le 1
  | some a => by_cases h : p a = true <;> simp [h]

end Ends

/-! ## Blocks -/

/-- **The shape of a grouped block.**  At most one punctuation opens it and at most one closes it;
the list between them holds all other children, in order. -/
theorem exists_groupBlock_eq (span : Span) (children : List Node) :
    ∃ opening items closing,
      groupBlock span children =
        opening ++ listOf items ((opening.head?.map (·.span.stop)).getD span.start) :: closing ∧
      children = opening ++ items ++ closing ∧
      opening.length ≤ 1 ∧ closing.length ≤ 1 ∧
      (∀ n ∈ opening ++ closing, n.kind = .punctuation) := by
  refine ⟨_, _, _, rfl, ?_, length_toList_filter_le _ _, length_toList_filter_le _ _, ?_⟩
  · rw [List.append_assoc, take_append_getLast?_filter, head?_filter_append_drop]
  · intro n hn
    rcases List.mem_append.1 hn with h | h
    · exact of_decide_eq_true (List.mem_filter.1 h).2
    · exact of_decide_eq_true (List.mem_filter.1 h).2

/-- Grouping keeps a named child, or the list is one. -/
theorem exists_named_grouped (kind : Kind) (span : Span) {children : List Node} {n : Node}
    (hn : n ∈ children) (hnamed : n.named = true) :
    ∃ m ∈ grouped kind span children, m.named = true := by
  unfold grouped
  split
  · exact ⟨_, List.mem_singleton_self _, rfl⟩
  · obtain ⟨opening, items, closing, hgroup, -⟩ := exists_groupBlock_eq span children
    rw [hgroup]
    exact ⟨_, List.mem_append_right _ (List.mem_cons_self ..), rfl⟩
  · exact ⟨n, hn, hnamed⟩

/-! ## Dissolving list nodes -/

mutual

/-- A node without its list nodes: each of them gives way to its children. -/
def unlisted : Node → List Node
  | ⟨kind, span, field?, named, children⟩ =>
    if kind = .role .syntaxList then unlistedAll children
    else [⟨kind, span, field?, named, unlistedAll children⟩]

/-- Nodes without their list nodes. -/
def unlistedAll : List Node → List Node
  | [] => []
  | n :: ns => n.unlisted ++ unlistedAll ns

end

theorem unlistedAll_append (ms ns : List Node) :
    unlistedAll (ms ++ ns) = unlistedAll ms ++ unlistedAll ns := by
  induction ms with
  | nil => rfl
  | cons m ms ih => rw [List.cons_append, unlistedAll, unlistedAll, ih, List.append_assoc]

theorem unlistedAll_singleton (n : Node) : unlistedAll [n] = n.unlisted := by
  rw [unlistedAll, unlistedAll, List.append_nil]

/-- A list node gives way to its items. -/
theorem unlisted_listOf (items : List Node) (anchor : Nat) :
    (listOf items anchor).unlisted = unlistedAll items := by
  rw [listOf, plain, unlisted, if_pos rfl]

/-- Grouping adds nothing but list nodes. -/
theorem unlistedAll_grouped (kind : Kind) (span : Span) (children : List Node) :
    unlistedAll (grouped kind span children) = unlistedAll children := by
  unfold grouped
  split
  · rw [unlistedAll_singleton, unlisted_listOf]
  · obtain ⟨opening, items, closing, hgroup, rfl, -⟩ := exists_groupBlock_eq span children
    rw [hgroup, unlistedAll_append, unlistedAll, unlisted_listOf, unlistedAll_append,
      unlistedAll_append, List.append_assoc]
  · rfl

end TreeScribe.Node
