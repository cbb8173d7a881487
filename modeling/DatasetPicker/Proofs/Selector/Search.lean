import DatasetPicker.Selector.Search

/-!
# What the searches find

Every search result is one of the names it was asked about. The matching names keep the
order of the names, and a completion continues the text it completes.
-/

namespace DatasetPicker.Selector

/-- The matching names are names, in the order of the names. -/
theorem matching_sublist (query : String) (names : List String) :
    (matching query names).Sublist names := by
  unfold matching
  split
  · exact List.Sublist.refl names
  · exact List.filter_sublist

/-- Only of no names is there no shortest. -/
theorem shortest_none (names : List String) (none : shortest? names = none) : names = [] := by
  cases names with
  | nil => rfl
  | cons first rest =>
    simp only [shortest?] at none
    split at none <;> contradiction

/-- A name with longer ones before it and no shorter ones after it is no longer than any. -/
theorem le_of_splits (ahead behind : List String) (best : String)
    (longer : ∀ name ∈ ahead, best.utf8ByteSize < name.utf8ByteSize)
    (noShorter : ∀ name ∈ behind, best.utf8ByteSize ≤ name.utf8ByteSize) (name : String)
    (listed : name ∈ ahead ++ best :: behind) : best.utf8ByteSize ≤ name.utf8ByteSize := by
  rw [List.mem_append, List.mem_cons] at listed
  obtain early | same | late := listed
  · exact Nat.le_of_lt (longer name early)
  · exact Nat.le_of_eq (by rw [same])
  · exact noShorter name late

/-- The names before the shortest of them are longer, and those after it are no shorter. -/
theorem shortest_splits (names : List String) (best : String)
    (found : shortest? names = some best) : ∃ ahead behind, names = ahead ++ best :: behind ∧
      (∀ name ∈ ahead, best.utf8ByteSize < name.utf8ByteSize) ∧
      ∀ name ∈ behind, best.utf8ByteSize ≤ name.utf8ByteSize := by
  induction names generalizing best with
  | nil => contradiction
  | cons first rest ih =>
    cases later : shortest? rest with
    | none =>
      simp only [shortest?, later, Option.some.injEq] at found
      refine ⟨[], [], ?_, nofun, nofun⟩
      rw [found, shortest_none rest later, List.nil_append]
    | some other =>
      simp only [shortest?, later, Option.some.injEq] at found
      obtain ⟨ahead, behind, whole, longer, noShorter⟩ := ih other later
      by_cases least : first.utf8ByteSize ≤ other.utf8ByteSize
      · rw [if_pos least] at found
        refine ⟨[], rest, by rw [found, List.nil_append], nofun, ?_⟩
        intro name listed
        rw [whole] at listed
        rw [← found]
        exact Nat.le_trans least (le_of_splits ahead behind other longer noShorter name listed)
      · rw [if_neg least] at found
        refine ⟨first :: ahead, behind, by rw [whole, found, List.cons_append], ?_, ?_⟩
        · intro name listed
          rw [← found]
          obtain same | early := List.mem_cons.mp listed
          · rw [same]
            exact Nat.lt_of_not_le least
          · exact longer name early
        · rw [← found]
          exact noShorter

/-- The shortest of some names is one of them. -/
theorem shortest_mem (names : List String) (best : String)
    (found : shortest? names = some best) : best ∈ names := by
  obtain ⟨ahead, behind, whole, -, -⟩ := shortest_splits names best found
  rw [whole]
  exact List.mem_append_right _ (List.mem_cons_self ..)

/-- The shortest of some names is no longer than any of them. -/
theorem shortest_le (names : List String) (best : String) (found : shortest? names = some best)
    (name : String) (listed : name ∈ names) : best.utf8ByteSize ≤ name.utf8ByteSize := by
  obtain ⟨ahead, behind, whole, longer, noShorter⟩ := shortest_splits names best found
  rw [whole] at listed
  exact le_of_splits ahead behind best longer noShorter name listed

/-- A text and the rest of a name that begins with it make up the name. -/
theorem append_rest (query name : String) (begins : beginsWith query name = true) :
    query ++ String.ofList (name.toList.drop query.toList.length) = name := by
  obtain ⟨rest, whole⟩ := List.isPrefixOf_iff_prefix.mp begins
  apply String.toList_injective
  rw [String.toList_append, String.toList_ofList, ← whole, List.drop_left]

/-- A completion completes the query to one of the names. -/
theorem completion_completes (query : String) (names : List String)
    (completion : Completion) (found : completion? query names = some completion) :
    completion.value ∈ names ∧ query ++ completion.placeholder = completion.value := by
  unfold completion? at found
  split at found
  · contradiction
  · obtain ⟨name, best, rfl⟩ := Option.map_eq_some_iff.mp found
    have listed := List.mem_filter.mp (shortest_mem _ _ best)
    exact ⟨listed.1, append_rest query name listed.2⟩

/-- The text of a completion is not empty, since an empty query has none. -/
theorem completion_nonempty (query : String) (names : List String) (completion : Completion)
    (found : completion? query names = some completion) : completion.value ≠ "" := by
  intro empty
  have whole := (completion_completes query names completion found).2
  rw [empty, String.append_eq_empty_iff] at whole
  rw [whole.1] at found
  contradiction

/-- A name is its own completion, whichever names begin with it. -/
theorem completion?_self (name : String) (names : List String) (nonempty : name ≠ "")
    (listed : name ∈ names) : completion? name names = some ⟨name, ""⟩ := by
  have begun : name ∈ names.filter (beginsWith name) :=
    List.mem_filter.mpr ⟨listed, List.isPrefixOf_iff_prefix.mpr (List.prefix_refl _)⟩
  cases best : shortest? (names.filter (beginsWith name)) with
  | none =>
    rw [shortest_none _ best] at begun
    contradiction
  | some shortest =>
    -- It begins with the name and is no longer than the name, so there is no rest.
    have whole := append_rest name shortest (List.mem_filter.mp (shortest_mem _ _ best)).2
    have bounded := shortest_le _ _ best name begun
    have sizes := congrArg String.utf8ByteSize whole
    rw [String.utf8ByteSize_append] at sizes
    have empty : String.ofList (shortest.toList.drop name.toList.length) = "" :=
      String.utf8ByteSize_eq_zero_iff.mp (by omega)
    rw [empty, String.append_empty] at whole
    rw [completion?, if_neg (by simpa using nonempty), best, Option.map_some, empty, whole]

end DatasetPicker.Selector
