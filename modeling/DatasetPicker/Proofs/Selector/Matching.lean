import DatasetPicker.Proofs.Selector.Search

/-!
# What the searches are for

A query is looked up in the names as a list of characters: the completion begins with it, and
in a matching name it occurs somewhere. The completion is the first of the shortest names that
can be meant, which leaves no choice. The matching names are a filter of the names, and because
occurring is transitive, a longer query can be looked up among what a part of it has left.
-/

namespace DatasetPicker.Selector

/-- A part occurs in a text if it is an infix of the text. -/
theorem occursIn_iff (part text : List Char) : occursIn part text = true ↔ part <:+: text := by
  induction text with
  | nil => rw [occursIn, List.isEmpty_iff, List.infix_nil]
  | cons char rest ih =>
    rw [occursIn, Bool.or_eq_true, List.isPrefixOf_iff_prefix, ih, List.infix_cons_iff]

/-- A name contains a query if the query is an infix of it. -/
theorem contains_iff (query name : String) :
    contains query name = true ↔ query.toList <:+: name.toList :=
  occursIn_iff query.toList name.toList

/-- A name begins with a query if the query is a prefix of it. -/
theorem beginsWith_iff (query name : String) :
    beginsWith query name = true ↔ query.toList <+: name.toList :=
  List.isPrefixOf_iff_prefix

/-- A name made up of a query and a rest begins with the query. -/
theorem prefix_of_append {query rest name : String} (whole : query ++ rest = name) :
    query.toList <+: name.toList := by
  rw [← whole, String.toList_append]
  exact List.prefix_append _ _

/-! ## The completion -/

/-- What a completion of a query ought to be. -/
structure Completes (query : String) (names : List String) (completion : Completion) :
    Prop where
  nonempty : query ≠ ""
  listed : completion.value ∈ names
  /-- The query and what is still to be typed make up the name. -/
  whole : query ++ completion.placeholder = completion.value
  /-- No name that begins with the query is shorter, by bytes. -/
  shortest : ∀ name ∈ names, query.toList <+: name.toList →
    completion.value.utf8ByteSize ≤ name.utf8ByteSize
  /-- Among the names of its length, it is listed first. -/
  first : ∀ (place : Nat) (name : String), names[place]? = some name →
    query.toList <+: name.toList → name.utf8ByteSize = completion.value.utf8ByteSize →
    names.idxOf completion.value ≤ place

namespace Completes

variable {query : String} {names : List String} {completion other : Completion}

/-- What completes a query begins with it. -/
theorem begins (completes : Completes query names completion) :
    query.toList <+: completion.value.toList :=
  prefix_of_append completes.whole

/-- A completion is listed at its first position. -/
theorem listed_first (completes : Completes query names completion) :
    names[names.idxOf completion.value]? = some completion.value := by
  have inside := List.idxOf_lt_length_of_mem completes.listed
  rw [List.getElem?_eq_getElem inside, List.getElem_idxOf]

/-- A completion is no longer than another one. -/
theorem le_size (completes : Completes query names completion)
    (others : Completes query names other) :
    completion.value.utf8ByteSize ≤ other.value.utf8ByteSize :=
  completes.shortest other.value others.listed others.begins

/-- A query has one completion at most. -/
theorem unique (completes : Completes query names completion)
    (others : Completes query names other) : completion = other := by
  have sizes : completion.value.utf8ByteSize = other.value.utf8ByteSize :=
    Nat.le_antisymm (completes.le_size others) (others.le_size completes)
  have places : names.idxOf completion.value = names.idxOf other.value :=
    Nat.le_antisymm
      (completes.first _ _ others.listed_first others.begins sizes.symm)
      (others.first _ _ completes.listed_first completes.begins sizes)
  have values : completion.value = other.value := by
    apply Option.some.inj
    rw [← completes.listed_first, ← others.listed_first, places]
  have placeholders : completion.placeholder = other.placeholder := by
    have texts : query ++ completion.placeholder = query ++ other.placeholder := by
      rw [completes.whole, others.whole, values]
    exact (String.append_right_inj query).mp texts
  obtain ⟨value, placeholder⟩ := completion
  obtain rfl : value = other.value := values
  obtain rfl : placeholder = other.placeholder := placeholders
  rfl

end Completes

/-- Of the names that begin with the query, those before its completion are longer, and those
after it are no shorter. -/
theorem completion?_splits (query : String) (names : List String) (completion : Completion)
    (found : completion? query names = some completion) :
    ∃ ahead behind, names = ahead ++ completion.value :: behind ∧
      (∀ name ∈ ahead, query.toList <+: name.toList →
        completion.value.utf8ByteSize < name.utf8ByteSize) ∧
      ∀ name ∈ behind, query.toList <+: name.toList →
        completion.value.utf8ByteSize ≤ name.utf8ByteSize := by
  unfold completion? at found
  split at found
  · contradiction
  · obtain ⟨best, shortest, rfl⟩ := Option.map_eq_some_iff.mp found
    obtain ⟨longer, others, parts, before, after⟩ := shortest_splits _ best shortest
    -- The names that do not begin with the query are put back around the best one.
    obtain ⟨ahead, rest, rfl, kept, keptRest⟩ := List.filter_eq_append_iff.mp parts
    obtain ⟨gap, behind, rfl, dropped, -, keptBehind⟩ := List.filter_eq_cons_iff.mp keptRest
    refine ⟨ahead ++ gap, behind, by rw [List.append_assoc], ?_, ?_⟩
    · intro name among begins
      have candidate := (beginsWith_iff query name).mpr begins
      obtain early | skipped := List.mem_append.mp among
      · exact before name (kept ▸ List.mem_filter.mpr ⟨early, candidate⟩)
      · exact absurd candidate (dropped name skipped)
    · intro name among begins
      have candidate := (beginsWith_iff query name).mpr begins
      exact after name (keptBehind ▸ List.mem_filter.mpr ⟨among, candidate⟩)

/-- The completion that is found is what it ought to be. -/
theorem completion?_completes (query : String) (names : List String) (completion : Completion)
    (found : completion? query names = some completion) : Completes query names completion := by
  have nonempty : query ≠ "" := by
    rintro rfl
    contradiction
  obtain ⟨listed, whole⟩ := completion_completes query names completion found
  obtain ⟨ahead, behind, parts, longer, noShorter⟩ :=
    completion?_splits query names completion found
  have absent : completion.value ∉ ahead := fun early =>
    Nat.lt_irrefl _ (longer _ early (prefix_of_append whole))
  have position : names.idxOf completion.value = ahead.length := by
    rw [parts, List.idxOf_append, if_neg absent, List.idxOf_cons_self, Nat.zero_add]
  refine ⟨nonempty, listed, whole, ?_, ?_⟩
  · intro name among candidate
    rw [parts, List.mem_append, List.mem_cons] at among
    obtain early | same | late := among
    · exact Nat.le_of_lt (longer name early candidate)
    · exact Nat.le_of_eq (by rw [same])
    · exact noShorter name late candidate
  · intro place name found candidate sizes
    rw [position]
    by_cases early : place < ahead.length
    · rw [parts, List.getElem?_append_left early] at found
      have strict := longer name (List.mem_of_getElem? found) candidate
      omega
    · exact Nat.le_of_not_lt early

/-- There is no completion of an empty query, nor of one that no name begins with. -/
theorem completion?_eq_none_iff (query : String) (names : List String) :
    completion? query names = none ↔
      query = "" ∨ ∀ name ∈ names, ¬query.toList <+: name.toList := by
  by_cases empty : query = ""
  · simp [completion?, empty]
  · have searched : completion? query names = none ↔
        shortest? (names.filter (beginsWith query)) = none := by
      rw [completion?, if_neg (by simpa using empty), Option.map_eq_none_iff]
    have missed : shortest? (names.filter (beginsWith query)) = none ↔
        names.filter (beginsWith query) = [] :=
      ⟨shortest_none _, fun nothing => by rw [nothing]; rfl⟩
    rw [searched, missed, List.filter_eq_nil_iff, or_iff_right empty]
    simp only [beginsWith_iff]

/-- A completion is found exactly if it is what it ought to be. -/
theorem completion?_eq_some_iff (query : String) (names : List String)
    (completion : Completion) :
    completion? query names = some completion ↔ Completes query names completion := by
  constructor
  · exact completion?_completes query names completion
  · intro completes
    cases found : completion? query names with
    | none =>
      obtain empty | missed := (completion?_eq_none_iff query names).mp found
      · exact absurd empty completes.nonempty
      · exact absurd completes.begins (missed _ completes.listed)
    | some other =>
      rw [completes.unique (completion?_completes query names other found)]

/-! ## The matching names -/

/-- The matching names are those that contain the query. An empty query is no exception,
because every name contains it. -/
theorem matching_eq_filter (query : String) (names : List String) :
    matching query names = names.filter (contains query) := by
  unfold matching
  split
  · rename_i empty
    rw [String.isEmpty_iff.mp empty]
    refine (List.filter_eq_self.mpr ?_).symm
    intro name _
    exact (contains_iff "" name).mpr List.nil_infix
  · rfl

/-- A name matches if it is listed and contains the query. -/
theorem mem_matching (query name : String) (names : List String) :
    name ∈ matching query names ↔ name ∈ names ∧ query.toList <:+: name.toList := by
  rw [matching_eq_filter, List.mem_filter, contains_iff]

/-- A matching name is among the matching ones as often as it is listed. -/
theorem count_matching (query name : String) (names : List String)
    (occurs : query.toList <:+: name.toList) :
    (matching query names).count name = names.count name := by
  rw [matching_eq_filter]
  exact List.count_filter ((contains_iff query name).mpr occurs)

/-- A name that contains a text contains its parts. -/
theorem contains_trans (part text name : String) (within : part.toList <:+: text.toList)
    (whole : contains text name = true) : contains part name = true :=
  (contains_iff part name).mpr (within.trans ((contains_iff text name).mp whole))

/-! ## Main results -/

/-- A completion is missing exactly if the query is empty or no name begins with it. What is
found is exactly the name that comes first among the shortest of those that begin with the
query, with what is left of it behind the query. It is one of the matching names, and a query
that is a name completes itself. -/
theorem completion_first_shortest (query : String) (names : List String) :
    (completion? query names = none ↔
        query = "" ∨ ∀ name ∈ names, ¬query.toList <+: name.toList) ∧
      (∀ completion, completion? query names = some completion ↔
        Completes query names completion) ∧
      (∀ completion, completion? query names = some completion →
        completion.value ∈ matching query names) ∧
      (query ≠ "" → query ∈ names → completion? query names = some ⟨query, ""⟩) := by
  refine ⟨completion?_eq_none_iff query names, completion?_eq_some_iff query names, ?_,
    completion?_self query names⟩
  intro completion found
  have completes := completion?_completes query names completion found
  exact (mem_matching query _ names).mpr ⟨completes.listed, completes.begins.isInfix⟩

/-- Of two names of the same length the first one completes, although a name with fewer letters
but more bytes begins with the query, too. -/
theorem completion_first_shortest_tie :
    let names := ["éclair", "é日本", "écrus", "école", "écrus"]
    Completes "é" names ⟨"écrus", "crus"⟩ ∧ "écrus" ∈ matching "é" names := by
  intro names
  have found : completion? "é" names = some ⟨"écrus", "crus"⟩ := by decide +kernel
  obtain ⟨-, characterized, matched, -⟩ := completion_first_shortest "é" names
  exact ⟨(characterized _).mp found, matched _ found⟩

/-- What a query matches is also matched by every part of it, in the same order, and looking the
query up among that gives what looking it up among all names gives. Both keep the order of the
names, and of them exactly those that contain the text, each as often as it is listed. -/
theorem matching_narrows (query longer : String) (names : List String)
    (within : query.toList <:+: longer.toList) :
    (matching longer names).Sublist (matching query names) ∧
      matching longer (matching query names) = matching longer names ∧
      ∀ text ∈ [query, longer], (matching text names).Sublist names ∧
        ∀ name, (name ∈ matching text names → text.toList <:+: name.toList) ∧
          (text.toList <:+: name.toList →
            (matching text names).count name = names.count name) := by
  have again : matching longer (matching query names) = matching longer names := by
    simp only [matching_eq_filter, List.filter_filter]
    apply List.filter_congr
    intro name _
    cases occurs : contains longer name with
    | false => rfl
    | true => rw [contains_trans query longer name within occurs, Bool.and_self]
  refine ⟨?_, again, ?_⟩
  · rw [← again]
    exact matching_sublist longer (matching query names)
  · intro text _
    refine ⟨matching_sublist text names, ?_⟩
    intro name
    constructor
    · intro kept
      exact ((mem_matching text name names).mp kept).2
    · exact count_matching text name names

/-- From an inner part of a query to the query: the duplicates stay, in their order. -/
theorem matching_narrows_inner :
    let names := ["data", "beta", "data", "meta", "tab"]
    "ta".toList <:+: "ata".toList ∧
      matching "ata" (matching "ta" names) = matching "ata" names ∧
      matching "ta" names = names ∧ matching "ata" names = ["data", "data"] := by
  intro names
  have within : "ta".toList <:+: "ata".toList := ⟨['a'], [], by decide⟩
  exact ⟨within, (matching_narrows "ta" "ata" names within).2.1, by decide +kernel,
    by decide +kernel⟩

end DatasetPicker.Selector
