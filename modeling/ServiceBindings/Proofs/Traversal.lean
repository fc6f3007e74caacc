import Mathlib.Data.List.Forall2

/-!
# Computations that may fail

A computation in several steps succeeds only if each of them does, and a traversal of a list
only if it succeeds at every item.
-/

namespace ServiceBindings

variable {ε α β : Type}

theorem bind_eq_ok_iff {first : Except ε α} {second : α → Except ε β} {result : β} :
    (first >>= second) = .ok result ↔ ∃ value, first = .ok value ∧ second value = .ok result := by
  constructor
  · intro computed
    cases first with
    | error error => cases computed
    | ok value => exact ⟨value, rfl, computed⟩
  · intro given
    rcases given with ⟨value, rfl, computed⟩
    exact computed

theorem map_eq_ok_iff {computed : Except ε α} {image : α → β} {result : β} :
    computed.map image = .ok result ↔ ∃ value, computed = .ok value ∧ result = image value := by
  cases computed with
  | error error =>
      constructor
      · intro isResult
        cases isResult
      · intro given
        rcases given with ⟨value, isValue, _⟩
        cases isValue
  | ok value =>
      constructor
      · intro isResult
        cases isResult
        exact ⟨value, rfl, rfl⟩
      · intro given
        rcases given with ⟨other, isValue, rfl⟩
        cases isValue
        rfl

theorem mapM_eq_ok {compute : α → Except ε β} (result : α → β) {items : List α}
    (computed : ∀ item ∈ items, compute item = .ok (result item)) :
    items.mapM compute = .ok (items.map result) := by
  induction items with
  | nil => rfl
  | cons item rest ih =>
      rw [List.mapM_cons, computed item (by simp),
        ih fun other member => computed other (by simp [member])]
      rfl

theorem mapM_congr {first second : α → Except ε β} {items : List α}
    (same : ∀ item ∈ items, first item = second item) : items.mapM first = items.mapM second := by
  induction items with
  | nil => rfl
  | cons item rest ih =>
      rw [List.mapM_cons, List.mapM_cons, same item List.mem_cons_self,
        ih fun other member => same other (List.mem_cons_of_mem _ member)]

theorem mapM_cons_eq_ok_iff {compute : α → Except ε β} {item : α} {rest : List α}
    {results : List β} :
    (item :: rest).mapM compute = .ok results ↔
      ∃ first others, compute item = .ok first ∧ rest.mapM compute = .ok others ∧
        results = first :: others := by
  rw [List.mapM_cons]
  simp only [bind_eq_ok_iff]
  constructor
  · intro given
    rcases given with ⟨first, firstComputed, others, othersComputed, isResult⟩
    cases isResult
    exact ⟨first, others, firstComputed, othersComputed, rfl⟩
  · intro given
    rcases given with ⟨first, others, firstComputed, othersComputed, rfl⟩
    exact ⟨first, firstComputed, others, othersComputed, rfl⟩

theorem mapM_append_cons_eq_error {compute : α → Except ε β} {front : List α} {item : α}
    {error : ε} (succeeds : ∀ earlier ∈ front, ∃ result, compute earlier = .ok result)
    (fails : compute item = .error error) (rest : List α) :
    (front ++ item :: rest).mapM compute = .error error := by
  induction front with
  | nil =>
      rw [List.nil_append, List.mapM_cons, fails]
      rfl
  | cons first others ih =>
      rcases succeeds first (by simp) with ⟨result, computed⟩
      rw [List.cons_append, List.mapM_cons, computed,
        ih fun earlier member => succeeds earlier (by simp [member])]
      rfl

/-- A traversal fails with the failure of the first item that has one. -/
theorem mapM_eq_error_iff {compute : α → Except ε β} {items : List α} {error : ε} :
    items.mapM compute = .error error ↔
      ∃ front item rest, items = front ++ item :: rest ∧
        (∀ earlier ∈ front, ∃ result, compute earlier = .ok result) ∧
          compute item = .error error := by
  constructor
  · intro failed
    induction items with
    | nil => cases failed
    | cons item rest ih =>
        cases first : compute item with
        | error firstError =>
            rw [List.mapM_cons, first] at failed
            cases failed
            exact ⟨[], item, rest, rfl, by simp, first⟩
        | ok value =>
            have inRest : rest.mapM compute = .error error := by
              rw [List.mapM_cons, first] at failed
              cases others : rest.mapM compute with
              | error restError =>
                  rw [others] at failed
                  cases failed
                  rfl
              | ok values =>
                  rw [others] at failed
                  cases failed
            rcases ih inRest with ⟨front, failing, later, rfl, succeeds, fails⟩
            refine ⟨item :: front, failing, later, rfl, ?_, fails⟩
            intro earlier member
            rcases List.mem_cons.mp member with rfl | inFront
            · exact ⟨value, first⟩
            · exact succeeds earlier inFront
  · intro given
    rcases given with ⟨front, item, rest, rfl, succeeds, fails⟩
    exact mapM_append_cons_eq_error succeeds fails rest

/-- A traversal yields one result for each item, in order. -/
theorem mapM_eq_ok_iff_forall₂ {compute : α → Except ε β} {items : List α} {results : List β} :
    items.mapM compute = .ok results ↔
      List.Forall₂ (fun item result => compute item = .ok result) items results := by
  induction items generalizing results with
  | nil => simp [pure, Except.pure, eq_comm]
  | cons item rest ih =>
      rw [mapM_cons_eq_ok_iff]
      constructor
      · intro given
        rcases given with ⟨first, others, computed, othersComputed, rfl⟩
        exact .cons computed (ih.mp othersComputed)
      · intro given
        rcases given with _ | ⟨computed, others⟩
        exact ⟨_, _, computed, ih.mpr others, rfl⟩

/-- What holds of the items on one side of a relation holds of those on the other. -/
theorem forall_mem_iff_of_forall₂ {Related : α → β → Prop} {left : α → Prop} {right : β → Prop}
    {items : List α} {results : List β} (related : List.Forall₂ Related items results)
    (shared : ∀ item result, Related item result → (left item ↔ right result)) :
    (∀ item ∈ items, left item) ↔ ∀ result ∈ results, right result := by
  induction related with
  | nil => simp
  | cons first _ ih => rw [List.forall_mem_cons, List.forall_mem_cons, shared _ _ first, ih]

/-- A traversal succeeds if it can succeed at every item. -/
theorem exists_mapM_eq_ok_iff {compute : α → Except ε β} {items : List α} :
    (∃ results, items.mapM compute = .ok results) ↔
      ∀ item ∈ items, ∃ result, compute item = .ok result := by
  induction items with
  | nil => simp [pure, Except.pure]
  | cons item rest ih =>
      rw [List.forall_mem_cons, ← ih]
      simp only [mapM_cons_eq_ok_iff]
      constructor
      · intro given
        rcases given with ⟨_, first, others, computed, othersComputed, _⟩
        exact ⟨⟨first, computed⟩, others, othersComputed⟩
      · intro given
        rcases given with ⟨⟨first, computed⟩, others, othersComputed⟩
        exact ⟨_, first, others, computed, othersComputed, rfl⟩

/-- A traversal fails with the failure of one of the items. -/
theorem exists_of_mapM_eq_error {compute : α → Except ε β} {items : List α} {error : ε}
    (failed : items.mapM compute = .error error) : ∃ item ∈ items, compute item = .error error := by
  rcases mapM_eq_error_iff.mp failed with ⟨front, item, rest, rfl, _, fails⟩
  exact ⟨item, by simp, fails⟩

/-- What a traversal yields comes from one of the items. -/
theorem exists_of_mem_mapM {compute : α → Except ε β} {items : List α} {results : List β}
    (computed : items.mapM compute = .ok results) {result : β} (member : result ∈ results) :
    ∃ item ∈ items, compute item = .ok result := by
  induction items generalizing results with
  | nil =>
      cases computed
      cases member
  | cons item rest ih =>
      rcases mapM_cons_eq_ok_iff.mp computed with
        ⟨first, others, firstComputed, othersComputed, rfl⟩
      rcases List.mem_cons.mp member with rfl | inOthers
      · exact ⟨item, by simp, firstComputed⟩
      · rcases ih othersComputed inOthers with ⟨source, sourceMember, sourceComputed⟩
        exact ⟨source, by simp [sourceMember], sourceComputed⟩

/-- A view that an item and its result share is shared by all items and all results. -/
theorem map_eq_map_of_mapM {compute : α → Except ε β} {γ : Type} {itemView : α → γ}
    {resultView : β → γ}
    (shared : ∀ {item result}, compute item = .ok result → resultView result = itemView item)
    {items : List α} {results : List β} (computed : items.mapM compute = .ok results) :
    results.map resultView = items.map itemView := by
  induction items generalizing results with
  | nil =>
      cases computed
      rfl
  | cons item rest ih =>
      rcases mapM_cons_eq_ok_iff.mp computed with
        ⟨first, others, firstComputed, othersComputed, rfl⟩
      rw [List.map_cons, List.map_cons, shared firstComputed, ih othersComputed]

/-- What an item and its result have in common, part by part, is common to all items and all
results. -/
theorem flatMap_eq_flatMap_of_mapM {compute : α → Except ε β} {γ : Type} {itemParts : α → List γ}
    {resultParts : β → List γ}
    (shared : ∀ {item result}, compute item = .ok result → resultParts result = itemParts item)
    {items : List α} {results : List β} (computed : items.mapM compute = .ok results) :
    results.flatMap resultParts = items.flatMap itemParts := by
  rw [List.flatMap_def, List.flatMap_def, map_eq_map_of_mapM shared computed]

end ServiceBindings
