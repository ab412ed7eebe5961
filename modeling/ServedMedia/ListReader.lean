/-!
# Lists read item by item

A list is read by reading its items in turn, and cannot be read if one of them cannot.
What comes out stands against the items, one for one:

    items.mapM read? = some results ↔ items.map read? = results.map some   (mapM_eq_some_iff)
    (∃ results, items.mapM read? = some results) ↔
      ∀ item ∈ items, ∃ result, read? item = some result                    (exists_mapM_iff)
-/

namespace ServedMedia

variable {α β : Type} {read? : α → Option β} {items : List α} {results : List β}

theorem mapM_eq_some_iff :
    items.mapM read? = some results ↔ items.map read? = results.map some := by
  induction items generalizing results with
  | nil => cases results <;> simp
  | cons item items ih =>
    cases results with
    | nil => simp [List.mapM_cons, Option.bind_eq_some_iff]
    | cons result results => simp [List.mapM_cons, Option.bind_eq_some_iff, ih]

theorem mapM_eq_nil_iff : items.mapM read? = some [] ↔ items = [] := by
  rw [mapM_eq_some_iff, List.map_nil, List.map_eq_nil_iff]

theorem mapM_eq_cons_iff {result : β} : items.mapM read? = some (result :: results) ↔
    ∃ first others, items = first :: others ∧ read? first = some result ∧
      others.mapM read? = some results := by
  simp only [mapM_eq_some_iff, List.map_cons, List.map_eq_cons_iff]

/-- Every item of a list that is read gives one of the results. -/
theorem exists_of_mapM_eq_some (h : items.mapM read? = some results) {item : α}
    (hitem : item ∈ items) : ∃ result ∈ results, read? item = some result := by
  have hmem : read? item ∈ results.map some := by
    rw [← mapM_eq_some_iff.1 h]
    exact List.mem_map_of_mem hitem
  obtain ⟨result, hresult, hread⟩ := List.mem_map.1 hmem
  exact ⟨result, hresult, hread.symm⟩

/-- Every result is read off one of the items. -/
theorem exists_of_mem_mapM (h : items.mapM read? = some results) {result : β}
    (hresult : result ∈ results) : ∃ item ∈ items, read? item = some result := by
  have hmem : some result ∈ items.map read? := by
    rw [mapM_eq_some_iff.1 h]
    exact List.mem_map_of_mem hresult
  exact List.mem_map.1 hmem

theorem exists_mapM_iff : (∃ results, items.mapM read? = some results) ↔
    ∀ item ∈ items, ∃ result, read? item = some result := by
  constructor
  · rintro ⟨results, h⟩ item hitem
    obtain ⟨result, -, hread⟩ := exists_of_mapM_eq_some h hitem
    exact ⟨result, hread⟩
  · intro h
    induction items with
    | nil => exact ⟨[], rfl⟩
    | cons item items ih =>
      obtain ⟨first, hfirst⟩ := h item List.mem_cons_self
      obtain ⟨others, hothers⟩ := ih fun other hother => h other (List.mem_cons_of_mem item hother)
      exact ⟨first :: others, mapM_eq_cons_iff.2 ⟨item, items, rfl, hfirst, hothers⟩⟩

end ServedMedia
