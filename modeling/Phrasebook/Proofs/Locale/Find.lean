import Phrasebook.Locale

/-! The locales that identifiers find.  Each is one of the catalog, under a name that may be another;
its marks and its plural rules are those that the catalog has for it. -/

namespace Phrasebook.Locale

open Text (replaced)

variable [catalog : Catalog] {identifier spelling : Text} {id : Identifier} {locale : Locale}

theorem exists_row_of_load? (h : load? id = some locale) :
    ∃ row ∈ catalog.table, locale = { row with name := locale.name } := by
  obtain ⟨row, hrow, rfl⟩ := Option.map_eq_some_iff.mp h
  exact ⟨row, List.mem_of_find?_eq_some hrow, rfl⟩

theorem exists_row_of_loadReduced? (h : loadReduced? id = some locale) :
    ∃ row ∈ catalog.table, locale = { row with name := locale.name } := by
  simp only [loadReduced?, Option.orElse_eq_orElse, Option.orElse_eq_or, Option.or_eq_some_iff] at h
  rcases h with h | ⟨-, h⟩
  · exact exists_row_of_load? h
  · exact exists_row_of_load? h

/-- Whichever way an identifier finds a locale, the locale is one of the catalog. -/
theorem exists_row_of_find (h : find identifier = .ok locale) :
    ∃ row ∈ catalog.table, locale = { row with name := locale.name } := by
  unfold find at h
  cases hid : Identifier.parse (replaced '-'.toNat '_'.toNat identifier) with
  | error fault =>
    rw [hid] at h
    cases h
  | ok id =>
    simp only [hid, bind, Except.bind] at h
    split at h
    · next found hfound =>
      cases h
      simp only [Option.orElse_eq_orElse, Option.orElse_eq_or, Option.or_eq_some_iff] at hfound
      rcases hfound with hfound | ⟨-, hfound | ⟨-, hfound⟩⟩
      · exact exists_row_of_load? hfound
      · obtain ⟨likely, -, hfound⟩ := Option.bind_eq_some_iff.mp hfound
        exact exists_row_of_loadReduced? hfound
      · obtain ⟨likely, -, hfound⟩ := Option.bind_eq_some_iff.mp hfound
        exact exists_row_of_loadReduced? hfound
    · cases h

theorem legible_of_find (h : find identifier = .ok locale) : locale.Legible := by
  obtain ⟨row, hrow, heq⟩ := exists_row_of_find h
  obtain ⟨hne, hgroup, hdecimal, hgroup', hdecimal'⟩ := catalog.legible row hrow
  rw [heq]
  exact ⟨hne, hgroup, hdecimal, hgroup', hdecimal'⟩

theorem coarse_of_find (h : find identifier = .ok locale) : locale.rules.Coarse := by
  obtain ⟨row, hrow, heq⟩ := exists_row_of_find h
  rw [heq]
  exact catalog.coarse row hrow

/-- Hyphens and low lines are the same in an identifier. -/
theorem find_congr
    (h : replaced '-'.toNat '_'.toNat spelling = replaced '-'.toNat '_'.toNat identifier) :
    find spelling = find identifier := by
  unfold find
  rw [h]

end Phrasebook.Locale
