import PagedQuery.Proofs.PageOrders
import PagedQuery.Settings.Annotation

/-!
# Readers of comma lists

Pages read comma lists of fields and of directions, and settings read comma lists of items.  A
page may have been given no text or an empty one, and looks at this before it reads anything; a
setting has a text in any case.  Both read the same items of the same text all the same, and
what they read is in a normal form that they read again as it is.

Main results:

- Theorem `readAs_commaFields`: pages and settings read the items of a comma list.
- Theorem `readers_agree`: what pages and settings read of a text, its normal form, and the lists
  that are read back.
-/

namespace PagedQuery

open Settings Text

/-- The texts of pages and settings are read as these items. -/
structure ReadAs (text : String) (items : List String) : Prop where
  /-- A page reads its fields to sort by. -/
  sortFields : ∀ {α : Type} (p : Page α), p.orderBy = some text → p.sortFields = items
  /-- A page reads its order text when it is asked for its sort keys. -/
  orderTokens : ∀ {α : Type} (w : WrittenPage α), w.order = some text → w.orderTokens = items
  /-- A page reads an order text when it is assigned. -/
  directions : readOrder text = readDirections text (items.map lowerText)
  /-- A setting reads a list. -/
  setting : SettingReading.commaList.read text = .ok (.list (items.map .text))

/-- Every text of a page or a setting is read as the items of a comma list. -/
theorem readAs_commaFields (text : String) : ReadAs text (commaFields text) := by
  constructor
  case sortFields =>
    intro α p hfields
    rw [Page.sortFields, hfields]
  case orderTokens =>
    intro α w horder
    rw [WrittenPage.orderTokens, horder, pageTokens_some]
  case directions => rfl
  case setting => rw [SettingReading.read, settingItems_eq]

/-- Pages and settings read the same items of the same text.  Every item has something in it, but
no comma, and neither starts nor ends with a blank.  Written with commas in between, the items
are read again, and so is every list of such texts. -/
theorem readers_agree (text : String) :
    pageTokens (some text) = settingItems text ∧ ReadAs text (settingItems text) ∧
    (∀ s ∈ settingItems text, s ≠ "" ∧ ',' ∉ s.toList ∧ IsBare isBlank s.toList) ∧
    settingItems (joinTexts "," (settingItems text)) = settingItems text ∧
    ∀ items, (∀ s ∈ items, s ≠ "" ∧ ',' ∉ s.toList ∧ IsBare isBlank s.toList) →
      settingItems (joinTexts "," items) = items := by
  refine ⟨(pageTokens_some text).trans (settingItems_eq text).symm, ?_⟩
  simp only [settingItems_eq, ← isItem_iff]
  have hitems : ∀ s ∈ commaFields text, IsItem s := fun _ => isItem_of_mem_commaFields
  exact ⟨readAs_commaFields text, hitems, commaFields_joinTexts hitems,
    fun _ => commaFields_joinTexts⟩

/-- Two names are read of a list with blank pieces and blanks of several kinds, and the names are
read back when they are written without these. -/
theorem readers_agree_names :
    ReadAs " name ,,\u00a0first last\t, " ["name", "first last"] ∧
      settingItems (joinTexts "," ["name", "first last"]) = ["name", "first last"] := by
  obtain ⟨-, hread, hnormal, -, hback⟩ := readers_agree " name ,,\u00a0first last\t, "
  have hitems : settingItems " name ,,\u00a0first last\t, " = ["name", "first last"] := by
    decide +kernel
  rw [hitems] at hread hnormal
  exact ⟨hread, hback _ hnormal⟩

end PagedQuery
