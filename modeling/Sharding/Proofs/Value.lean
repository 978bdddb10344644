import Sharding.Proofs.Calendar.IsoForm
import Sharding.Value

/-!
# Values in documents

What a value in a document is read as again. Datetimes are texts there, so a text that has their
form does not come back as the text it was.
-/

set_option autoImplicit false

namespace Sharding.Value

open Calendar (DateTime IsoForm ofIso?_eq_some_iff isoForm_isoText)

variable {content : String} {moment : DateTime}

theorem ofDocument?_text_of_isoForm (form : IsoForm content.toList moment) :
    ofDocument? (.text content) = some (.datetime moment) := by
  simp only [ofDocument?, ofIso?_eq_some_iff.mpr form]

theorem ofDocument?_text_of_not_isoForm (other : ∀ moment, ¬ IsoForm content.toList moment) :
    ofDocument? (.text content) = some (.text content) := by
  cases read : DateTime.ofIso? content with
  | none => simp only [ofDocument?, read]
  | some moment => exact absurd (ofIso?_eq_some_iff.mp read) (other moment)

/-- A value comes back from the document it is written to: every integer, every datetime, and every
text that is no datetime in ISO form. A text in that form comes back as the datetime. -/
theorem values_survive_documents :
    (∀ word, ofDocument? (toDocument (.int word)) = some (.int word)) ∧
    (∀ moment, ofDocument? (toDocument (.datetime moment)) = some (.datetime moment)) ∧
    (∀ content, ofDocument? (toDocument (.text content)) = some (.text content) ↔
      ∀ moment, ¬ IsoForm content.toList moment) ∧
    ∀ content moment, IsoForm content.toList moment →
      ofDocument? (toDocument (.text content)) = some (.datetime moment) := by
  refine ⟨fun word => ?_, fun moment => ofDocument?_text_of_isoForm (isoForm_isoText moment),
    fun content => ⟨fun back moment form => ?_, ofDocument?_text_of_not_isoForm⟩,
    fun _ _ => ofDocument?_text_of_isoForm⟩
  · have fits : Word.ofInt? word.toInt = some word := Word.ofInt?_eq_some_iff.mpr rfl
    simp only [toDocument, Document.ofWord, Document.ofInt, ofDocument?, fits, Option.map_some]
  · cases back.symm.trans (ofDocument?_text_of_isoForm form)

/-- A text in plain form comes back. One in ISO form, with a blank more, a field that is not padded
and a leap second, does not. -/
theorem plain_texts_survive :
    ofDocument? (toDocument (.text "2020-01-01 10:00:00")) = some (.text "2020-01-01 10:00:00") ∧
    ∃ moment, IsoForm " 2020-1-01T23:59:60.5".toList moment ∧
      ofDocument? (toDocument (.text " 2020-1-01T23:59:60.5")) = some (.datetime moment) := by
  obtain ⟨_, _, kept, turned⟩ := values_survive_documents
  have refused : DateTime.ofIso? "2020-01-01 10:00:00" = none := by decide +kernel
  obtain ⟨moment, read⟩ : ∃ moment, DateTime.ofIso? " 2020-1-01T23:59:60.5" = some moment :=
    Option.isSome_iff_exists.mp (by decide +kernel)
  have form := ofIso?_eq_some_iff.mp read
  refine ⟨(kept _).mpr fun moment form => ?_, moment, form, turned _ moment form⟩
  cases refused.symm.trans (ofIso?_eq_some_iff.mpr form)

theorem iso_text_is_turned :
    (ofDocument? (toDocument (.text "2020-01-01T10:00:00"))).map shown =
      some "2020-01-01 10:00:00" ∧
    ofDocument? (toDocument (.text "2020-01-01T10:00:00")) ≠
      some (.text "2020-01-01T10:00:00") := by
  decide +kernel

end Sharding.Value
