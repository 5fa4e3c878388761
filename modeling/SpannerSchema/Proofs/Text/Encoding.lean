/-! The bytes of texts. -/

namespace SpannerSchema
namespace Text

variable {bytes : ByteArray} {bs : List UInt8} {s : String}

/-- The bytes that encode a text. -/
def utf8 (s : String) : List UInt8 := s.toUTF8.data.toList

theorem fromUTF8?_eq_some_iff : String.fromUTF8? bytes = some s ↔ bytes = s.toUTF8 := by
  constructor
  · intro h
    unfold String.fromUTF8? at h
    split at h
    · cases h
      rfl
    · cases h
  · rintro rfl
    rw [String.fromUTF8?, String.toUTF8_eq_toByteArray, dif_pos s.isValidUTF8]
    rfl

theorem fromUTF8?_toArray_eq_some_iff : String.fromUTF8? ⟨bs.toArray⟩ = some s ↔ bs = utf8 s := by
  rw [fromUTF8?_eq_some_iff, utf8]
  constructor
  · intro h
    rw [← h]
  · rintro rfl
    rfl

end Text
end SpannerSchema
