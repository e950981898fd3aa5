import Copybook.Codec
import Copybook.Proofs.Except

/-!
What comes of a conversion. A code page reads all bytes and writes all texts but those with a character that it lacks.
Other encodings may do less than that, and there is none for a name with a NUL.
-/

namespace Copybook

-- Reading comes to a text, and writing to bytes unless there is a character missing.
structure Encoding.Converts (e : Encoding) : Prop where
  reads (b : Bytes) : ∃ s, e.decode b = .ok s
  writes (s message : Text) : e.encode s ≠ .error (.failed message)

namespace Codec

variable {codec : Codec} {page : CodePage} {s : Text} {b : Bytes}

-- The codec has an encoding, and that one converts.
def Converts (codec : Codec) : Prop :=
  ∃ e, codec.encoding = .ok e ∧ e.Converts

theorem encoding_eq (hp : CodePage.ofName? codec.page = some page) : codec.encoding = .ok page.encoding := by
  rw [encoding, hp]

section Page

variable (hc : codec.Plain) (hp : CodePage.ofName? codec.page = some page)

include hc hp

theorem decode_eq (b : Bytes) : codec.decode b = .ok (page.decode b) := by
  rw [decode, hc.left, encoding_eq hp]
  simp only
  split
  case isTrue h =>
    rw [Bool.and_eq_true, List.isEmpty_iff] at h
    obtain ⟨rfl, -⟩ := h
    cases page <;> rfl
  case isFalse => rfl

theorem encode_eq_ok_iff : codec.encode s = .ok b ↔ page.encode? s = some b := by
  rw [encode, hc.right, encoding_eq hp]
  simp only [ok_bind, CodePage.encoding]
  cases page.encode? s <;> simp [Except.mapError]

theorem encode_of_none (h : page.encode? s = none) : codec.encode s = .error (.notInCodePage s codec.page) := by
  rw [encode, hc.right, encoding_eq hp]
  simp only [ok_bind, CodePage.encoding, h]
  rfl

end Page

section Converts

variable (hc : codec.Plain) (hv : codec.Converts)

include hc hv

theorem encode_cases (s : Text) :
    (∃ b, codec.encode s = .ok b) ∨ codec.encode s = .error (.notInCodePage s codec.page) := by
  obtain ⟨e, he, hv⟩ := hv
  rw [encode, hc.right, he]
  simp only [ok_bind]
  cases hs : e.encode s
  case ok b => exact .inl ⟨b, rfl⟩
  case error fault =>
    cases fault
    case noCharacter => exact .inr rfl
    case failed message => exact absurd hs (hv.writes s message)

end Converts

end Codec
end Copybook
