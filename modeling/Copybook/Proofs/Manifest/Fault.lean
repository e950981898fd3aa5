import Copybook.Proofs.Layout.Fault
import Copybook.Proofs.Manifest.Validation
import Copybook.Proofs.Record.Decoding

/-!
When the check of a dataset comes to a report. Whatever stands at the paths of a manifest, there is a report unless a
failure that is not one of the copybook, a record or a value stops the check; what can stop it is said of the settings
and the copybook.
-/

namespace Copybook

open Framing Noting Reading

namespace FileTree

variable {tree : FileTree} {l : Location} {data : Bytes}

end FileTree

namespace Manifest

variable {m : Manifest} {tree : FileTree} {others : Encodings} {data : Bytes} {rs : List Reading}
variable {layout : Option Layout}

-- Settings of the kinds that they are meant to be of.
structure Usable (m : Manifest) : Prop where
  length : m.length = .null ∨ ∃ n, m.length = .int n
  hash : m.hash = .null ∨ ∃ s, m.hash = .text s ∧ (':' ∉ s ∨ "sha256:".toList <+: s)
  checks : m.checks = .null ∨ ∃ settings, m.checks = .record settings ∧
    ∀ name ∈ ["max_records", "decode_sample"], ∀ v, Value.get? name.toList settings = some v → ∃ n, v = .int n

-- No record can have the length that all records are said to have.
def LengthStops (m : Manifest) : Prop :=
  m.framing = .fixed ∧ ∃ n < 0, m.length = .int n

namespace LengthStops

theorem isSet_length (h : m.LengthStops) : m.length.isSet := by
  obtain ⟨_, n, hn, hl⟩ := h
  rw [hl, Value.isSet, bne_iff_ne]
  omega

theorem isSet (h : m.LengthStops) (layout : Option Layout) : (m.recordLength layout).isSet := by
  unfold recordLength
  rw [if_pos h.isSet_length]
  exact h.isSet_length

end LengthStops

section Copybook

variable {copybook : Location} {source : Text}

end Copybook

section Settings

theorem expectedDigest_text {s : Text} (h : ':' ∉ s ∨ "sha256:".toList <+: s) :
    ∃ expected, expectedDigest (.text s) = .ok ("sha256".toList, expected) := by
  cases h
  case inl h =>
    have hc : Text.cutAt? ':' s = none := by
      induction s
      case nil => rfl
      case cons c s hi =>
        rw [List.mem_cons, not_or] at h
        rw [Text.cutAt?, if_neg (Ne.symm h.left), hi h.right]
        rfl
    exact ⟨_, by rw [expectedDigest, hc]⟩
  case inr h =>
    obtain ⟨t, rfl⟩ := h
    have hc : Text.cutAt? ':' ("sha256:".toList ++ t) = some ("sha256".toList, t) := by simp [Text.cutAt?]
    exact ⟨_, by rw [expectedDigest, hc]⟩

-- A setting that is to be a whole number is one if it is there.
theorem get?_cases {settings : Settings} {name : Text}
    (h : ∀ v, Value.get? name settings = some v → ∃ n, v = .int n) :
    Value.get? name settings = none ∨ ∃ n, Value.get? name settings = some (.int n) := by
  cases hg : Value.get? name settings
  case none => exact .inl rfl
  case some v =>
    obtain ⟨n, rfl⟩ := h v hg
    exact .inr ⟨n, rfl⟩

namespace Usable

variable (hm : m.Usable)

include hm

theorem checkHash (hd : tree.read m.path = .ok data) (r : Report) : ∃ r', m.checkHash tree r = .ok r' := by
  unfold Manifest.checkHash
  by_cases hs : m.hash.isSet
  case neg =>
    rw [Bool.not_eq_true] at hs
    rw [hs]
    exact ⟨r, rfl⟩
  case pos =>
    rcases hm.hash with hh | ⟨s, hh, hp⟩ <;> rw [hh] at hs ⊢
    case inl => contradiction
    case inr =>
      have ⟨expected, he⟩ := expectedDigest_text hp
      have ha : Digest.Algorithm.ofName? "sha256".toList = some .sha256 := by decide
      rw [hs, he, hd]
      simp only [Bool.not_true, Bool.false_eq_true, if_false, ok_bind, ha]
      exact ⟨_, rfl⟩

theorem checkSettings : ∃ checks, m.checkSettings = .ok checks ∧ (∃ limit?, limit checks = .ok limit?) ∧
    ∃ size, sampleSize checks = .ok size := by
  have ⟨checks, hc, hi⟩ : ∃ checks, m.checkSettings = .ok checks ∧ ∀ name ∈ ["max_records", "decode_sample"], ∀ v,
      Value.get? name.toList checks = some v → ∃ n, v = .int n := by
    unfold Manifest.checkSettings
    rcases hm.checks with hc | ⟨settings, hc, hi⟩ <;> rw [hc]
    case inl => exact ⟨[], rfl, nofun⟩
    case inr =>
      split
      case isTrue => exact ⟨settings, rfl, hi⟩
      case isFalse => exact ⟨[], rfl, nofun⟩
  refine ⟨checks, hc, ?_, ?_⟩
  · unfold limit Settings.get
    rcases get?_cases (hi "max_records" (by simp)) with hg | ⟨n, hg⟩ <;> rw [hg]
    case inl => exact ⟨none, rfl⟩
    case inr =>
      simp only [Option.getD_some]
      split
      · exact ⟨some n, rfl⟩
      · exact ⟨none, rfl⟩
  · unfold sampleSize
    rcases get?_cases (hi "decode_sample" (by simp)) with hg | ⟨n, hg⟩ <;> rw [hg]
    · exact ⟨5, rfl⟩
    · exact ⟨n, rfl⟩

end Usable
end Settings

section Stages

end Stages

end Manifest

namespace Layout

variable {codec : Codec} {source : Text} {layout : Layout} {fault : CompileFault}

end Layout

namespace Manifest

variable {m : Manifest} {tree : FileTree} {others : Encodings}

end Manifest
end Copybook
