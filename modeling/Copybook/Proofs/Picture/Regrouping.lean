import Copybook.Proofs.Picture.Spelling

/-!
The type that a picture stands for depends on the symbols of its format, not on how they are grouped to runs.
-/

namespace Copybook

variable {s s' t p q : Text} {usage : Option Text} {symbol : Char → Bool} {rs rs' : List Picture.Run} {type : FieldType}

namespace Picture

-- Texts of the same symbols in the same order, before the same usage.
def Regrouped (usage : Option Text) (s s' : Text) : Prop :=
  ∃ rs rs', Spelled rs usage s ∧ Spelled rs' usage s' ∧ expand rs = expand rs'

namespace Regrouped

variable (h : Regrouped usage s s')

include h

theorem head?_eq_some_iff {c : Char} (hp : c ≠ '.') (hb : c ≠ ' ') : s.head? = some c ↔ s'.head? = some c := by
  obtain ⟨rs, rs', hs, hs', he⟩ := h
  rw [hs.head?_eq_some_iff hp hb, hs'.head?_eq_some_iff hp hb, head?_congr he]

theorem tail {c : Char} (hc : isMark c) (hs : s.head? = some c) : Regrouped usage s.tail s'.tail := by
  have hs' := (h.head?_eq_some_iff (of_isMark hc).right.left (of_isMark hc).right.right).mp hs
  obtain ⟨rs, rs', hr, hr', he⟩ := h
  obtain ⟨rest, rfl, ht⟩ := hr.tail hc hs
  obtain ⟨rest', rfl, ht'⟩ := hr'.tail hc hs'
  rw [expand_cons, expand_cons] at he
  exact ⟨rest, rest', ht, ht', List.append_cancel_left he⟩

theorem usage?_eq : usage? s = usage? s' := by
  obtain ⟨rs, rs', hs, hs', he⟩ := h
  rw [hs.usage?, hs'.usage?]
  simp only [eq_nil_congr he]

-- As many symbols are read of both at the front, and what is left is regrouped again.
theorem runs? (hs : ∀ c, symbol c → isCounted c) : (runs? symbol s = none ∧ runs? symbol s' = none) ∨
    ∃ n u u', runs? symbol s = some (n, u) ∧ runs? symbol s' = some (n, u') ∧ Regrouped usage u u' := by
  obtain ⟨rs, rs', ⟨hr, t, rfl, hu⟩, ⟨hr', t', rfl, hu'⟩, he⟩ := h
  have hh : rs.head?.any (symbol ·.symbol) = rs'.head?.any (symbol ·.symbol) := by
    simpa [Option.any_map, Function.comp_def] using congrArg (Option.any symbol) (head?_congr he)
  have htotal : total (rs.takeWhile (symbol ·.symbol)) = total (rs'.takeWhile (symbol ·.symbol)) := by
    rw [←total_expand, ←takeWhile_expand, he, takeWhile_expand, total_expand]
  have hrest : expand (rs.dropWhile (symbol ·.symbol)) = expand (rs'.dropWhile (symbol ·.symbol)) := by
    rw [←dropWhile_expand, he, dropWhile_expand]
  rw [runs?_spell hs hr (isTail_of_usage? hu), runs?_spell hs hr' (isTail_of_usage? hu'), hh, htotal]
  split
  case isFalse => exact .inl ⟨rfl, rfl⟩
  case isTrue => exact .inr ⟨_, _, _, rfl, rfl, _, _, .dropWhile hr hu _, .dropWhile hr' hu' _, hrest⟩

theorem digits? : (digits? s = none ∧ digits? s' = none) ∨
    ∃ i f u u', digits? s = some (i, f, u) ∧ digits? s' = some (i, f, u') ∧ Regrouped usage u u' := by
  rw [digits?_eq, digits?_eq]
  obtain ⟨hn, hn'⟩ | ⟨i, u, u', hi, hi', hu⟩ := h.runs? isCounted_of_isNine
  case inl =>
    rw [hn, hn']
    simp only [←h.head?_eq_some_iff (show 'V' ≠ '.' by decide) (by decide)]
    by_cases hv : s.head? = some 'V'
    case neg => exact .inl ⟨if_neg hv, if_neg hv⟩
    case pos =>
      rw [if_pos hv, if_pos hv]
      obtain ⟨hf, hf'⟩ | ⟨f, u, u', hf, hf', hu⟩ := (h.tail rfl hv).runs? isCounted_of_isNine
      case inl => exact .inl ⟨by rw [hf]; rfl, by rw [hf']; rfl⟩
      case inr => exact .inr ⟨0, f, u, u', by rw [hf]; rfl, by rw [hf']; rfl, hu⟩
  case inr =>
    rw [hi, hi']
    dsimp only
    simp only [←hu.head?_eq_some_iff (show 'V' ≠ '.' by decide) (by decide)]
    by_cases hv : u.head? = some 'V'
    case neg => exact .inr ⟨i, 0, u, u', if_neg hv, if_neg hv, hu⟩
    case pos =>
      have ht := hu.tail rfl hv
      rw [if_pos hv, if_pos hv]
      obtain ⟨hf, hf'⟩ | ⟨f, w, w', hf, hf', hw⟩ := ht.runs? isCounted_of_isNine
      case inl => exact .inr ⟨i, 0, u.tail, u'.tail, by rw [hf], by rw [hf'], ht⟩
      case inr => exact .inr ⟨i, f, w, w', by rw [hf], by rw [hf'], hw⟩

theorem unsigned : Regrouped usage (unsigned s) (unsigned s') := by
  have hS := h.head?_eq_some_iff (show 'S' ≠ '.' by decide) (by decide)
  unfold Picture.unsigned
  simp only [←hS]
  split
  case isTrue hs => exact h.tail rfl hs
  case isFalse => exact h

theorem textLength?_eq : textLength? s = textLength? s' := by
  rw [textLength?, textLength?]
  obtain ⟨hn, hn'⟩ | ⟨n, u, u', hr, hr', hu⟩ := h.runs? isCounted_of_isTextSymbol
  case inl => rw [hn, hn']
  case inr =>
    rw [hr, hr']
    simp only [Option.bind_eq_bind, Option.bind_some, hu.usage?_eq]

theorem number?_eq : number? s = number? s' := by
  rw [Picture.number?_eq, Picture.number?_eq]
  have hS := h.head?_eq_some_iff (show 'S' ≠ '.' by decide) (by decide)
  obtain ⟨hn, hn'⟩ | ⟨i, f, u, u', hd, hd', hu⟩ := h.unsigned.digits?
  case inl => rw [hn, hn']; rfl
  case inr =>
    rw [hd, hd']
    simp only [Option.bind_some, hu.usage?_eq, hS]

end Regrouped

theorem Regrouped.classify (h : Regrouped usage (tidy p) (tidy q)) (hc : classify p = .ok type) (hp : type.isEdited = false) :
    classify q = counted type ((counts (tidy q)).map List.length) := by
  rcases of_classify hc hp with ⟨n, hn, rfl⟩ | ⟨shape, word, storage, hn, hs, rfl⟩
  case inl => exact classify_of_textLength? (h.textLength?_eq ▸ hn)
  case inr => exact classify_of_number? (h.number?_eq ▸ hn) hs

end Picture
end Copybook
