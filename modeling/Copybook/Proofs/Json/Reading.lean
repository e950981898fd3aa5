import Copybook.Proofs.Json.Line
import Copybook.Proofs.Json.Token

/-!
What is written of a value is read back, with texts in the place of what has no form of its own in JSON. A value is
read from the text that begins with its form, whatever follows, as long as a number in front ends there.
-/

namespace Copybook
namespace Json

variable {fuel depth k : Nat} {s t r rest : Text}

theorem value_of_word {c : Char} (hc : c ≠ '"' ∧ c ≠ '[' ∧ c ≠ '\x7b') {found : Value × Text}
    (h : word? (c :: s) = some found) : value (fuel + 1) depth (c :: s) = .ok found := by
  rw [value, h]
  all_goals simp [hc, pure, Except.pure]

theorem value_of_number {c : Char} (hc : c ≠ '"' ∧ c ≠ '[' ∧ c ≠ '\x7b')
    (h : word? (c :: s) = none) : value (fuel + 1) depth (c :: s) = number (c :: s) := by
  rw [value, h]
  all_goals simp [hc]

theorem value_ofInt (h : EndsNumber rest) {i : Int} (hi : isWritable i) :
    value (fuel + 1) depth (Text.ofInt i ++ rest) = .ok (.int i, rest) := by
  obtain ⟨c, t, ht, hc⟩ := Text.ofInt_cons i
  have hd : ∀ d < 10, Nat.digitChar d ≠ '"' ∧ Nat.digitChar d ≠ '[' ∧ Nat.digitChar d ≠ '\x7b' := by decide
  have hc : c ≠ '"' ∧ c ≠ '[' ∧ c ≠ '\x7b' := by
    rcases hc with rfl | ⟨d, hl, rfl⟩
    · decide
    · exact hd d hl
  rw [←number_ofInt h hi, ht]
  exact value_of_number hc (List.cons_append ▸ ht ▸ word?_ofInt i)

theorem value_of_quote (s : Text) : value (fuel + 1) depth (quote s ++ rest) = .ok (.text s, rest) := by
  have hs : quote s ++ rest = '"' :: (s.flatMap escapeChar ++ '"' :: rest) := by simp [quote]
  rw [hs, value, stringFrom_quote]
  rfl

theorem value_of_items {vs : List Value} (hc : ∀ t, skip r ≠ ']' :: t)
    (h : items fuel depth (skip r) = .ok (vs, rest)) :
    value (fuel + 1) (depth + 1) ('[' :: r) = .ok (.list vs, rest) := by
  rw [value]
  split
  case h_1 t ht => exact absurd ht (hc t)
  case h_2 => rw [h]; rfl

theorem value_of_fields {fs : List (Text × Value)} (hc : ∀ t, skip r ≠ '\x7d' :: t)
    (h : fields fuel depth (skip r) = .ok (fs, rest)) :
    value (fuel + 1) (depth + 1) ('\x7b' :: r) = .ok (.record (Value.distinct fs), rest) := by
  rw [value]
  split
  case h_1 t ht => exact absurd ht (hc t)
  case h_2 => rw [h]; rfl

theorem items_last {v : Value} (hv : value fuel depth s = .ok (v, t)) (ht : skip t = ']' :: rest) :
    items (fuel + 1) depth s = .ok ([v], rest) := by
  rw [items, hv, ok_bind]
  simp only [ht]
  rfl

theorem items_more {v : Value} {vs : List Value} (hv : value fuel depth s = .ok (v, t)) (ht : skip t = ',' :: r)
    (h : items fuel depth (skip r) = .ok (vs, rest)) : items (fuel + 1) depth s = .ok (v :: vs, rest) := by
  rw [items, hv, ok_bind]
  simp only [ht, h]
  rfl

theorem fields_last {name : Text} {v : Value} (hn : stringFrom none s = some (name, ':' :: r))
    (hv : value fuel depth (skip r) = .ok (v, t)) (ht : skip t = '\x7d' :: rest) :
    fields (fuel + 1) depth ('"' :: s) = .ok ([(name, v)], rest) := by
  rw [fields, hn]
  simp only [orMalformed, ok_bind]
  rw [show skip (':' :: r) = ':' :: r from rfl]
  simp only [hv, ok_bind, ht]
  rfl

theorem fields_more {name : Text} {v : Value} {fs : List (Text × Value)} {u : Text}
    (hn : stringFrom none s = some (name, ':' :: r)) (hv : value fuel depth (skip r) = .ok (v, t))
    (ht : skip t = ',' :: u) (h : fields fuel depth (skip u) = .ok (fs, rest)) :
    fields (fuel + 1) depth ('"' :: s) = .ok ((name, v) :: fs, rest) := by
  rw [fields, hn]
  simp only [orMalformed, ok_bind]
  rw [show skip (':' :: r) = ':' :: r from rfl]
  simp only [hv, ok_bind, ht, h]
  rfl

-- What stands in front of a member that has a line of its own.
def Style.line (style : Style) (depth : Nat) : Text :=
  if style.spread then '\n' :: List.replicate (2 * depth) ' ' else []

-- What follows the first member up to the closing bracket.
def Style.closing (style : Style) (depth : Nat) (last : Char) (members : List Text) : Text :=
  members.flatMap (fun s => ',' :: style.line (depth + 1) ++ s) ++ style.line depth ++ [last]

theorem Style.enclose_cons (style : Style) (depth : Nat) (first last : Char) (s : Text) (ss : List Text) :
    style.enclose depth first last (s :: ss) = first :: style.line (depth + 1) ++ s ++ style.closing depth last ss := by
  have hj (separator : Text) : Text.join separator (s :: ss) = s ++ ss.flatMap (separator ++ ·) := by
    induction ss generalizing s
    case nil => simp [Text.join]
    case cons t ss hi => simp [Text.join, hi]
  simp only [enclose, closing, line, hj, List.isEmpty_cons, Bool.false_eq_true, if_false, List.append_assoc,
    List.cons_append]

theorem skip_cons {c : Char} (hc : isJsonBlank c = false) : skip (c :: s) = c :: s := by
  rw [skip, List.dropWhile_cons_of_neg (by simp [hc])]

theorem skip_line {style : Style} {c : Char} (hc : isJsonBlank c = false) :
    skip (style.line depth ++ c :: s) = c :: s := by
  have hb : ∀ d ∈ style.line depth, isJsonBlank d := by
    intro d hd
    unfold Style.line at hd
    split at hd
    case isTrue =>
      rcases List.mem_cons.mp hd with rfl | hd
      · rfl
      · rw [List.eq_of_mem_replicate hd]; rfl
    case isFalse => contradiction
  rw [skip, List.dropWhile_append_of_pos hb]
  exact skip_cons hc

end Json

namespace Value

mutual

-- What the text of the value says: a text in the place of a decimal, of bytes and of a time.
def exported : Value → Value
  | .decimal d => .text d.toText
  | .bytes b => .text (Bytes.toHex b)
  | .time t => .text (t.toText 'T')
  | .list items => .list (exportedItems items)
  | .record fields => .record (exportedFields fields)
  | v => v

def exportedItems : List Value → List Value
  | [] => []
  | v :: vs => v.exported :: exportedItems vs

def exportedFields : List (Text × Value) → List (Text × Value)
  | [] => []
  | (name, v) :: fields => (name, v.exported) :: exportedFields fields

end

mutual

-- No record in the value has two fields of one name.
def Named : Value → Prop
  | .list items => AllNamed items
  | .record fields => fields.Pairwise (·.1 ≠ ·.1) ∧ FieldsNamed fields
  | _ => True

def AllNamed : List Value → Prop
  | [] => True
  | v :: vs => v.Named ∧ AllNamed vs

def FieldsNamed : List (Text × Value) → Prop
  | [] => True
  | (_, v) :: fields => v.Named ∧ FieldsNamed fields

end

theorem exportedFields_eq (fields : List (Text × Value)) :
    exportedFields fields = fields.map fun (name, v) => (name, v.exported) := by
  induction fields
  case nil => rfl
  case cons field fields hi => rw [exportedFields, hi]; rfl

theorem put_of_not_mem {name : Text} {fields : List (Text × Value)} (h : ∀ f ∈ fields, f.1 ≠ name) (v : Value) :
    put name v fields = fields ++ [(name, v)] := by
  induction fields
  case nil => rfl
  case cons f fields hi =>
    have ⟨hf, hfs⟩ := List.forall_mem_cons.mp h
    rw [put, if_neg hf, hi hfs, List.cons_append]

theorem distinct_of_pairwise {fields : List (Text × Value)} (h : fields.Pairwise (·.1 ≠ ·.1)) :
    distinct fields = fields := by
  unfold distinct
  induction fields using List.reverseRecOn
  case nil => rfl
  case append_singleton fields f hi =>
    have ⟨hs, _, hd⟩ := List.pairwise_append.mp h
    rw [List.foldl_append, hi hs]
    exact put_of_not_mem (fun g hg => hd g hg f (List.mem_singleton_self f)) f.2

end Value

namespace Json

open Value

variable {style : Style} {fuel depth k : Nat} {s t r rest : Text}

-- A text that begins like a value, and not with a blank or with a closing bracket.
def Begins (s : Text) : Prop :=
  ∃ c t, s = c :: t ∧ isJsonBlank c = false ∧ c ≠ ']'

theorem Begins.skip_line (h : Begins s) (t : Text) : skip (style.line depth ++ (s ++ t)) = s ++ t := by
  obtain ⟨c, u, rfl, hc, -⟩ := h
  exact Json.skip_line hc

theorem Begins.ne (h : Begins s) (t u : Text) : s ++ t ≠ ']' :: u := by
  obtain ⟨c, v, rfl, -, hc⟩ := h
  exact fun he => hc (List.cons.inj he).left

theorem Begins.colon (h : Begins s) (style : Style) (t : Text) :
    ∃ r, style.colon ++ (s ++ t) = ':' :: r ∧ skip r = s ++ t := by
  obtain ⟨c, u, rfl, hc, -⟩ := h
  unfold Style.colon
  split
  case isTrue => exact ⟨' ' :: (c :: u ++ t), rfl, skip_cons hc⟩
  case isFalse => exact ⟨c :: u ++ t, rfl, skip_cons hc⟩

theorem begins_of_writeAt {v : Value} (hv : v.Exact) (h : writeAt style depth v = some s) : Begins s := by
  cases v <;> simp only [writeAt] at h
  case null => cases h; exact ⟨_, _, rfl, rfl, by decide⟩
  case bool b => cases h; cases b <;> exact ⟨_, _, rfl, rfl, by decide⟩
  case int i =>
    split at h <;> cases h
    obtain ⟨c, t, ht, hc⟩ := Text.ofInt_cons i
    have hd : ∀ d < 10, isJsonBlank (Nat.digitChar d) = false ∧ Nat.digitChar d ≠ ']' := by decide
    rcases hc with rfl | ⟨d, hl, rfl⟩
    · exact ⟨_, t, ht, rfl, by decide⟩
    · exact ⟨_, t, ht, hd d hl⟩
  case float digits => exact absurd rfl (hv _ (List.mem_singleton_self _) digits)
  case decimal | text | bytes | time => cases h; exact ⟨_, _, rfl, rfl, by decide⟩
  case ellipsis => contradiction
  case list | record =>
    split at h
    case isFalse => contradiction
    case isTrue =>
      obtain ⟨members, -, rfl⟩ := Option.map_eq_some_iff.mp h
      cases members <;> exact ⟨_, _, rfl, rfl, by decide⟩

theorem endsNumber_cons {c : Char} (h : isAsciiDigit c = false ∧ c ≠ '.' ∧ c ≠ 'e' ∧ c ≠ 'E') :
    EndsNumber (c :: s) := by
  rintro d ⟨⟩
  exact h

theorem endsNumber_closing {last : Char} (hl : last = ']' ∨ last = '\x7d') (members : List Text) :
    EndsNumber (style.closing depth last members ++ rest) := by
  have hl : isAsciiDigit last = false ∧ last ≠ '.' ∧ last ≠ 'e' ∧ last ≠ 'E' := by
    rcases hl with rfl | rfl <;> decide
  unfold Style.closing Style.line
  cases members
  case nil =>
    split
    case isTrue => exact endsNumber_cons (by decide)
    case isFalse => exact endsNumber_cons hl
  case cons => exact endsNumber_cons (by decide)

theorem skip_closing_nil {last : Char} (hl : isJsonBlank last = false) :
    skip (style.closing depth last [] ++ rest) = last :: rest := by
  have hs : style.closing depth last [] ++ rest = style.line depth ++ last :: rest := by simp [Style.closing]
  rw [hs, skip_line hl]

theorem skip_closing_cons (last : Char) (ss : List Text) : skip (style.closing depth last (s :: ss) ++ rest) =
    ',' :: (style.line (depth + 1) ++ (s ++ (style.closing depth last ss ++ rest))) := by
  have hs : style.closing depth last (s :: ss) ++ rest =
      ',' :: (style.line (depth + 1) ++ (s ++ (style.closing depth last ss ++ rest))) := by simp [Style.closing]
  rw [hs, skip_cons rfl]

theorem length_closing_pos (style : Style) (depth : Nat) (last : Char) (ss : List Text) :
    0 < (style.closing depth last ss).length := by
  simp [Style.closing]

theorem length_closing_cons (style : Style) (depth : Nat) (last : Char) (s : Text) (ss : List Text) :
    (style.closing depth last (s :: ss)).length =
      (style.line (depth + 1)).length + s.length + (style.closing depth last ss).length + 1 := by
  simp [Style.closing]
  omega

theorem writeItems_eq_cons_iff {items : List Value} {ss : List Text} : writeItems style depth items = some (s :: ss) ↔
    ∃ v vs, items = v :: vs ∧ writeAt style depth v = some s ∧ writeItems style depth vs = some ss := by
  cases items <;> simp [writeItems, Option.bind_eq_some_iff]

theorem writeItems_eq_nil_iff {items : List Value} : writeItems style depth items = some [] ↔ items = [] := by
  cases items <;> simp [writeItems, Option.bind_eq_some_iff]

theorem writeFields_eq_cons {fields : List (Text × Value)} {ss : List Text}
    (h : writeFields style depth fields = some (s :: ss)) : ∃ name v fs t, fields = (name, v) :: fs ∧
      writeAt style depth v = some t ∧ s = quote name ++ style.colon ++ t ∧ writeFields style depth fs = some ss := by
  cases fields <;> simp only [writeFields] at h
  case nil => cases h
  case cons field fields =>
    obtain ⟨t, hw, h⟩ := Option.bind_eq_some_iff.mp h
    obtain ⟨ts, hws, h⟩ := Option.bind_eq_some_iff.mp h
    cases h
    exact ⟨field.1, field.2, fields, t, rfl, hw, rfl, hws⟩

theorem writeFields_eq_nil_iff {fields : List (Text × Value)} :
    writeFields style depth fields = some [] ↔ fields = [] := by
  cases fields <;> simp [writeFields, Option.bind_eq_some_iff]

theorem length_enclose_cons {first last : Char} {ss : List Text}
    (h : (style.enclose depth first last (s :: ss)).length ≤ fuel + 1) :
    s.length + (style.closing depth last ss).length ≤ fuel := by
  rw [Style.enclose_cons] at h
  simp only [List.length_append, List.length_cons] at h
  omega

-- What is written of a list is read back if what is written of its items is, up to the closing bracket.
theorem value_enclosed_items {items : List Value} {members : List Text} (hv : (Value.list items).Exact)
    (hm : writeItems style (depth + 1) items = some members)
    (hi : ∀ s ss, members = s :: ss →
      Json.items fuel k (s ++ (style.closing depth ']' ss ++ rest)) = .ok (exportedItems items, rest)) :
    value (fuel + 1) (k + 1) (style.enclose depth '[' ']' members ++ rest) =
      .ok ((Value.list items).exported, rest) := by
  cases members
  case nil =>
    cases writeItems_eq_nil_iff.mp hm
    rfl
  case cons s ss =>
    have hb : Begins s := by
      obtain ⟨v, vs, rfl, hw, -⟩ := writeItems_eq_cons_iff.mp hm
      exact begins_of_writeAt (exact_of_items hv).left hw
    rw [Style.enclose_cons]
    simp only [List.append_assoc, List.cons_append]
    refine value_of_items ?_ ?_ <;> rw [hb.skip_line]
    · exact hb.ne _
    · exact hi s ss rfl

-- The same of a record. None of its fields takes the place of another one, as their names are different.
theorem value_enclosed_fields {fields : List (Text × Value)} {members : List Text} (hn : (Value.record fields).Named)
    (hm : writeFields style (depth + 1) fields = some members)
    (hi : ∀ s ss, members = s :: ss →
      Json.fields fuel k (s ++ (style.closing depth '\x7d' ss ++ rest)) = .ok (exportedFields fields, rest)) :
    value (fuel + 1) (k + 1) (style.enclose depth '\x7b' '\x7d' members ++ rest) =
      .ok ((Value.record fields).exported, rest) := by
  cases members
  case nil =>
    cases writeFields_eq_nil_iff.mp hm
    rfl
  case cons s ss =>
    obtain ⟨t, rfl⟩ : ∃ t, s = '"' :: t := by
      obtain ⟨_, _, _, _, -, -, rfl, -⟩ := writeFields_eq_cons hm
      exact ⟨_, rfl⟩
    have hb : Begins ('"' :: t) := ⟨_, _, rfl, rfl, by decide⟩
    have hd : distinct (exportedFields fields) = exportedFields fields := by
      refine distinct_of_pairwise ?_
      rw [exportedFields_eq]
      exact List.pairwise_map.mpr hn.left
    rw [Style.enclose_cons, exported, ←hd]
    simp only [List.append_assoc, List.cons_append]
    refine value_of_fields ?_ ?_ <;> rw [←List.cons_append, hb.skip_line]
    · exact fun u hu => absurd (List.cons.inj hu).left (by decide)
    · exact hi _ ss rfl

mutual

theorem value_writeAt {v : Value} {fuel depth k : Nat} {s rest : Text} (hv : v.Exact) (hn : v.Named)
    (h : writeAt style depth v = some s) (hf : s.length ≤ fuel) (hk : maxOpen ≤ depth + k) (hr : EndsNumber rest) :
    value fuel k (s ++ rest) = .ok (v.exported, rest) := by
  obtain ⟨c, t, ht, -, -⟩ := begins_of_writeAt hv h
  obtain ⟨fuel, rfl⟩ : ∃ f, fuel = f + 1 := Nat.exists_eq_add_one_of_ne_zero (by rintro rfl; simp [ht] at hf)
  cases v <;> simp only [writeAt] at h
  case null => cases h; exact value_of_word (by decide) rfl
  case bool b => cases h; cases b <;> exact value_of_word (by decide) rfl
  case int i =>
    split at h <;> cases h
    case isTrue hi => exact value_ofInt hr hi
  case float digits => exact absurd rfl (hv _ (List.mem_singleton_self _) digits)
  case decimal | text | bytes | time => cases h; exact value_of_quote _
  case ellipsis => contradiction
  case list items =>
    split at h
    case isFalse => contradiction
    case isTrue hd =>
    obtain ⟨members, hm, rfl⟩ := Option.map_eq_some_iff.mp h
    obtain ⟨k, rfl⟩ : ∃ n, k = n + 1 := Nat.exists_eq_add_one_of_ne_zero (by omega)
    refine value_enclosed_items hv hm fun s ss he => ?_
    subst he
    exact items_writeItems hv hn hm (length_enclose_cons hf) (by omega)
  case record fields =>
    split at h
    case isFalse => contradiction
    case isTrue hd =>
    obtain ⟨members, hm, rfl⟩ := Option.map_eq_some_iff.mp h
    obtain ⟨k, rfl⟩ : ∃ n, k = n + 1 := Nat.exists_eq_add_one_of_ne_zero (by omega)
    refine value_enclosed_fields hn hm fun s ss he => ?_
    subst he
    exact fields_writeFields hv hn.right hm (length_enclose_cons hf) (by omega)
termination_by fuel

theorem items_writeItems {i fuel depth k : Nat} {items : List Value} {s rest : Text} {ss : List Text}
    (hv : ∀ leaf ∈ itemLeaves i items, ∀ digits, leaf.2 ≠ .float digits) (hn : AllNamed items)
    (h : writeItems style (depth + 1) items = some (s :: ss))
    (hf : s.length + (style.closing depth ']' ss).length ≤ fuel) (hk : maxOpen ≤ depth + 1 + k) :
    Json.items fuel k (s ++ (style.closing depth ']' ss ++ rest)) = .ok (exportedItems items, rest) := by
  obtain ⟨v, vs, rfl, hw, hws⟩ := writeItems_eq_cons_iff.mp h
  obtain ⟨hv, hvs⟩ := exact_of_items hv
  obtain ⟨hn, hns⟩ := hn
  have hc : 0 < (style.closing depth ']' ss).length := length_closing_pos ..
  obtain ⟨fuel, rfl⟩ : ∃ f, fuel = f + 1 := Nat.exists_eq_add_one_of_ne_zero (by omega)
  have hr : value fuel k (s ++ (style.closing depth ']' ss ++ rest)) =
      .ok (v.exported, style.closing depth ']' ss ++ rest) :=
    value_writeAt hv hn hw (by omega) hk (endsNumber_closing (.inl rfl) ss)
  cases ss
  case nil =>
    cases writeItems_eq_nil_iff.mp hws
    exact items_last hr (skip_closing_nil rfl)
  case cons t ss =>
    obtain ⟨w, ws, rfl, ht, -⟩ := writeItems_eq_cons_iff.mp hws
    have hb := begins_of_writeAt (exact_of_items hvs).left ht
    refine items_more hr (skip_closing_cons ']' ss) ?_
    rw [hb.skip_line]
    exact items_writeItems hvs hns hws (by rw [length_closing_cons] at hf; omega) hk
termination_by fuel

theorem fields_writeFields {fuel depth k : Nat} {fields : List (Text × Value)} {s rest : Text} {ss : List Text}
    (hv : ∀ leaf ∈ fieldLeaves fields, ∀ digits, leaf.2 ≠ .float digits) (hn : FieldsNamed fields)
    (h : writeFields style (depth + 1) fields = some (s :: ss))
    (hf : s.length + (style.closing depth '\x7d' ss).length ≤ fuel) (hk : maxOpen ≤ depth + 1 + k) :
    Json.fields fuel k (s ++ (style.closing depth '\x7d' ss ++ rest)) = .ok (exportedFields fields, rest) := by
  obtain ⟨name, v, fs, t, rfl, hw, rfl, hws⟩ := writeFields_eq_cons h
  obtain ⟨hv, hvs⟩ := exact_of_fields hv
  obtain ⟨hn, hns⟩ := hn
  have hc : 0 < (style.closing depth '\x7d' ss).length := length_closing_pos ..
  obtain ⟨fuel, rfl⟩ : ∃ f, fuel = f + 1 := Nat.exists_eq_add_one_of_ne_zero (by omega)
  simp only [List.length_append] at hf
  have hr : value fuel k (t ++ (style.closing depth '\x7d' ss ++ rest)) =
      .ok (v.exported, style.closing depth '\x7d' ss ++ rest) :=
    value_writeAt hv hn hw (by omega) hk (endsNumber_closing (.inr rfl) ss)
  obtain ⟨r, hcr, hs⟩ := (begins_of_writeAt hv hw).colon style (style.closing depth '\x7d' ss ++ rest)
  have hq : quote name ++ style.colon ++ t ++ (style.closing depth '\x7d' ss ++ rest) =
      '"' :: (name.flatMap escapeChar ++ '"' :: ':' :: r) := by
    rw [←hcr]
    simp [quote]
  rw [hq]
  have hn := stringFrom_quote name (':' :: r)
  cases ss
  case nil =>
    cases writeFields_eq_nil_iff.mp hws
    exact fields_last hn (hs ▸ hr) (skip_closing_nil rfl)
  case cons u ss =>
    have hb : Begins u := by
      obtain ⟨_, _, _, _, -, -, rfl, -⟩ := writeFields_eq_cons hws
      exact ⟨_, _, rfl, rfl, by decide⟩
    refine fields_more hn (hs ▸ hr) (skip_closing_cons '\x7d' ss) ?_
    rw [hb.skip_line]
    exact fields_writeFields hvs hns hws (by rw [length_closing_cons] at hf; omega) hk
termination_by fuel

end

-- A value without floating-point numbers and without two fields of one name is read from its text as it was
-- written.
theorem read_write {v : Value} (hv : v.Exact) (hn : v.Named) (h : write style v = some s) :
    read s = .ok v.exported := by
  obtain ⟨c, t, ht, hc, -⟩ := begins_of_writeAt hv h
  have hr : value (2 * s.length + 2) maxDepth (s ++ []) = .ok (v.exported, []) :=
    value_writeAt hv hn h (by omega) (by decide) nofun
  rw [List.append_nil] at hr
  rw [read, ht, skip_cons hc, ←ht, hr]
  rfl

end Json
end Copybook
