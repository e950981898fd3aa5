import Copybook.Proofs.Source.Item

/-!
Entries that declare no item: condition names and renamings. They are read like items before they are skipped, so that a
source with such entries is read like one without them only if each of them can be read.
-/

namespace Copybook
namespace Source

open Clause

variable {s word : Text} {statements more : List Text} {ds ds' : List Declaration} {n : Nesting}

-- What an entry says: the literals that a condition stands for, the later ones perhaps as ends of ranges, or the items
-- that are renamed, from one to another.
inductive EntryBody
  | values (first : ValueClause) (further : List (Option Text × Literal))
    (through : ∀ l ∈ further, ∀ w ∈ l.1, OneOf ["THRU".toList, "THROUGH".toList] w)
  | renames (keyword target : Text) (last : Option (Text × Text)) (spelled : Text.Spells "RENAMES".toList keyword)
    (named : IsName target) (through : ∀ l ∈ last, OneOf ["THRU".toList, "THROUGH".toList] l.1 ∧ IsName l.2)

namespace EntryBody

def number : EntryBody → Nat
  | values .. => 88
  | renames .. => 66

def furtherWords (further : List (Option Text × Literal)) : List Text :=
  further.flatMap fun l => l.1.toList ++ l.2.words

def words : EntryBody → List Text
  | values first further _ => (Part.value first).words ++ furtherWords further
  | renames keyword target last _ _ _ => keyword :: target :: (last.map fun l => [l.1, l.2]).getD []

def text (b : EntryBody) : Text :=
  Text.join [' '] b.words

-- What is left when the first literal has been read.
def rest : EntryBody → Text
  | values _ further _ => Text.trail (furtherWords further)
  | b@(renames ..) => (valueIn b.text).2

theorem isPiece_words (b : EntryBody) : ∀ w ∈ b.words, IsPiece w := by
  cases b
  case values first further through =>
    refine List.forall_mem_append.mpr ⟨Part.isPiece (.value first), fun w hw => ?_⟩
    obtain ⟨l, hl, hw⟩ := List.mem_flatMap.mp hw
    rcases List.mem_append.mp hw with hw | hw
    · exact ((through l hl w (by simpa using hw)).isToken rfl).isPiece
    · exact l.2.isPiece w hw
  case renames keyword target last spelled named through =>
    refine List.forall_mem_cons.mpr
      ⟨(isToken_of_spells (rfl : arePlain ["RENAMES".toList]) List.mem_cons_self spelled).isPiece,
        List.forall_mem_cons.mpr ⟨named.isToken.isPiece, ?_⟩⟩
    cases last
    case none => exact nofun
    case some l =>
      have ⟨ht, hn⟩ := through l rfl
      exact List.forall_mem_cons.mpr ⟨(ht.isToken rfl).isPiece, List.forall_mem_singleton.mpr hn.isToken.isPiece⟩

theorem text_values (first : ValueClause) (further : List (Option Text × Literal))
    (through : ∀ l ∈ further, ∀ w ∈ l.1, OneOf ["THRU".toList, "THROUGH".toList] w) :
    (values first further through).text = (Part.value first).text ++ Text.trail (furtherWords further) := by
  rw [text, words, Text.join_append (Part.words_ne_nil _)]
  rfl

theorem redefinesIn_text (b : EntryBody) : redefinesIn b.text = (none, b.text) := by
  have hk : keyword? "REDEFINES".toList b.text = none := by
    cases b
    case values first further through =>
      rw [text_values]
      exact Part.keyword?_text _ (by decide) (beginsBlank_trail _)
    case renames keyword target last spelled named through =>
      rw [text, words, Text.join_cons]
      exact keyword?_of_spells (not_isBlank_of_all rfl) rfl spelled (beginsBlank_trail _)
  rw [redefinesIn, redefines?, phrase?_of_keyword? hk]
  rfl

-- The first literal is taken out with its keyword, whatever it is.
theorem valueIn_text (b : EntryBody) : (valueIn b.text).2 = b.rest := by
  cases b
  case values first further through =>
    have hb : wordBegins none := rfl
    rw [text_values, valueIn, search_of_read (first.takes hb (beginsBlank_trail (furtherWords further)))]
    rfl
  case renames => rfl

end EntryBody

structure Entry where
  level : Text
  name : Text
  body : EntryBody
  leveled : IsLevel level
  numbered : Text.toNat level = body.number
  named : IsName name
  proper : name.upper ∉ clauseWords

def Entry.words (e : Entry) : List Text :=
  e.level :: e.name :: e.body.words

-- What is made of a text by the readers that come after that of literals.
def settle (s : Text) : Except SourceFault (Option Nat × Option Text) := do
  let (count, s) ← occursIn s
  return (count, ← pictureIn s)

theorem clauses_eq (s : Text) : clauses s = (settle (valueIn (redefinesIn s).2).2).map fun (count, picture) =>
    ⟨(redefinesIn s).1, (valueIn (redefinesIn s).2).1, count, picture⟩ := by
  rw [clauses]
  simp only [settle]
  cases occursIn (valueIn (redefinesIn s).2).2
  case error => rfl
  case ok r =>
    rw [ok_bind, ok_bind]
    cases pictureIn r.2 <;> rfl

-- The text without the clause that says how many there are.
def uncounted (s : Text) : Text :=
  match search occurs? none s with
  | some found => removeKeyPhrases found.others
  | none => s

-- Nothing in the text is rejected: no `DEPENDING ON`, no count of nothing, or of too many digits, and no usage
-- without a picture.
structure IsSettled (s : Text) : Prop where
  independent : search dependingOn? none s = none
  counted : ∀ found, search occurs? none s = some found → found.item.length ≤ maxDigits ∧ Text.toNat found.item ≠ 0
  pictured : search picture? none (uncounted s) = none →
    search bareUsage? none (uncounted s) = none ∧ search usage? none (uncounted s) = none

theorem occursIn_eq_ok (hd : search dependingOn? none s = none)
    (hc : ∀ found, search occurs? none s = some found → found.item.length ≤ maxDigits ∧ Text.toNat found.item ≠ 0) :
    ∃ count, occursIn s = .ok (count, uncounted s) := by
  rw [occursIn, hd, uncounted]
  cases ho : search occurs? none s
  case none => exact ⟨none, rfl⟩
  case some found =>
    obtain ⟨hl, hz⟩ := hc found ho
    refine ⟨some (Text.toNat found.item), ?_⟩
    simp only [Text.readNat_eq_ok hl]
    change (if Text.toNat found.item = 0 then _ else _) = _
    rw [if_neg hz]
    rfl

theorem of_occursIn {r : Option Nat × Text} (h : occursIn s = .ok r) : search dependingOn? none s = none ∧
    (∀ found, search occurs? none s = some found → found.item.length ≤ maxDigits ∧ Text.toNat found.item ≠ 0) ∧
    r.2 = uncounted s := by
  obtain ⟨hd, h⟩ := check_eq_ok_iff.mp h
  refine ⟨by simpa using hd, ?_⟩
  rw [uncounted]
  cases ho : search occurs? none s <;> rw [ho] at h
  case none =>
    cases h
    exact ⟨nofun, rfl⟩
  case some found =>
    obtain ⟨n, hn, h⟩ := bind_eq_ok_iff.mp h
    obtain ⟨hz, h⟩ := check_eq_ok_iff.mp h
    cases h
    obtain ⟨hl, rfl⟩ := Text.readNat_eq_ok_iff.mp (mapError_eq_ok_iff.mp hn)
    exact ⟨fun _ he => Option.some.inj he ▸ ⟨hl, hz⟩, rfl⟩

theorem pictureIn_isOk_iff : (∃ p, pictureIn s = .ok p) ↔
    (search picture? none s = none → search bareUsage? none s = none ∧ search usage? none s = none) := by
  rw [pictureIn]
  cases search picture? none s
  case some found =>
    refine ⟨fun _ h => absurd h (Option.some_ne_none _), fun _ => ?_⟩
    cases hu : search usage? none found.others
    case none => exact ⟨some found.item.upper, by simp only [hu]; rfl⟩
    case some used => exact ⟨some (found.item.upper ++ ' ' :: used.item.upper), by simp only [hu]; rfl⟩
  case none =>
    cases search bareUsage? none s <;> cases search usage? none s
    case none.none => exact ⟨fun _ _ => ⟨rfl, rfl⟩, fun _ => ⟨none, rfl⟩⟩
    all_goals
      refine iff_of_false ?_ fun h => ?_
      · rintro ⟨p, h⟩
        contradiction
      · obtain ⟨hb, hu⟩ := h rfl
        contradiction

theorem settle_isOk_iff : (∃ r, settle s = .ok r) ↔ IsSettled s := by
  constructor
  · rintro ⟨r, h⟩
    obtain ⟨q, hq, h⟩ := bind_eq_ok_iff.mp h
    obtain ⟨p, hp, -⟩ := bind_eq_ok_iff.mp h
    obtain ⟨hd, hc, he⟩ := of_occursIn hq
    exact ⟨hd, hc, pictureIn_isOk_iff.mp ⟨p, he ▸ hp⟩⟩
  · intro h
    obtain ⟨count, hq⟩ := occursIn_eq_ok h.independent h.counted
    obtain ⟨p, hp⟩ := pictureIn_isOk_iff.mpr h.pictured
    refine ⟨(count, p), bind_eq_ok_iff.mpr ⟨_, hq, bind_eq_ok_iff.mpr ⟨p, hp, rfl⟩⟩⟩

-- By these words the readers that come after that of literals take something or reject it.
def latentWords : List Text :=
  ["DEPENDING".toList, "OCCURS".toList, "USAGE".toList, "COMP".toList, "BINARY".toList, "PACKED-DECIMAL".toList,
    "POINTER".toList, "INDEX".toList]

theorem isSettled_of_not_mentions (h : ∀ w ∈ latentWords, ¬Mentions w s) : IsSettled s := by
  have notFound {α : Type} {read : Option Char → Text → Option (α × Text)} {heads : List Text}
      (hr : HeadedBy read heads) (hh : heads ⊆ latentWords) : search read none s = none :=
    hr.search_of_passes (hr.passes fun w hw => h w (hh hw)) none
  have ho : search occurs? none s = none := notFound headedBy_occurs? (by decide)
  refine ⟨notFound headedBy_dependingOn? (by decide), fun found hf => absurd (ho.symm.trans hf) nofun, fun _ => ?_⟩
  rw [uncounted, ho]
  exact ⟨notFound headedBy_bareUsage? (by decide), notFound headedBy_usage? (by decide)⟩

-- None of these words comes after the first literal, or in a name.
def EntryBody.IsQuiet : EntryBody → Prop
  | values _ further _ => ∀ w ∈ latentWords, ∀ s ∈ furtherWords further, ¬Mentions w s
  | b@(renames ..) => ∀ w ∈ "VALUE".toList :: latentWords, ∀ s ∈ b.words, ¬Mentions w s

-- No literal goes on in another line, and nothing is rejected of what is left when the first one has been read.
structure Entry.IsHarmless (e : Entry) : Prop where
  unbroken : '\n' ∉ e.body.text
  settled : IsSettled e.body.rest

namespace Entry

variable (e : Entry)

-- An entry is read if it is harmless, and not otherwise.
theorem declare_words (hs : Spaced e.words s) : declare s =
    if '\n' ∈ e.body.text then .error .unreadable else (settle e.body.rest).map fun (count, picture) =>
      (e.body.number, shownName e.name, ⟨none, (valueIn e.body.text).1, count, picture⟩) := by
  rw [declare_spaced e.leveled e.named e.proper e.body.isPiece_words hs, ←EntryBody.text, e.numbered]
  split
  case isTrue => rfl
  case isFalse =>
    rw [clauses_eq, e.body.redefinesIn_text, e.body.valueIn_text, map_map]

theorem readable_iff (hs : Spaced e.words s) : (∃ r, declare s = .ok r) ↔ e.IsHarmless := by
  rw [e.declare_words hs]
  constructor
  · rintro ⟨r, hr⟩
    split at hr
    case isTrue => contradiction
    case isFalse hn =>
      obtain ⟨found, hf, -⟩ := map_eq_ok_iff.mp hr
      exact ⟨hn, settle_isOk_iff.mp ⟨found, hf⟩⟩
  · rintro ⟨hn, hs⟩
    obtain ⟨found, hf⟩ := settle_isOk_iff.mpr hs
    rw [if_neg hn, hf]
    exact ⟨_, rfl⟩

-- Whether it is read or not, it declares no item.
theorem isSkipped_of_declare (hs : Spaced e.words s) {level : Nat} {name : Text} {c : Clauses}
    (h : declare s = .ok (level, name, c)) : isSkipped level := by
  rw [e.declare_words hs] at h
  split at h
  case isTrue => contradiction
  case isFalse =>
    obtain ⟨_, -, he⟩ := map_eq_ok_iff.mp h
    cases he
    cases e.body <;> rfl

theorem isHarmless_of_isQuiet (hn : '\n' ∉ e.body.text) (hq : e.body.IsQuiet) : e.IsHarmless := by
  have solid : ("VALUE".toList :: latentWords).all fun w => !w.isEmpty && w.all (!isBlank ·) := rfl
  have solid {w : Text} (hm : w ∈ "VALUE".toList :: latentWords) : w ≠ [] ∧ ∀ l ∈ w, isBlank l = false := by
    simpa using List.all_eq_true.mp solid w hm
  refine ⟨hn, isSettled_of_not_mentions fun w hm => ?_⟩
  obtain ⟨hne, hb⟩ := solid (List.mem_cons_of_mem _ hm)
  cases hbody : e.body <;> rw [hbody] at hq
  case values => exact not_mentions_trail hne hb (hq w hm)
  case renames =>
    have ⟨hv, hq⟩ := List.forall_mem_cons.mp hq
    have hnone := headedBy_value?.search_eq_none fun s hs =>
      headedBy_value?.passes (List.forall_mem_singleton.mpr (hv s hs))
    rw [EntryBody.rest, valueIn, EntryBody.text, hnone]
    exact not_mentions_join hne hb (hq w hm)

end Entry

-- Whatever comes after it, a statement cannot be read, or it declares some items or none.
theorem declarationsFrom_cons (n : Nesting) (line : Text) :
    (∃ f, ∀ lines, declarationsFrom n (line :: lines) = .error f) ∨
      ∃ n' front, ∀ lines, declarationsFrom n (line :: lines) = (declarationsFrom n' lines).map (front ++ ·) := by
  have none {x : Except SourceError (List Declaration)} : x = x.map ([] ++ ·) := by cases x <;> rfl
  by_cases hb : line.all isBlank
  case pos =>
    refine .inr ⟨n, [], fun lines => ?_⟩
    rw [declarationsFrom, if_pos hb]
    exact none
  case neg =>
    simp only [declarationsFrom, if_neg hb]
    cases declare line
    case error f => exact .inl ⟨_, fun _ => rfl⟩
    case ok r =>
      obtain ⟨level, name, c⟩ := r
      by_cases hs : isSkipped level
      case pos =>
        refine .inr ⟨n, [], fun lines => ?_⟩
        change (if isSkipped level then _ else _) = _
        rw [if_pos hs]
        exact none
      case neg =>
        by_cases hl : effectiveLevel level < 1 ∨ 49 < effectiveLevel level
        case pos =>
          refine .inl ⟨⟨.levelOutOfRange (effectiveLevel level), line⟩, fun lines => ?_⟩
          change (if isSkipped level then _ else _) = _
          rw [if_neg hs, if_pos hl]
          rfl
        case neg =>
          let n := n.around (effectiveLevel level)
          let d := n.place (effectiveLevel level) name c line
          refine .inr ⟨n.push d, [d], fun lines => ?_⟩
          change (if isSkipped level then _ else _) = _
          rw [if_neg hs, if_neg hl]
          change (declarationsFrom (n.push d) lines >>= fun ds => pure (d :: ds)) = _
          cases declarationsFrom (n.push d) lines <;> rfl

theorem Entry.declarationsFrom_cons (e : Entry) (hs : Spaced e.words s) :
    declarationsFrom n (s :: statements) = .ok ds ↔ e.IsHarmless ∧ declarationsFrom n statements = .ok ds := by
  rw [declarationsFrom, not_blank_of_spaced e.leveled hs, ←e.readable_iff hs]
  cases hd : declare s
  case error =>
    refine iff_of_false (fun h => ?_) fun h => ?_
    · contradiction
    · obtain ⟨⟨r, h⟩, -⟩ := h
      contradiction
  case ok r =>
    change (if isSkipped r.1 then _ else _) = _ ↔ _
    rw [if_pos (e.isSkipped_of_declare hs hd)]
    exact ⟨fun h => ⟨⟨r, rfl⟩, h⟩, And.right⟩

-- Statements with entries inserted among them.
inductive Inserted : List Entry → List Text → List Text → Prop
  | nil : Inserted [] [] []
  | keep (line : Text) {entries : List Entry} {statements more : List Text} (h : Inserted entries statements more) :
    Inserted entries (line :: statements) (line :: more)
  | insert {e : Entry} {line : Text} {entries : List Entry} {statements more : List Text} (hs : Spaced e.words line)
    (h : Inserted entries statements more) : Inserted (e :: entries) statements (line :: more)

variable {entries : List Entry}

-- Nothing changes by entries that are harmless, and others cannot be read.
theorem declarationsFrom_inserted (h : Inserted entries statements more) (hd : declarationsFrom n statements = .ok ds) :
    declarationsFrom n more = .ok ds' ↔ (∀ e ∈ entries, e.IsHarmless) ∧ ds' = ds := by
  induction h generalizing n ds ds'
  case nil =>
    cases hd
    exact ⟨fun h => ⟨List.forall_mem_nil _, (Except.ok.inj h).symm⟩, fun h => congrArg _ h.right.symm⟩
  case keep line entries statements more h hi =>
    rcases Source.declarationsFrom_cons n line with ⟨f, hf⟩ | ⟨n', front, hf⟩
    case inl =>
      rw [hf] at hd
      contradiction
    case inr =>
      rw [hf] at hd ⊢
      obtain ⟨ds, hr, rfl⟩ := map_eq_ok_iff.mp hd
      rw [map_eq_ok_iff]
      constructor
      · rintro ⟨ds', hm, rfl⟩
        obtain ⟨hh, rfl⟩ := (hi hr).mp hm
        exact ⟨hh, rfl⟩
      · rintro ⟨hh, rfl⟩
        exact ⟨ds, (hi hr).mpr ⟨hh, rfl⟩, rfl⟩
  case insert e line entries statements more hs h hi =>
    rw [e.declarationsFrom_cons hs, hi hd, List.forall_mem_cons, and_assoc]

end Source
end Copybook
