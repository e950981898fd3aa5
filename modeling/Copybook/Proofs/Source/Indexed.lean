import Copybook.Proofs.Source.Item

/-!
Phrases that name the index or a key of a table say nothing about the item, unless the name is taken for the keyword of a
literal: when it ends in that keyword and a clause follows, the clause's first word is read as the literal.
-/

namespace Copybook
namespace Source

open Clause

variable {s t : Text} {pre post : List Part} {p : Part} {o : OccursClause} {k : KeyPhrase}

-- The first word of a clause is taken for a literal, if it stands where one is to be.
theorem literalAfter?_part (p : Part) (ht : beginsBlank t) :
    ∃ w, OneOf Part.firstWords w ∧ ∃ rest, literalAfter? (' ' :: (p.text ++ t)) = some (w, rest) := by
  obtain ⟨w, words, he, hw⟩ := p.first_word
  have htoken := Part.isToken_first hw
  have hb : beginsBlank (Text.trail words ++ t) := beginsBlank_trail_append words ht
  have htext : p.text ++ t = w ++ (Text.trail words ++ t) := by
    rw [Part.text, he, Text.join_cons, List.append_assoc]
  have hphrase {word : Text} (hs : word.all (!isBlank ·)) (hn : ∀ f ∈ Part.firstWords, (keyword? word f).isNone) :
      phrase? word (w ++ (Text.trail words ++ t)) = none := by
    obtain ⟨f, hf, hs'⟩ := hw
    exact phrase?_of_spells hs (hn f hf) hs' hb
  refine ⟨w, hw, Text.trail words ++ t, ?_⟩
  rw [literalAfter?, htext, blanks?_space htoken.toIsWord.begun, Option.bind_some, hphrase rfl (by decide +kernel),
    hphrase rfl (by decide +kernel), literal?, hphrase rfl (by decide +kernel),
    Literal.simpleLiteral?_token htoken hb]
  change some (taken _ _, _) = _
  rw [taken_append]

-- No literal is such a word.
theorem Literal.text_ne (l : Literal) {w : Text} (hw : OneOf Part.firstWords w) : l.text ≠ w := by
  rintro rfl
  obtain ⟨f, hf, hs⟩ := hw
  have all : ∀ f ∈ Part.firstWords, ∃ n ∈ Literal.notLiteral, (keyword? n f).isSome := by decide +kernel
  obtain ⟨n, hn, hk⟩ := all f hf
  have hnone := l.keyword?_text (t := []) hn rfl
  rw [List.append_nil] at hnone
  rw [←keyword?_isSome_spells hs, hnone] at hk
  contradiction

-- The search for a literal finds the keyword that a name ends in, if what comes after the phrase is taken for a literal.
theorem search_value?_key {before : Option Char} {item rest : Text} (hb : before ∈ [none, some ' ']) (ht : beginsBlank t)
    (hl : literalAfter? t = some (item, rest)) (hends : EndsIn none ["VALUE".toList, "VALUES".toList] k.name) :
    ∃ found, search Clause.value? before ((Part.key k).text ++ t) = some found ∧ found.item = item := by
  have hname : wordBegins (latest before (Text.lead k.introduction)) := by
    have hm := latest_lead before k.introduction
    simp only [List.mem_cons, List.not_mem_nil, or_false] at hm
    rcases hm with hm | hm <;> rw [hm]
    · exact wordBegins_of_mem hb
    · decide
  have hpasses : ∀ s ∈ k.introduction, Passes Clause.value? s := k.passes_introduction headedBy_value? (by decide)
  obtain ⟨found, hf, hi⟩ := search_value?_name k.named.right ht hl (hends.mono fun _ => hname)
  refine ⟨{ found with before := Text.lead k.introduction ++ found.before }, ?_, hi⟩
  rw [k.text_eq, List.append_assoc, headedBy_value?.passes_lead hpasses, hf]
  rfl

-- The phrase is the only one of its kind, right after the count.
theorem split_indexed {pre' post' : List Part} {k' : KeyPhrase} (hk : ∀ q ∈ pre ++ .occurs o :: post, q.kind ≠ .key)
    (he : pre ++ .occurs o :: .key k :: post = pre' ++ .key k' :: post') :
    pre' = pre ++ [.occurs o] ∧ k' = k ∧ post' = post := by
  have hn : ∀ q ∈ pre ++ [.occurs o] ++ post, q.kind ≠ .key := fun q hq => hk q (by simpa using hq)
  have he' : (pre ++ [.occurs o]) ++ .key k :: post = pre' ++ .key k' :: post' := by simpa using he
  obtain ⟨rfl, hkey, rfl⟩ := (List.append_cons_inj_of_notMem
    (fun hm => hn _ (List.mem_append_left _ hm) rfl) fun hm => hn _ (List.mem_append_right _ hm) rfl).mp he'
  exact ⟨rfl, (Part.key.inj hkey).symm, rfl⟩

-- The clauses begin as they did: the phrase is not the first.
theorem beginsClause_indexed (redefinition : Option Redefinition)
    (h : BeginsClause (clausesIn redefinition (pre ++ .occurs o :: post))) :
    BeginsClause (clausesIn redefinition (pre ++ .occurs o :: .key k :: post)) := by
  have split (parts : List Part) : clausesIn redefinition (pre ++ .occurs o :: parts) =
      clausesIn redefinition (pre ++ [.occurs o]) ++ parts.flatMap Part.words := by simp [clausesIn]
  have hl : 2 ≤ (clausesIn redefinition (pre ++ [.occurs o])).length := by
    have ho : 2 ≤ (Part.occurs o).words.length := Nat.le_add_left 2 o.times.toList.length
    simp only [clausesIn, List.flatMap_append, List.length_append, List.flatMap_singleton]
    omega
  rw [split] at h ⊢
  exact (h.of_append hl).append _

theorem findSome?_indexed {β : Type} {f : Part → Option β} (hf : f (.key k) = none) :
    (pre ++ .occurs o :: .key k :: post).findSome? f = (pre ++ .occurs o :: post).findSome? f := by
  simp [List.findSome?_append, List.findSome?_cons, hf]

theorem value_of_clauses {c : Clauses} (h : clauses s = .ok c) : c.value = (valueIn (redefinesIn s).2).1 := by
  obtain ⟨_, _, h⟩ := bind_eq_ok_iff.mp h
  obtain ⟨_, _, h⟩ := bind_eq_ok_iff.mp h
  cases h
  rfl

namespace Item

variable (d : Item)

-- The item with a phrase after the number of occurrences.
def indexed (hp : d.parts = pre ++ .occurs o :: post) (hk : d.key? = none) (k : KeyPhrase) : Item where
  level := d.level
  name := d.name
  redefinition := d.redefinition
  parts := pre ++ .occurs o :: .key k :: post
  leveled := d.leveled
  named := d.named
  proper := d.proper
  unnamed hn := beginsClause_indexed d.redefinition (hp ▸ d.unnamed hn)
  distinct := by
    have hperm : (pre ++ .occurs o :: .key k :: post).Perm (.key k :: (pre ++ .occurs o :: post)) := by
      have h := @List.perm_middle _ (.key k) (pre ++ [.occurs o]) post
      rwa [List.append_assoc, List.append_assoc] at h
    refine (hperm.map Part.kind).nodup_iff.mpr (List.nodup_cons.mpr ⟨fun hm => ?_, hp ▸ d.distinct⟩)
    obtain ⟨q, hq, he⟩ := List.mem_map.mp hm
    exact d.kind_ne_of_keyless hk q (hp ▸ hq) he
  keyed pre' k' post' he := by
    obtain ⟨rfl, -, -⟩ := split_indexed (hp ▸ d.kind_ne_of_keyless hk) he
    exact ⟨o, by simp⟩
  unbroken v hv := d.unbroken v (by simp_all)

theorem value_of_reading {r : Nat × Text × Clauses} (h : d.reading = .ok r) :
    r.2.2.value = d.value?.map (·.literal.text) := by
  obtain ⟨_, _, h⟩ := bind_eq_ok_iff.mp h
  obtain ⟨_, _, h⟩ := bind_eq_ok_iff.mp h
  cases h
  rfl

-- The phrase is taken for the keyword of a literal.
def Captures (pre post : List Part) (k : KeyPhrase) : Prop :=
  EndsIn none ["VALUE".toList, "VALUES".toList] k.name ∧ (∀ q ∈ pre, q.kind ≠ .value) ∧ post ≠ []

variable {d} (hp : d.parts = pre ++ .occurs o :: post) (hk : d.key? = none)

include hp hk

theorem uncaptured_indexed (hc : ¬Captures pre post k) : Uncaptured (d.indexed hp hk k).parts := by
  intro pre' k' post' he hv hn hends
  obtain ⟨rfl, rfl, rfl⟩ := split_indexed (hp ▸ d.kind_ne_of_keyless hk) he
  exact hc ⟨hends, fun q hq => hv q (List.mem_append_left _ hq), hn⟩

theorem reading_indexed (k : KeyPhrase) : (d.indexed hp hk k).reading = d.reading := by
  have hv : (d.indexed hp hk k).parts.findSome? Part.valueClause? = d.parts.findSome? Part.valueClause? :=
    (findSome?_indexed rfl).trans (hp ▸ rfl)
  have ho : (d.indexed hp hk k).parts.findSome? Part.occursClause? = d.parts.findSome? Part.occursClause? :=
    (findSome?_indexed rfl).trans (hp ▸ rfl)
  have hf : (d.indexed hp hk k).parts.findSome? Part.pictureClause? = d.parts.findSome? Part.pictureClause? :=
    (findSome?_indexed rfl).trans (hp ▸ rfl)
  have hu : (d.indexed hp hk k).parts.findSome? Part.usageClause? = d.parts.findSome? Part.usageClause? :=
    (findSome?_indexed rfl).trans (hp ▸ rfl)
  simp only [reading, countOf, pictureOf, usageOf, hv, ho, hf, hu]
  rfl

-- A name that is taken for the keyword has the next word read as the literal.
theorem valueIn_of_captures {gap : List Text} (hg : ∀ s ∈ gap, s = []) (hc : Captures pre post k) :
    ∃ w, OneOf Part.firstWords w ∧ (valueIn (remaining gap [] (d.indexed hp hk k).parts)).1 = some w := by
  obtain ⟨hends, hv, hn⟩ := hc
  have hkinds := d.kind_ne_of_keyless hk
  have hpasses : ∀ q ∈ pre ++ [.occurs o], Passes Clause.value? (q.shown []) := by
    intro q hq t ht
    have hvalue : q.kind ≠ .value := by
      rcases List.mem_append.mp hq with hq | hq
      · exact hv q hq
      · rw [List.mem_singleton.mp hq]
        exact Part.Kind.noConfusion
    have hmem : q ∈ d.parts := by
      rw [hp, List.append_cons]
      exact List.mem_append_left _ hq
    have hkey := hkinds q hmem
    refine Part.passesTo_value? hvalue ht fun k' he => ?_
    subst he
    exact absurd rfl hkey
  obtain ⟨q, post, rfl⟩ := List.exists_cons_of_ne_nil hn
  obtain ⟨w, hw, rest, hl⟩ := literalAfter?_part q (beginsBlank_trail (post.map (Part.shown [])))
  have hafter : literalAfter? (Text.trail ((q :: post).map (Part.shown []))) = some (w, rest) := by
    rw [List.map_cons, Text.trail_cons, Part.shown_of_not_mem List.not_mem_nil, hl]
  obtain ⟨before, hb, hsearch⟩ := headedBy_value?.search_join (passes_gap hg hpasses) (Part.key k).text
    ((q :: post).map (Part.shown []))
  obtain ⟨found, hf, hi⟩ := search_value?_key hb (beginsBlank_trail _) hafter hends
  rw [hf] at hsearch
  have hparts : (d.indexed hp hk k).parts = (pre ++ [.occurs o]) ++ .key k :: q :: post := by simp [indexed]
  have hremaining : remaining gap [] (d.indexed hp hk k).parts = Text.join [' ']
      (gap ++ (pre ++ [Part.occurs o]).map (Part.shown []) ++ (Part.key k).text :: (q :: post).map (Part.shown [])) := by
    rw [remaining, hparts, List.map_append, ←List.append_assoc]
    rfl
  refine ⟨w, hw, ?_⟩
  rw [hremaining, valueIn, hsearch, ←hi]
  rfl

theorem value_of_captures (hc : Captures pre post k) (hs : Spaced (d.indexed hp hk k).words s) {level : Nat} {name : Text}
    {c : Clauses} (h : declare s = .ok (level, name, c)) : ∃ w, OneOf Part.firstWords w ∧ c.value = some w := by
  obtain ⟨gap, hg, hr⟩ := (d.indexed hp hk k).redefinesIn_clauseWords
  obtain ⟨w, hw, hv⟩ := valueIn_of_captures hp hk hg hc
  rw [(d.indexed hp hk k).declare_clauses hs] at h
  obtain ⟨c', hc', he⟩ := map_eq_ok_iff.mp h
  cases he
  exact ⟨w, hw, by rw [value_of_clauses hc', hr, hv]⟩

-- The phrase makes no difference to the item if and only if its name is not taken for the keyword of a literal.
theorem declare_indexed_iff {s' : Text} (hs : Spaced d.words s) (hs' : Spaced (d.indexed hp hk k).words s')
    {r : Nat × Text × Clauses} (hr : declare s = .ok r) : declare s' = .ok r ↔ ¬Captures pre post k := by
  have hread := d.declare_words (d.uncaptured_of_keyless hk) hs
  constructor
  case mpr =>
    intro hc
    rw [(d.indexed hp hk k).declare_words (uncaptured_indexed hp hk hc) hs', reading_indexed, ←hread, hr]
  case mp =>
    intro h hc
    obtain ⟨w, hw, hv⟩ := value_of_captures hp hk hc hs' h
    rw [hread] at hr
    rw [d.value_of_reading hr] at hv
    obtain ⟨v, -, ht⟩ := Option.map_eq_some_iff.mp hv
    exact v.literal.text_ne hw ht

end Item

-- `PIC X`
def letter : PictureClause :=
  .unlinked "PIC".toList "X".toList PictureClause.spelled_pic (by decide) (by decide) (by decide)

def table : Item where
  level := "05".toList
  name := some "T".toList
  redefinition := none
  parts := [.occurs five, .picture letter]
  leveled := isLevel_five
  named _ hn := by
    cases hn
    exact ⟨by decide, List.all_eq_true.mp rfl⟩
  proper _ hn := by
    cases hn
    decide +kernel
  unnamed hn := by contradiction
  distinct := by decide
  keyed := keyed_of_keyless (by simp)
  unbroken := by simp

def tableIndex : KeyPhrase where
  introduction := ["INDEXED".toList, "BY".toList]
  name := "T-IX".toList
  introduced := ⟨_, List.mem_cons_self, .cons rfl (.cons rfl .nil)⟩
  named := ⟨by decide, List.all_eq_true.mp rfl⟩

theorem table_indexed : declare "05 T OCCURS 5 PIC X".toList = .ok (5, "T".toList, ⟨none, none, some 5, some "X".toList⟩) ∧
    declare "05 T OCCURS 5 INDEXED BY T-IX PIC X".toList = .ok (5, "T".toList, ⟨none, none, some 5, some "X".toList⟩) := by
  have hread : declare "05 T OCCURS 5 PIC X".toList = .ok (5, "T".toList, ⟨none, none, some 5, some "X".toList⟩) :=
    toOption_eq_some_iff.mp (by decide +kernel)
  have hp : table.parts = [] ++ .occurs five :: [.picture letter] := rfl
  have hs : Spaced table.words "05 T OCCURS 5 PIC X".toList := Spaced.join (List.cons_ne_nil _ _)
  have hs' : Spaced (table.indexed hp rfl tableIndex).words "05 T OCCURS 5 INDEXED BY T-IX PIC X".toList :=
    Spaced.join (List.cons_ne_nil _ _)
  exact ⟨hread, (Item.declare_indexed_iff hp rfl hs hs' hread).mpr fun hc => absurd hc.left (by decide)⟩

-- The index `A-VALUE` makes a literal of the keyword after it.
theorem not_every_index_neutral :
    declare "05 T OCCURS 5 PIC X".toList = .ok (5, "T".toList, ⟨none, none, some 5, some "X".toList⟩) ∧
    declare "05 T OCCURS 5 INDEXED BY A-VALUE PIC X".toList =
      .ok (5, "T".toList, ⟨none, some "PIC".toList, some 5, none⟩) :=
  ⟨toOption_eq_some_iff.mp (by decide +kernel), toOption_eq_some_iff.mp (by decide +kernel)⟩

end Source
end Copybook
