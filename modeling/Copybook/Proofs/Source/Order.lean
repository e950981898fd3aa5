import Copybook.Proofs.Source.Key
import Copybook.Proofs.Source.Usage

/-!
Clauses in any order. Each reader finds its clause among the others and takes it out, which leaves the others as they are.
-/

namespace Copybook
namespace Source

open Clause

variable {α β : Type} {s t word : Text} {heads gap : List Text} {taken : List Part.Kind} {pre post parts : List Part}
  {p : Part}

namespace Part

def valueClause? : Part → Option ValueClause
  | value v => some v
  | _ => none

def occursClause? : Part → Option OccursClause
  | occurs o => some o
  | _ => none

def keyPhrase? : Part → Option KeyPhrase
  | key k => some k
  | _ => none

def pictureClause? : Part → Option PictureClause
  | picture p => some p
  | _ => none

def usageClause? : Part → Option UsageClause
  | usage u => some u
  | _ => none

-- The clause, or nothing where clauses of its kind have been taken out.
def shown (taken : List Kind) (p : Part) : Text :=
  if p.kind ∈ taken then [] else p.text

theorem shown_of_not_mem (h : p.kind ∉ taken) : p.shown taken = p.text :=
  if_neg h

theorem shown_of_mem (h : p.kind ∈ taken) : p.shown taken = [] :=
  if_pos h

theorem shown_cons {kind : Kind} (h : p.kind ≠ kind) : p.shown (kind :: taken) = p.shown taken := by
  simp [shown, h]

end Part

-- What clauses one after another are when those of some kinds have been taken out. There may be a gap before them.
def remaining (gap : List Text) (taken : List Part.Kind) (parts : List Part) : Text :=
  Text.join [' '] (gap ++ parts.map (Part.shown taken))

theorem remaining_of_absent {kind : Part.Kind} (h : ∀ q ∈ parts, q.kind ≠ kind) :
    remaining gap (kind :: taken) parts = remaining gap taken parts := by
  rw [remaining, remaining, List.map_congr_left fun q hq => Part.shown_cons (h q hq)]

-- Without one of the clauses there is what stands before it and what stands after it.
theorem remaining_cons (hpre : ∀ q ∈ pre, q.kind ≠ p.kind) (hpost : ∀ q ∈ post, q.kind ≠ p.kind) :
    remaining gap (p.kind :: taken) (pre ++ p :: post) =
      Text.lead (gap ++ pre.map (Part.shown taken)) ++ Text.trail (post.map (Part.shown taken)) := by
  rw [remaining, List.map_append, List.map_cons, ←List.append_assoc, Text.join_append_cons,
    Part.shown_of_mem List.mem_cons_self, List.map_congr_left fun q hq => Part.shown_cons (hpre q hq),
    List.map_congr_left fun q hq => Part.shown_cons (hpost q hq), List.nil_append]

theorem kind_ne_of_nodup (hd : ((pre ++ p :: post).map Part.kind).Nodup) :
    (∀ q ∈ pre, q.kind ≠ p.kind) ∧ ∀ q ∈ post, q.kind ≠ p.kind := by
  rw [List.map_append, List.map_cons, List.nodup_append, List.nodup_cons] at hd
  obtain ⟨-, ⟨hpost, -⟩, hpre⟩ := hd
  refine ⟨fun q hq => hpre _ (List.mem_map_of_mem hq) _ List.mem_cons_self, fun q hq he => hpost ?_⟩
  exact he ▸ List.mem_map_of_mem hq

-- A clause of a kind, if there is one, with the others before it and after it.
theorem split_of_findSome? {f : Part → Option β} {b : β} (hd : (parts.map Part.kind).Nodup)
    (h : parts.findSome? f = some b) :
    ∃ pre p post, parts = pre ++ p :: post ∧ f p = some b ∧ (∀ q ∈ pre, q.kind ≠ p.kind) ∧ ∀ q ∈ post, q.kind ≠ p.kind := by
  obtain ⟨pre, p, post, rfl, hp, -⟩ := List.findSome?_eq_some_iff.mp h
  exact ⟨pre, p, post, rfl, hp, kind_ne_of_nodup hd⟩

theorem solid_of_mem_clauseHeads (hw : word ∈ clauseHeads) : word ≠ [] ∧ ∀ l ∈ word, isBlank l = false := by
  have all : clauseHeads.all fun w => !w.isEmpty && w.all (!isBlank ·) := rfl
  have h := List.all_eq_true.mp all word hw
  simpa using h

-- The words by which a clause is searched for are in no clause of another kind, and not in what has been taken out.
theorem Part.not_mentions_shown (kinds : List Kind) (hk : ∀ k ∈ kinds, k ≠ .value ∧ k ≠ .key ∧ word ∉ k.heads)
    (hw : word ∈ clauseHeads) (hp : p.kind ∈ taken ∨ p.kind ∈ kinds) : ¬Mentions word (p.shown taken) := by
  have ⟨hn, hs⟩ := solid_of_mem_clauseHeads hw
  by_cases ht : p.kind ∈ taken
  case pos =>
    rw [Part.shown_of_mem ht]
    exact not_mentions_nil hn
  case neg =>
    obtain ⟨hv, hkey, hh⟩ := hk _ (hp.resolve_left ht)
    rw [Part.shown_of_not_mem ht]
    exact not_mentions_join hn hs (p.not_mentions hv hkey hw hh)

theorem Part.passes {read : Option Char → Text → Option (α × Text)} (h : HeadedBy read heads) (kinds : List Kind)
    (hk : ∀ k ∈ kinds, k ≠ .value ∧ k ≠ .key ∧ ∀ w ∈ heads, w ∉ k.heads) (hh : ∀ w ∈ heads, w ∈ clauseHeads)
    (hp : p.kind ∈ taken ∨ p.kind ∈ kinds) : Passes read (p.shown taken) :=
  h.passes fun w hw => Part.not_mentions_shown kinds
    (fun k hm => ⟨(hk k hm).left, (hk k hm).right.left, (hk k hm).right.right w hw⟩) (hh w hw) hp

section Search

variable {read : Option Char → Text → Option (α × Text)} {item : α}

theorem passes_gap (hg : ∀ s ∈ gap, s = []) (hp : ∀ q ∈ pre, Passes read (q.shown taken)) :
    ∀ s ∈ gap ++ pre.map (Part.shown taken), Passes read s := by
  refine List.forall_mem_append.mpr ⟨fun s hs => hg s hs ▸ fun t _ => passesTo_nil t, ?_⟩
  exact List.forall_mem_map.mpr hp

-- The reader of a clause finds it after clauses that the search passes over, and the others are left.
theorem search_remaining (h : HeadedBy read heads) (hg : ∀ s ∈ gap, s = [])
    (hp : ∀ q ∈ pre, Passes read (q.shown taken)) (hk : p.kind ∉ taken)
    (hpre : ∀ q ∈ pre, q.kind ≠ p.kind) (hpost : ∀ q ∈ post, q.kind ≠ p.kind)
    (hr : ∀ before, wordBegins before → read before (p.text ++ Text.trail (post.map (Part.shown taken))) =
      some (item, Text.trail (post.map (Part.shown taken)))) :
    ∃ found, search read none (remaining gap taken (pre ++ p :: post)) = some found ∧ found.item = item ∧
      found.others = remaining gap (p.kind :: taken) (pre ++ p :: post) := by
  obtain ⟨before, hb, hs⟩ := h.search_join (passes_gap hg hp) p.text (post.map (Part.shown taken))
  rw [search_of_read (hr before (wordBegins_of_mem hb))] at hs
  rw [remaining_cons hpre hpost]
  rw [List.append_assoc, ←Part.shown_of_not_mem hk, ←List.map_cons, ←List.map_append] at hs
  exact ⟨_, hs, rfl, by simp [Found.others]⟩

theorem search_remaining_eq_none (h : HeadedBy read heads) (hg : ∀ s ∈ gap, s = [])
    (hp : ∀ q ∈ parts, Passes read (q.shown taken)) : search read none (remaining gap taken parts) = none :=
  h.search_eq_none (passes_gap hg hp)

end Search

theorem kind_ne_of_findSome? {f : Part → Option β} {kind : Part.Kind} (hf : ∀ q : Part, q.kind = kind → (f q).isSome)
    (h : parts.findSome? f = none) : ∀ q ∈ parts, q.kind ≠ kind := by
  intro q hq hk
  have hs := hf q hk
  rw [List.findSome?_eq_none_iff.mp h q hq] at hs
  contradiction

theorem kind_ne_key (h : parts.findSome? Part.keyPhrase? = none) : ∀ q ∈ parts, q.kind ≠ .key :=
  kind_ne_of_findSome? (fun q hk => by cases q <;> cases hk; rfl) h

-- No name of a key that something follows ends in the keyword of literals, unless a literal has been given before.
def Uncaptured (parts : List Part) : Prop :=
  ∀ pre k post, parts = pre ++ .key k :: post → (∀ q ∈ pre, q.kind ≠ .value) → post ≠ [] →
    ¬EndsIn none ["VALUE".toList, "VALUES".toList] k.name

-- The search for a literal passes over a clause of another kind, but perhaps not over the name of a key.
theorem Part.passesTo_value? (hp : p.kind ≠ .value) (ht : beginsBlank t)
    (hk : ∀ k, p = .key k → literalAfter? t = none ∨ ¬EndsIn none ["VALUE".toList, "VALUES".toList] k.name) :
    PassesTo Clause.value? (p.shown []) t := by
  by_cases hkey : ∃ k, p = .key k
  case pos =>
    obtain ⟨k, rfl⟩ := hkey
    exact k.passesTo_value? ht (hk k rfl)
  case neg =>
    refine Part.passes headedBy_value? [.occurs, .picture, .usage] (by decide) (by decide) (.inr ?_) t ht
    cases p <;> simp_all [Part.kind]

theorem passes_value? (hu : Uncaptured (pre ++ post)) (hpre : ∀ q ∈ pre, q.kind ≠ .value) (hn : post ≠ []) :
    ∀ q ∈ pre, Passes Clause.value? (q.shown []) := by
  intro q hq t ht
  obtain ⟨a, b, rfl⟩ := List.append_of_mem hq
  refine Part.passesTo_value? (hpre q hq) ht fun k hk => .inr ?_
  subst hk
  exact hu a k (b ++ post) (by simp) (fun r hr => hpre r (by simp [hr])) (by simp [hn])

-- The last clause may be a key of any name, since nothing after it could be taken for a literal.
theorem search_value?_remaining (hg : ∀ s ∈ gap, s = []) (hu : Uncaptured parts) (hv : ∀ q ∈ parts, q.kind ≠ .value) :
    search Clause.value? none (remaining gap [] parts) = none := by
  cases parts using List.reverseRecOn
  case nil => exact search_remaining_eq_none headedBy_value? hg nofun
  case append_singleton parts p _ =>
    have hpasses : ∀ q ∈ parts, Passes Clause.value? (q.shown []) :=
      passes_value? hu (fun q hq => hv q (by simp [hq])) (List.cons_ne_nil _ _)
    have hlast : PassesTo Clause.value? (p.shown []) [] := Part.passesTo_value? (hv p (by simp)) rfl fun _ _ => .inl rfl
    rw [remaining, List.map_append, List.map_singleton, ←List.append_assoc]
    refine headedBy_value?.search_concat_eq_none (passes_gap hg hpasses) fun before => ?_
    have hsearch := hlast before
    rwa [List.append_nil, headedBy_value?.search_nil] at hsearch

-- The literal is read, wherever its clause is.
theorem valueIn_remaining (hg : ∀ s ∈ gap, s = []) (hd : (parts.map Part.kind).Nodup) (hu : Uncaptured parts) :
    valueIn (remaining gap [] parts) =
      ((parts.findSome? Part.valueClause?).map (·.literal.text), remaining gap [.value] parts) := by
  cases hv : parts.findSome? Part.valueClause?
  case some v =>
    obtain ⟨pre, p, post, rfl, hp, hpre, hpost⟩ := split_of_findSome? hd hv
    cases p <;> cases hp
    have hpasses : ∀ q ∈ pre, Passes Clause.value? (q.shown []) := passes_value? hu hpre (List.cons_ne_nil _ _)
    obtain ⟨found, hf, hi, ho⟩ := search_remaining headedBy_value? hg hpasses List.not_mem_nil hpre hpost
      fun before hb => v.takes hb (beginsBlank_trail _)
    rw [valueIn, hf]
    simp only [hi, ho]
    rfl
  case none =>
    have habsent : ∀ q ∈ parts, q.kind ≠ .value :=
      kind_ne_of_findSome? (fun q hk => by cases q <;> cases hk; rfl) hv
    rw [valueIn, search_value?_remaining hg hu habsent, remaining_of_absent habsent]
    rfl

-- What follows clauses that have been read is no word that they could go on with.
theorem keyword?_after (hw : word ∈ Part.notFirst) :
    keyword? word ((Text.trail (post.map (Part.shown taken))).dropWhile isBlank) = none := by
  induction post
  case nil =>
    obtain ⟨l, word, rfl⟩ := List.exists_cons_of_ne_nil (l := word) (by rintro rfl; revert hw; decide)
    rfl
  case cons q post hi =>
    rw [List.map_cons, Text.trail_cons, List.dropWhile_cons_of_pos (by decide)]
    by_cases hq : q.kind ∈ taken
    case pos => rwa [Part.shown_of_mem hq, List.nil_append]
    case neg =>
      obtain ⟨c, t, he, hc⟩ := q.begun
      have hn := q.keyword?_text hw (beginsBlank_trail (post.map (Part.shown taken)))
      rw [Part.shown_of_not_mem hq]
      rw [he] at hn ⊢
      rwa [List.cons_append, List.dropWhile_cons_of_neg (by simp [hc])]

-- How many occurrences there are, by the clause of that kind.
def countOf (parts : List Part) : Except SourceFault (Option Nat) :=
  match parts.findSome? Part.occursClause? with
  | some o => ((Text.readNat o.count).mapError .digits).map some
  | none => .ok none

theorem countOf_of_none (h : parts.findSome? Part.occursClause? = none) : countOf parts = .ok none := by
  rw [countOf, h]

theorem countOf_of_some {o : OccursClause} (h : parts.findSome? Part.occursClause? = some o) :
    countOf parts = ((Text.readNat o.count).mapError .digits).map some := by
  rw [countOf, h]

-- A phrase that names a key comes after the count that it belongs to.
def Keyed (parts : List Part) : Prop :=
  ∀ pre k post, parts = pre ++ .key k :: post → ∃ o, .occurs o ∈ pre

theorem search_dependingOn?_remaining (hg : ∀ s ∈ gap, s = []) (hd : (parts.map Part.kind).Nodup) :
    search dependingOn? none (remaining gap [.value] parts) = none := by
  have hpasses {parts : List Part} (hkey : ∀ q ∈ parts, q.kind ≠ .key) :
      ∀ q ∈ parts, Passes dependingOn? (q.shown [.value]) := by
    intro q hq
    refine Part.passes headedBy_dependingOn? [.occurs, .picture, .usage] (by decide) (by decide) ?_
    have hk := hkey q hq
    cases q <;> simp_all [Part.kind]
  cases hk : parts.findSome? Part.keyPhrase?
  case none =>
    exact search_remaining_eq_none headedBy_dependingOn? hg (hpasses (kind_ne_key hk))
  case some k =>
    obtain ⟨pre, p, post, rfl, hp, hpre, hpost⟩ := split_of_findSome? hd hk
    cases p <;> cases hp
    have hon : keyword? "ON".toList ((Text.trail (post.map (Part.shown [.value]))).dropWhile isBlank) = none :=
      keyword?_after (by decide)
    obtain ⟨before, -, hs⟩ := headedBy_dependingOn?.search_join (passes_gap hg (hpasses hpre)) (Part.key k).text
      (post.map (Part.shown [.value]))
    rw [remaining, List.map_append, List.map_cons, ←List.append_assoc,
      Part.shown_of_not_mem (by simp [Part.kind]), hs, k.passesTo_dependingOn? (beginsBlank_trail _) hon,
      headedBy_dependingOn?.search_of_passes]
    · rfl
    · exact headedBy_dependingOn?.passes_trail (List.forall_mem_map.mpr (hpasses hpost))

-- The words that a phrase for a key begins with are in none of the other clauses that are left when it is removed.
theorem not_mentions_key (hkey : ∀ q ∈ parts, q.kind ≠ .key) (hw : word ∈ Part.Kind.key.heads) :
    ∀ s ∈ parts.map (Part.shown [.occurs, .value]), ¬Mentions word s := by
  have kinds : ∀ w ∈ Part.Kind.key.heads, w ∈ clauseHeads ∧
    ∀ k ∈ [Part.Kind.picture, .usage], k ≠ .value ∧ k ≠ .key ∧ w ∉ k.heads := by decide
  refine List.forall_mem_map.mpr fun q hq => Part.not_mentions_shown _ (kinds word hw).right (kinds word hw).left ?_
  have hk := hkey q hq
  cases q <;> simp_all [Part.kind]

theorem not_mentions_key_gap (hg : ∀ s ∈ gap, s = []) (hkey : ∀ q ∈ parts, q.kind ≠ .key)
    (hw : word ∈ Part.Kind.key.heads) : ∀ s ∈ gap ++ parts.map (Part.shown [.occurs, .value]), ¬Mentions word s := by
  refine List.forall_mem_append.mpr ⟨fun s hs => ?_, not_mentions_key hkey hw⟩
  exact hg s hs ▸ not_mentions_nil (headedBy_keyPhrase?.word_solid hw).left

-- The phrase that names a key is removed, and nothing else.
theorem removeKeyPhrases_remaining (hg : ∀ s ∈ gap, s = []) (hd : (parts.map Part.kind).Nodup) :
    removeKeyPhrases (remaining gap [.occurs, .value] parts) = remaining gap [.key, .occurs, .value] parts := by
  cases hk : parts.findSome? Part.keyPhrase?
  case none =>
    have habsent := kind_ne_key hk
    have hjoin : ∀ w ∈ Part.Kind.key.heads, ¬Mentions w (remaining gap [.occurs, .value] parts) := fun w hw =>
      not_mentions_join (headedBy_keyPhrase?.word_solid hw).left (headedBy_keyPhrase?.word_solid hw).right
        (not_mentions_key_gap hg habsent hw)
    have hr := removeFrom_append headedBy_keyPhrase? (t := []) hjoin rfl none
    rw [removeFrom, List.append_nil] at hr
    rw [remaining_of_absent habsent]
    exact hr
  case some k =>
    obtain ⟨pre, p, post, rfl, hp, hpre, hpost⟩ := split_of_findSome? hd hk
    cases p <;> cases hp
    have hlead : ∀ s ∈ gap ++ pre.map (Part.shown [.occurs, .value]), ∀ w ∈ Part.Kind.key.heads, ¬Mentions w s :=
      fun s hs w hw => not_mentions_key_gap hg hpre hw s hs
    have htrail : ∀ w ∈ Part.Kind.key.heads, ¬Mentions w (Text.trail (post.map (Part.shown [.occurs, .value]))) :=
      fun w hw =>
        not_mentions_trail (headedBy_keyPhrase?.word_solid hw).left (headedBy_keyPhrase?.word_solid hw).right
          (not_mentions_key hpost hw)
    have hb := wordBegins_of_mem (latest_lead none (gap ++ pre.map (Part.shown [.occurs, .value])))
    have hn : (Part.key k).text ≠ [] := by
      obtain ⟨c, t, he, -⟩ := (Part.key k).begun
      exact he ▸ List.cons_ne_nil c t
    have hrest (before : Option Char) := removeFrom_append headedBy_keyPhrase? (t := []) htrail rfl before
    simp only [removeFrom, List.append_nil] at hrest
    have hleft : remaining gap [.key, .occurs, .value] (pre ++ .key k :: post) = _ := remaining_cons hpre hpost
    rw [hleft, removeKeyPhrases, remaining, List.map_append, List.map_cons, ←List.append_assoc,
      Text.join_append_cons, Part.shown_of_not_mem (by simp [Part.kind]), removeFrom_lead headedBy_keyPhrase? hlead,
      removeFrom_taken hn (k.takes hb (beginsBlank_trail _)), hrest]

-- Before the clause for occurrences there is no key, so the search for it passes over what there is.
theorem Keyed.kind_ne_key (hk : Keyed (pre ++ post)) (ho : ∀ q ∈ pre, q.kind ≠ .occurs) :
    ∀ q ∈ pre, q.kind ≠ .key := by
  intro q hq hkey
  obtain ⟨a, b, rfl⟩ := List.append_of_mem hq
  cases q
  case key k =>
    obtain ⟨o, hm⟩ := hk a k (b ++ post) (by simp)
    exact ho (.occurs o) (List.mem_append_left _ hm) rfl
  all_goals contradiction

theorem passes_occurs? (hk : Keyed (pre ++ post)) (ho : ∀ q ∈ pre, q.kind ≠ .occurs) :
    ∀ q ∈ pre, Passes Clause.occurs? (q.shown [.value]) := by
  intro q hq
  refine Part.passes headedBy_occurs? [.picture, .usage] (by decide) (by decide) ?_
  have h := And.intro (ho q hq) (hk.kind_ne_key ho q hq)
  cases q <;> simp_all [Part.kind]

theorem OccursClause.readNat_ne_zero (o : OccursClause) {n : Nat} (h : Text.readNat o.count = .ok n) : n ≠ 0 := by
  obtain ⟨-, rfl⟩ := Text.readNat_eq_ok_iff.mp h
  exact o.positive

-- How many occurrences there are is read, wherever the clause is.
theorem occursIn_remaining (hg : ∀ s ∈ gap, s = []) (hd : (parts.map Part.kind).Nodup) (hk : Keyed parts) :
    occursIn (remaining gap [.value] parts) =
      (countOf parts).map fun count => (count, remaining gap [.key, .occurs, .value] parts) := by
  rw [occursIn, search_dependingOn?_remaining hg hd, countOf]
  cases ho : parts.findSome? Part.occursClause?
  case none =>
    have habsent : ∀ q ∈ parts, q.kind ≠ .occurs :=
      kind_ne_of_findSome? (fun q hk => by cases q <;> cases hk; rfl) ho
    rw [←List.append_nil parts] at hk
    rw [search_remaining_eq_none headedBy_occurs? hg (passes_occurs? hk habsent),
      remaining_of_absent (hk.kind_ne_key habsent), remaining_of_absent habsent]
    rfl
  case some o =>
    obtain ⟨pre, p, post, rfl, hp, hpre, hpost⟩ := split_of_findSome? hd ho
    cases p <;> cases hp
    obtain ⟨found, hf, hi, ho'⟩ := search_remaining headedBy_occurs? hg (passes_occurs? hk hpre) (p := .occurs o)
      (by simp [Part.kind]) hpre hpost
      fun before hb => o.takes hb (beginsBlank_trail _) (keyword?_after (by decide))
    rw [hf]
    simp only [hi, ho', Part.kind, removeKeyPhrases_remaining hg hd]
    cases hn : Text.readNat o.count
    case error => rfl
    case ok n =>
      change (if n = 0 then _ else _) = _
      rw [if_neg (o.readNat_ne_zero hn)]
      rfl

-- The usage that is found, by the clause of that kind.
def usageOf (parts : List Part) : Option Text :=
  (parts.findSome? Part.usageClause?).bind UsageClause.heard

-- What is left for the readers of usages: nothing but the clause that names one.
structure OnlyUsage (taken : List Part.Kind) (parts : List Part) : Prop where
  shown : .usage ∉ taken
  others : ∀ q ∈ parts, q.kind ≠ .usage → q.kind ∈ taken

-- The search for a usage comes to the clause that names one, if there is one, and finds what it would find in it alone.
theorem search_of_onlyUsage {read : Option Char → Text → Option (α × Text)} {γ : Type} {f : Option (Found α) → γ}
    {g : UsageClause → γ} (h : HeadedBy read heads) (hg : ∀ s ∈ gap, s = []) (hd : (parts.map Part.kind).Nodup)
    (ho : OnlyUsage taken parts)
    (hf : ∀ x : Option (Found α), ∀ b, f (x.map fun found => { found with before := b ++ found.before }) = f x)
    (hread : ∀ (u : UsageClause) (t : Text) (before : Option Char), before ∈ [none, some ' '] → beginsBlank t →
      (∀ b, search read b t = none) → f (search read before ((Part.usage u).text ++ t)) = g u) :
    f (search read none (remaining gap taken parts)) = ((parts.findSome? Part.usageClause?).map g).getD (f none) := by
  have hgone {parts' : List Part} (hs : parts' ⊆ parts) (hu : ∀ q ∈ parts', q.kind ≠ .usage) :
      ∀ s ∈ parts'.map (Part.shown taken), s = [] :=
    List.forall_mem_map.mpr fun q hq => Part.shown_of_mem (ho.others q (hs hq) (hu q hq))
  have hpasses {s : Text} (hs : s = []) : Passes read s := hs ▸ fun t _ => passesTo_nil t
  cases hu : parts.findSome? Part.usageClause?
  case none =>
    have habsent : ∀ q ∈ parts, q.kind ≠ .usage :=
      kind_ne_of_findSome? (fun q hk => by cases q <;> cases hk; rfl) hu
    rw [search_remaining_eq_none h hg fun q hq =>
      hpasses (hgone (List.Subset.refl _) habsent _ (List.mem_map_of_mem hq))]
    rfl
  case some u =>
    obtain ⟨pre, p, post, rfl, hp, hpre, hpost⟩ := split_of_findSome? hd hu
    cases p <;> cases hp
    have hpre' := hgone (List.subset_append_left _ _) hpre
    have hpost' := hgone (fun q hq => by simp [hq]) hpost
    obtain ⟨before, hb, hs⟩ := h.search_join (passes_gap hg fun q hq => hpasses (hpre' _ (List.mem_map_of_mem hq)))
      (Part.usage u).text (post.map (Part.shown taken))
    rw [remaining, List.map_append, List.map_cons, ←List.append_assoc, Part.shown_of_not_mem ho.shown, hs, hf]
    refine hread u _ before hb (beginsBlank_trail _) fun b => ?_
    exact h.search_of_passes (h.passes_trail fun s hs => hpasses (hpost' s hs)) b

theorem search_usage?_remaining (hg : ∀ s ∈ gap, s = []) (hd : (parts.map Part.kind).Nodup)
    (ho : OnlyUsage taken parts) :
    (search Clause.usage? none (remaining gap taken parts)).map (·.item) = usageOf parts := by
  refine (search_of_onlyUsage (f := Option.map (·.item)) headedBy_usage? hg hd ho
    (fun x b => by cases x <;> rfl) fun u t before hb ht hn => u.search_text (wordBegins_of_mem hb) ht hn).trans ?_
  rw [usageOf]
  cases parts.findSome? Part.usageClause? <;> rfl

theorem search_bareUsage?_remaining (hg : ∀ s ∈ gap, s = []) (hd : (parts.map Part.kind).Nodup)
    (ho : OnlyUsage taken parts) :
    (search Clause.bareUsage? none (remaining gap taken parts)).isSome =
      (parts.findSome? Part.usageClause?).any UsageClause.isBare := by
  refine (search_of_onlyUsage (f := Option.isSome) headedBy_bareUsage? hg hd ho
    (fun x b => by cases x <;> rfl) fun u t before hb ht hn => u.search_bareUsage? hb ht hn).trans ?_
  cases parts.findSome? Part.usageClause? <;> rfl

-- The picture with its usage, by the clauses of those kinds.
def pictureOf (parts : List Part) : Except SourceFault (Option Text) :=
  match parts.findSome? Part.pictureClause? with
  | some p =>
    .ok <| some <| match usageOf parts with
      | some word => p.format.upper ++ ' ' :: word.upper
      | none => p.format.upper
  | none =>
    if (parts.findSome? Part.usageClause?).any UsageClause.isBare then .error .bareUsage
    else if (usageOf parts).isSome then .error .groupUsage
    else .ok none

theorem pictureOf_of_none (hp : parts.findSome? Part.pictureClause? = none)
    (hu : parts.findSome? Part.usageClause? = none) : pictureOf parts = .ok none := by
  rw [pictureOf, hp, usageOf, hu]
  rfl

theorem pictureOf_of_some {p : PictureClause} (h : parts.findSome? Part.pictureClause? = some p) :
    pictureOf parts = .ok (some (match usageOf parts with
      | some word => p.format.upper ++ ' ' :: word.upper
      | none => p.format.upper)) := by
  rw [pictureOf, h]

theorem passes_picture? (hp : ∀ q ∈ parts, q.kind ≠ .picture) :
    ∀ q ∈ parts, Passes Clause.picture? (q.shown [.key, .occurs, .value]) := by
  intro q hq
  refine Part.passes headedBy_picture? [.usage] (by decide) (by decide) ?_
  have h := hp q hq
  cases q <;> simp_all [Part.kind]

-- The picture is read, wherever its clause is, and then the usage or that there must be none.
theorem pictureIn_remaining (hg : ∀ s ∈ gap, s = []) (hd : (parts.map Part.kind).Nodup) :
    pictureIn (remaining gap [.key, .occurs, .value] parts) = pictureOf parts := by
  rw [pictureIn, pictureOf]
  cases hp : parts.findSome? Part.pictureClause?
  case some c =>
    obtain ⟨pre, p, post, rfl, hp, hpre, hpost⟩ := split_of_findSome? hd hp
    cases p <;> cases hp
    obtain ⟨found, hf, hi, ho⟩ := search_remaining headedBy_picture? hg (passes_picture? hpre) (p := .picture c)
      (by simp [Part.kind]) hpre hpost fun before hb => c.takes hb (beginsBlank_trail _)
    have honly : OnlyUsage [.picture, .key, .occurs, .value] (pre ++ .picture c :: post) :=
      ⟨by decide, fun q _ hk => by cases q <;> simp_all [Part.kind]⟩
    have hu := search_usage?_remaining hg hd honly
    rw [hf]
    simp only [hi, ho, Part.kind]
    rw [←hu]
    cases search Clause.usage? none (remaining gap [.picture, .key, .occurs, .value] (pre ++ .picture c :: post)) <;> rfl
  case none =>
    have habsent : ∀ q ∈ parts, q.kind ≠ .picture :=
      kind_ne_of_findSome? (fun q hk => by cases q <;> cases hk; rfl) hp
    have honly : OnlyUsage [.key, .occurs, .value] parts := by
      refine ⟨by decide, fun q hq hk => ?_⟩
      have h := habsent q hq
      cases q <;> simp_all [Part.kind]
    rw [search_remaining_eq_none headedBy_picture? hg (passes_picture? habsent)]
    simp only [search_bareUsage?_remaining hg hd honly, ←search_usage?_remaining hg hd honly, Option.isSome_map]
    cases (parts.findSome? Part.usageClause?).any UsageClause.isBare <;>
      cases (search Clause.usage? none (remaining gap [.key, .occurs, .value] parts)).isSome <;> rfl

-- What clauses in any order say: each is read as if it stood alone.
theorem clauses_remaining (hg : ∀ s ∈ gap, s = []) (hd : (parts.map Part.kind).Nodup) (hk : Keyed parts)
    (hu : Uncaptured parts) {redefines : Option Text} (hr : redefinesIn s = (redefines, remaining gap [] parts)) :
    clauses s = (do
      let count ← countOf parts
      let picture ← pictureOf parts
      return ⟨redefines, (parts.findSome? Part.valueClause?).map (·.literal.text), count, picture⟩) := by
  rw [clauses, hr]
  simp only [valueIn_remaining hg hd hu, occursIn_remaining hg hd hk]
  cases countOf parts
  case error => rfl
  case ok count =>
    change (pictureIn (remaining gap [.key, .occurs, .value] parts) >>= _) = _
    rw [pictureIn_remaining hg hd]
    rfl

end Source
end Copybook
