import Copybook.Layout.Outline
import Copybook.Proofs.Source.Declaration

/-!
Declarations with the occurrences of one item written out: in place of the item and all that it holds there is one
copy of them after another. In the outline the copies stand where the item did.
-/

namespace Copybook

namespace Declaration

-- An item under another name, without occurrences.
def single (d : Declaration) (name : Text) : Declaration :=
  { d with name, occurs := none }

-- Copies of an item and of the declarations of what it holds, each item under a name of its own.
def unrolled (d : Declaration) (held : List Declaration) (names : List Text) : List Declaration :=
  names.flatMap fun name => d.single name :: held

-- The siblings that follow an item, among all declarations that do: those in the item that holds it, the last one
-- of a smaller level before it.
def siblings (before : List Declaration) (d : Declaration) (after : List Declaration) : List Declaration :=
  let parent := before.reverse.find? fun p => p.level < d.level
  (Outline.ofDeclarations (after.takeWhile fun e => parent.all fun p => p.level < e.level)).map Outline.declaration

variable {d x : Declaration} {before held after : List Declaration} {names : List Text}

theorem siblings_cons_of_lt (hx : d.level < x.level) (hb : ∀ e ∈ before, d.level < e.level) :
    siblings before x (after.takeWhile fun e => d.level < e.level) = siblings (d :: before) x after := by
  simp only [siblings, List.reverse_cons, List.find?_append, List.takeWhile_takeWhile]
  refine congrArg (fun p => (Outline.ofDeclarations (after.takeWhile p)).map Outline.declaration) (funext fun e => ?_)
  cases h : before.reverse.find? fun p => p.level < x.level
  case none => simp [hx]
  case some p =>
    have := hb p (by simpa using List.mem_of_find?_eq_some h)
    simp
    omega

-- Declarations of no smaller level than an item do not tell which siblings it has.
theorem siblings_append {closed : List Declaration}
    (hc : (∀ e ∈ before, x.level ≤ e.level) → ∀ e ∈ closed, x.level ≤ e.level) :
    siblings (closed ++ before) x after = siblings before x after := by
  simp only [siblings, List.reverse_append, List.find?_append]
  cases hb : before.reverse.find? fun p => p.level < x.level
  case some p => rfl
  case none =>
    have hn : closed.reverse.find? (fun p => decide (p.level < x.level)) = none := by
      simpa using hc (by simpa using hb)
    rw [hn, Option.none_or]

theorem siblings_cons_of_closed (h : (∀ e ∈ before, d.level < e.level) → x.level ≤ d.level) :
    siblings (d :: before) x after = siblings (before.dropWhile fun e => d.level < e.level) x after := by
  have hc : d :: before = (d :: before.takeWhile fun e => d.level < e.level) ++
      before.dropWhile fun e => d.level < e.level := by
    rw [List.cons_append, List.takeWhile_append_dropWhile]
  rw [hc]
  refine siblings_append fun hw => List.forall_mem_cons.mpr ?_
  have hle : x.level ≤ d.level := by
    cases hd : before.dropWhile fun e => decide (d.level < e.level)
    case nil => exact h (by simpa using hd)
    case cons e es =>
      have he := List.head?_dropWhile_not (fun e => decide (d.level < e.level)) before
      rw [hd] at he hw
      exact (hw e (by simp)).trans (by simpa using he)
  refine ⟨hle, fun e he => hle.trans (Nat.le_of_lt ?_)⟩
  simpa using List.mem_takeWhile_imp he

theorem le_of_mem_unrolled {e : Declaration} (hh : ∀ e ∈ held, x.level < e.level)
    (he : e ∈ x.unrolled held names) : x.level ≤ e.level := by
  have ⟨k, _, he⟩ := List.mem_flatMap.mp he
  rcases List.mem_cons.mp he with he | he
  · rw [he, single]
  · exact (hh e he).le

-- The copies begin at the level of the item, and what follows them at no greater one.
theorem head_unrolled (ha : ∀ e ∈ after.head?, e.level ≤ x.level) :
    ∀ e ∈ (x.unrolled held names ++ after).head?, e.level ≤ x.level := by
  cases names
  case nil => exact ha
  case cons name names =>
    intro e he
    cases he
    exact Nat.le_refl _

end Declaration

namespace Outline

open Declaration

-- In the outline, copies of an item stand in its place, which is after as many declarations as there are `before`.
inductive Unrolls (x : Declaration) (names : List Text) (size : Nat) : Nat → List Outline → List Outline → Prop
  | here {members os : List Outline} (hs : (flattenAll members).length = size)
    (hr : redefined x.name (os.map declaration) = false) :
    Unrolls x names size 0 (item x members :: os)
      (names.map (fun name => item (x.single name) members) ++ os)
  | later {before : Nat} {o : Outline} {os os' : List Outline} : Unrolls x names size before os os' →
    Unrolls x names size (o.flatten.length + before) (o :: os) (o :: os')
  | inside {before : Nat} {d : Declaration} {ms ms' os : List Outline} : Unrolls x names size before ms ms' →
    Unrolls x names size (before + 1) (item d ms :: os) (item d ms' :: os)

variable {x : Declaration} {before held after : List Declaration} {names : List Text}

variable {d : Declaration} {ds es : List Declaration}

theorem mem_flattenAll {o : Outline} {os : List Outline} (h : o ∈ os) : o.declaration ∈ flattenAll os := by
  induction os
  case nil => contradiction
  case cons o' os hi =>
    rw [flattenAll, List.mem_append]
    rcases List.mem_cons.mp h with h | h
    · cases o'
      exact .inl (by simp [h, flatten, declaration])
    · exact .inr (hi h)

-- All of some declarations are held by the one before them, whatever comes after them.
theorem ofDeclarations_deeper (h : ∀ e ∈ ds, d.level < e.level) (es : List Declaration) :
    ofDeclarations (d :: (ds ++ es)) = item d (ofDeclarations (ds ++ es.takeWhile fun e => d.level < e.level)) ::
      ofDeclarations (es.dropWhile fun e => d.level < e.level) := by
  have h : ∀ e ∈ ds, decide (d.level < e.level) := by simpa using h
  rw [ofDeclarations, List.takeWhile_append_of_pos h, List.dropWhile_append_of_pos h]

-- What comes after some declarations is not held by the one before them if that one, or any of them, closes there.
theorem ofDeclarations_closed (h : (∀ e ∈ ds, d.level < e.level) → ∀ e ∈ es.head?, e.level ≤ d.level) :
    ofDeclarations (d :: (ds ++ es)) = item d (ofDeclarations (ds.takeWhile fun e => d.level < e.level)) ::
      ofDeclarations ((ds.dropWhile fun e => d.level < e.level) ++ es) := by
  have ⟨ht, hd⟩ : (ds ++ es).takeWhile (fun e => decide (d.level < e.level)) = ds.takeWhile (d.level < ·.level) ∧
      (ds ++ es).dropWhile (fun e => decide (d.level < e.level)) = ds.dropWhile (d.level < ·.level) ++ es := by
    induction ds
    case nil =>
      cases es
      case nil => exact ⟨rfl, rfl⟩
      case cons e es => simpa using h (by simp) e rfl
    case cons c ds hi =>
      by_cases hc : d.level < c.level
      case pos => simpa [hc] using hi fun hd => h (by simpa [hc] using hd)
      case neg => simp [hc]
  rw [ofDeclarations, ht, hd]

theorem ofDeclarations_held (hh : ∀ e ∈ ds, d.level < e.level) (ha : ∀ e ∈ es.head?, e.level ≤ d.level) :
    ofDeclarations (d :: (ds ++ es)) = item d (ofDeclarations ds) :: ofDeclarations es := by
  rw [ofDeclarations_closed fun _ => ha, List.takeWhile_eq_self_iff.mpr (by simpa using hh),
    List.dropWhile_eq_nil_iff.mpr (by simpa using hh), List.nil_append]

theorem ofDeclarations_unrolled (hh : ∀ e ∈ held, x.level < e.level) (ha : ∀ e ∈ after.head?, e.level ≤ x.level) :
    ofDeclarations (x.unrolled held names ++ after) =
      names.map (fun name => item (x.single name) (ofDeclarations held)) ++ ofDeclarations after := by
  induction names
  case nil => rfl
  case cons name names hi =>
    have hc : ofDeclarations (x.single name :: (held ++ (x.unrolled held names ++ after))) =
        item (x.single name) (ofDeclarations held) :: ofDeclarations (x.unrolled held names ++ after) :=
      ofDeclarations_held hh (head_unrolled ha)
    rw [hi] at hc
    simpa [unrolled] using hc

namespace Unrolls

-- A declaration that is around the item holds what the item is unrolled in, up to where that declaration closes.
theorem around (hb : ∀ e ∈ before, d.level < e.level) (hx : d.level < x.level) (hh : ∀ e ∈ held, x.level < e.level)
    (h : let within := after.takeWhile fun e => d.level < e.level
      Unrolls x names held.length before.length (ofDeclarations (before ++ x :: (held ++ within)))
        (ofDeclarations (before ++ (x.unrolled held names ++ within)))) :
    Unrolls x names held.length (before.length + 1) (ofDeclarations (d :: (before ++ x :: (held ++ after))))
      (ofDeclarations (d :: (before ++ (x.unrolled held names ++ after)))) := by
  have hv : ∀ e ∈ before ++ x :: held, d.level < e.level := by
    simp only [List.mem_append, List.mem_cons]
    rintro e (he | rfl | he)
    · exact hb e he
    · exact hx
    · exact hx.trans (hh e he)
  have hu : ∀ e ∈ before ++ x.unrolled held names, d.level < e.level := by
    simp only [List.mem_append]
    rintro e (he | he)
    · exact hb e he
    · exact hx.trans_le (le_of_mem_unrolled hh he)
  have ev := ofDeclarations_deeper hv after
  have eu := ofDeclarations_deeper hu after
  simp only [List.append_assoc, List.cons_append] at ev eu
  rw [ev, eu]
  exact .inside h

-- A declaration that closes before the item stands with all that it holds before where the item is unrolled.
theorem past (hx : (∀ e ∈ before, d.level < e.level) → x.level ≤ d.level) (ha : ∀ e ∈ after.head?, e.level ≤ x.level)
    (h : let before := before.dropWhile fun e => d.level < e.level
      Unrolls x names held.length before.length (ofDeclarations (before ++ x :: (held ++ after)))
        (ofDeclarations (before ++ (x.unrolled held names ++ after)))) :
    Unrolls x names held.length (before.length + 1) (ofDeclarations (d :: (before ++ x :: (held ++ after))))
      (ofDeclarations (d :: (before ++ (x.unrolled held names ++ after)))) := by
  have hv (hb : ∀ e ∈ before, d.level < e.level) : ∀ e ∈ (x :: (held ++ after)).head?, e.level ≤ d.level := by
    rintro e ⟨⟩
    exact hx hb
  have hu (hb : ∀ e ∈ before, d.level < e.level) :
      ∀ e ∈ (x.unrolled held names ++ after).head?, e.level ≤ d.level :=
    fun e he => (head_unrolled ha e he).trans (hx hb)
  have hl : before.length + 1 =
      (item d (ofDeclarations (before.takeWhile fun e => d.level < e.level))).flatten.length +
        (before.dropWhile fun e => d.level < e.level).length := by
    rw [flatten, flattenAll_ofDeclarations, ←List.length_append, List.cons_append, List.takeWhile_append_dropWhile,
      List.length_cons]
  rw [ofDeclarations_closed hv, ofDeclarations_closed hu, hl]
  exact .later h

end Unrolls

-- By induction on the declarations before the item: the first of them is either around it, or closes before it with all
-- that it holds.
theorem ofDeclarations_unrolls (hh : ∀ e ∈ held, x.level < e.level)
    (ha : ∀ e ∈ after.head?, e.level ≤ x.level) (hr : redefined x.name (siblings before x after) = false) :
    Unrolls x names held.length before.length (ofDeclarations (before ++ x :: (held ++ after)))
      (ofDeclarations (before ++ (x.unrolled held names ++ after))) := by
  induction hn : before.length using Nat.strong_induction_on generalizing before after
  case h n hi =>
  subst hn
  cases before
  case nil =>
    have hs : siblings [] x after = (ofDeclarations after).map declaration := by
      have ht : after.takeWhile (fun _ => true) = after := List.takeWhile_eq_self_iff.mpr fun _ _ => rfl
      simp [siblings, ht]
    rw [List.nil_append, List.nil_append, ofDeclarations_held hh ha, ofDeclarations_unrolled hh ha]
    exact .here (by rw [flattenAll_ofDeclarations]) (hs ▸ hr)
  case cons d before =>
    by_cases hd : (∀ e ∈ before, d.level < e.level) ∧ d.level < x.level
    case pos =>
      obtain ⟨hb, hx⟩ := hd
      have ha' : ∀ e ∈ (after.takeWhile fun e => d.level < e.level).head?, e.level ≤ x.level := by
        intro e he
        simp only [List.head?_takeWhile, Option.mem_filter_iff] at he
        exact ha e he.left
      exact .around hb hx hh (hi _ (Nat.lt_succ_self _) ha' (siblings_cons_of_lt hx hb ▸ hr) rfl)
    case neg =>
      have hx (h : ∀ e ∈ before, d.level < e.level) : x.level ≤ d.level :=
        Nat.le_of_not_lt fun hx => hd ⟨h, hx⟩
      have hlt : (before.dropWhile fun e => d.level < e.level).length < (d :: before).length :=
        Nat.lt_succ_of_le (List.dropWhile_sublist _).length_le
      exact .past hx ha (hi _ hlt ha (siblings_cons_of_closed hx ▸ hr) rfl)

end Outline
end Copybook
