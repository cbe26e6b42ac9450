import MarkupRules.Proofs.Path.Axes
import MarkupRules.Proofs.Path.Closure

/-!
# Selections are what the expression means

The evaluation on lists of items finds exactly what the meaning of the expression in the tree
says.

* `mem_keepRanked` -- what is kept by rank, told without the counter;
* `Axis.rank_eq` -- **a place in a list along an axis is a rank in the set of its spots**;
* `Filter.holds_iff_meets`, `Step.select_lists`, `Branch.select_lists` -- one part of an
  expression;
* `Expr.select?_sound_and_complete` -- **an item is selected if and only if a branch leads to
  its spot**.
-/

namespace MarkupRules.Path

variable {e : Element} {t : Content} {s u : Spot} {is : List Item} {among : Set Spot} {axis : Axis}

/-! ## 1. Ranks -/

/-- **What is kept by rank**: the members whose own rank and self pass. -/
theorem mem_keepRanked {α : Type} {p : Nat → α → Bool} {a : α} : ∀ {rank : Nat} {l : List α},
    a ∈ keepRanked p rank l ↔ ∃ k, l[k]? = some a ∧ p (rank + k) a = true
  | rank, [] => by simp [keepRanked]
  | rank, b :: rest => by
    have first : (∃ k, (b :: rest)[k]? = some a ∧ p (rank + k) a = true) ↔
        (b = a ∧ p rank a = true) ∨ a ∈ keepRanked p (rank + 1) rest := by
      rw [mem_keepRanked]
      constructor
      · intro h
        obtain ⟨k, hk, hp⟩ := h
        cases k with
        | zero => exact .inl ⟨Option.some.inj hk, hp⟩
        | succ k => exact .inr ⟨k, hk, by rwa [Nat.add_assoc, Nat.add_comm 1]⟩
      · intro h
        rcases h with ⟨rfl, hp⟩ | ⟨k, hk, hp⟩
        · exact ⟨0, rfl, hp⟩
        · exact ⟨k + 1, hk, by rwa [Nat.add_comm k, ← Nat.add_assoc]⟩
    rw [first, keepRanked]
    split
    · rename_i hb
      rw [List.mem_cons]
      exact or_congr_left ⟨fun h => ⟨h.symm, h ▸ hb⟩, fun h => h.1.symm⟩
    · rename_i hb
      refine (or_iff_right ?_).symm
      intro h
      obtain ⟨rfl, h⟩ := h
      exact hb h

theorem ncard_mem {α : Type} {l : List α} (h : l.Nodup) : {a | a ∈ l}.ncard = l.length := by
  classical
  rw [← List.toFinset_card_of_nodup h, ← Set.ncard_coe_finset, List.coe_toFinset]

/-- In an ordered list as many members come before one as its place says. -/
theorem ncard_before {α : Type} {before : α → α → Prop} {l : List α} {k : Nat} {a : α}
    (ordered : l.Pairwise before) (asymm : ∀ b c, before b c → ¬ before c b)
    (hk : l[k]? = some a) : {b | b ∈ l ∧ before b a}.ncard = k := by
  have whole := take_append_cons_drop hk
  rw [← whole, List.pairwise_append] at ordered
  obtain ⟨front, back, cross⟩ := ordered
  have members : {b | b ∈ l ∧ before b a} = {b | b ∈ l.take k} := by
    ext b
    constructor
    · intro h
      obtain ⟨hb, hba⟩ := h
      rw [← whole, List.mem_append, List.mem_cons] at hb
      rcases hb with hb | rfl | hb
      · exact hb
      · exact absurd hba (asymm _ _ hba)
      · exact absurd hba (asymm _ _ ((List.pairwise_cons.mp back).1 b hb))
    · intro hb
      exact ⟨List.mem_of_mem_take hb, cross b hb a List.mem_cons_self⟩
  have nodup : (l.take k).Nodup := front.imp fun {b c} hbc => by
    rintro rfl
    exact asymm _ _ hbc hbc
  rw [members, ncard_mem nodup, List.length_take]
  exact Nat.min_eq_left (Nat.le_of_lt (List.getElem?_eq_some_iff.mp hk).1)

/-- **A list without repetition is as long as the set of its spots has members.** -/
theorem length_eq_ncard (h : Lists t is among) (nodup : is.Nodup) : is.length = among.ncard := by
  have injective : Set.InjOn (Spot.item t) among := fun s hs u hu =>
    (Spot.item_eq_iff (h.valid s hs) (h.valid u hu)).mp
  have image : {i | i ∈ is} = Spot.item t '' among := Set.ext h.mem_iff
  rw [← ncard_mem nodup, image, injective.ncard_image]

/-- **A place in a list along an axis is a rank in the set of its spots.** -/
theorem Axis.rank_eq {k : Nat} (h : Lists t is among)
    (ordered : is.Pairwise (axis.orient Item.Before)) (hs : s.Valid t)
    (hk : is[k]? = some (s.item t)) : axis.rank among s = k + 1 := by
  have image : {i | i ∈ is ∧ axis.orient Item.Before i (s.item t)} =
      Spot.item t '' {u | u ∈ among ∧ axis.orient Spot.Before u s} := by
    ext i
    constructor
    · intro h
      obtain ⟨hi, hb⟩ := h
      obtain ⟨u, hu, rfl⟩ := (h.mem_iff i).mp hi
      exact ⟨u, ⟨hu, (Axis.orient_before_iff (h.valid u hu) hs).mp hb⟩, rfl⟩
    · intro h
      obtain ⟨u, ⟨hu, hb⟩, rfl⟩ := h
      exact ⟨(h.mem_iff _).mpr ⟨u, hu, rfl⟩, (Axis.orient_before_iff (h.valid u hu) hs).mpr hb⟩
  have injective : Set.InjOn (Spot.item t) {u | u ∈ among ∧ axis.orient Spot.Before u s} :=
    fun v hv w hw => (Spot.item_eq_iff (h.valid v hv.1) (h.valid w hw.1)).mp
  rw [Axis.rank, ← injective.ncard_image, ← image,
    ncard_before ordered (fun _ _ => Axis.orient_asymm) hk]

/-! ## 2. Lists brought together -/

theorem lists_unite (union : List Branch) (h : Lists t is among) :
    Lists t (unite union is) among where
  valid := h.valid
  mem_iff i := by rw [mem_unite, h.mem_iff]

theorem lists_append {js : List Item} {among' : Set Spot} (h : Lists t is among)
    (h' : Lists t js among') : Lists t (is ++ js) {u | u ∈ among ∨ u ∈ among'} where
  valid u hu := hu.elim (h.valid u) (h'.valid u)
  mem_iff i := by
    rw [List.mem_append, h.mem_iff, h'.mem_iff]
    constructor
    · intro h
      rcases h with ⟨u, hu, rfl⟩ | ⟨u, hu, rfl⟩
      · exact ⟨u, .inl hu, rfl⟩
      · exact ⟨u, .inr hu, rfl⟩
    · intro h
      obtain ⟨u, hu | hu, rfl⟩ := h
      · exact .inl ⟨u, hu, rfl⟩
      · exact .inr ⟨u, hu, rfl⟩

/-- What is listed step by step from the members of a list, put in document order. -/
theorem lists_inDocumentOrder {f : Item → List Item} {leads : Spot → Set Spot}
    (h : Lists t is among) (step : ∀ s, s.Valid t → Lists t (f (s.item t)) (leads s)) :
    Lists t (inDocumentOrder (is.flatMap f)) {u | ∃ s, s ∈ among ∧ u ∈ leads s} where
  valid u hu := by
    obtain ⟨s, hs, hu⟩ := hu
    exact (step s (h.valid s hs)).valid u hu
  mem_iff i := by
    rw [mem_inDocumentOrder, List.mem_flatMap]
    constructor
    · intro h
      obtain ⟨j, hj, hi⟩ := h
      obtain ⟨s, hs, rfl⟩ := (h.mem_iff j).mp hj
      obtain ⟨u, hu, rfl⟩ := ((step s (h.valid s hs)).mem_iff i).mp hi
      exact ⟨u, ⟨s, hs, hu⟩, rfl⟩
    · intro h
      obtain ⟨u, ⟨s, hs, hu⟩, rfl⟩ := h
      exact ⟨_, (h.mem_iff _).mpr ⟨s, hs, rfl⟩,
        ((step s (h.valid s hs)).mem_iff _).mpr ⟨u, hu, rfl⟩⟩

/-- A filter keeps the items of the spots that meet it, if it agrees with their ranks. -/
theorem lists_keepRanked {p : Nat → Item → Bool} {q : Spot → Nat → Prop} (h : Lists t is among)
    (ordered : is.Pairwise (axis.orient Item.Before))
    (hpq : ∀ s rank, s.Valid t → rank ≤ is.length → (p rank (s.item t) = true ↔ q s rank)) :
    Lists t (keepRanked p 1 is) {u | u ∈ among ∧ q u (axis.rank among u)} where
  valid u hu := h.valid u hu.1
  mem_iff i := by
    rw [mem_keepRanked]
    have bound : ∀ {k}, is[k]? = some i → 1 + k ≤ is.length := fun {k} hk => by
      have := (List.getElem?_eq_some_iff.mp hk).1
      omega
    constructor
    · intro h
      obtain ⟨k, hk, hp⟩ := h
      obtain ⟨u, hu, rfl⟩ := (h.mem_iff i).mp (List.mem_of_getElem? hk)
      have valid := h.valid u hu
      refine ⟨u, ⟨hu, ?_⟩, rfl⟩
      rw [Axis.rank_eq h ordered valid hk, Nat.add_comm]
      exact (hpq u _ valid (bound hk)).mp hp
    · intro h
      obtain ⟨u, ⟨hu, hq⟩, rfl⟩ := h
      have valid := h.valid u hu
      obtain ⟨k, hk⟩ := List.mem_iff_getElem?.mp ((h.mem_iff _).mpr ⟨u, hu, rfl⟩)
      rw [Axis.rank_eq h ordered valid hk, Nat.add_comm] at hq
      exact ⟨k, hk, (hpq u _ valid (bound hk)).mpr hq⟩

/-! ## 3. The parts of an expression -/

mutual
/-- **A filter holds of an item if the spot of the item meets it.** -/
theorem Filter.holds_iff_meets : ∀ (f : Filter) {s : Spot} {rank size : Nat}, s.Valid e.tree →
    rank ≤ size →
      (f.holds (.ofElement e) (s.item e.tree) rank size = true ↔ f.Meets e.tree s rank)
  | .or left right, s, rank, size, hs, hr => by
    rw [Filter.holds, Filter.Meets, Bool.or_eq_true, left.holds_iff_meets hs hr,
      right.holds_iff_meets hs hr]
  | .and left right, s, rank, size, hs, hr => by
    rw [Filter.holds, Filter.Meets, Bool.and_eq_true, left.holds_iff_meets hs hr,
      right.holds_iff_meets hs hr]
  | .not inner, s, rank, size, hs, hr => by
    rw [Filter.holds, Filter.Meets, Bool.not_eq_true', ← Bool.not_eq_true,
      inner.holds_iff_meets hs hr]
  | .exists union, s, rank, size, hs, _ => by
    have listed := lists_unite union (selectEach_lists union hs)
    rw [Filter.holds, Filter.Meets, Bool.not_eq_true', List.isEmpty_eq_false_iff_exists_mem]
    constructor
    · intro h
      obtain ⟨i, hi⟩ := h
      obtain ⟨u, hu, _⟩ := (listed.mem_iff i).mp hi
      exact ⟨u, hu⟩
    · intro h
      obtain ⟨u, hu⟩ := h
      exact ⟨_, (listed.mem_iff _).mpr ⟨u, hu, rfl⟩⟩
  | .compare union comparison operand, s, rank, size, hs, _ => by
    have listed := lists_unite union (selectEach_lists union hs)
    rw [Filter.holds, Filter.Meets, List.any_eq_true]
    constructor
    · intro h
      obtain ⟨i, hi, holds⟩ := h
      obtain ⟨u, hu, rfl⟩ := (listed.mem_iff i).mp hi
      rw [stringValue_item (listed.valid u hu)] at holds
      exact ⟨u, hu, holds⟩
    · intro h
      obtain ⟨u, hu, holds⟩ := h
      rw [← stringValue_item (listed.valid u hu)] at holds
      exact ⟨_, (listed.mem_iff _).mpr ⟨u, hu, rfl⟩, holds⟩
  | .count union comparison value, s, rank, size, hs, _ => by
    have listed := lists_unite union (selectEach_lists union hs)
    rw [Filter.holds, Filter.Meets,
      length_eq_ncard listed (nodup_of_ascending selectUnion_ascending)]
  | .position wanted, s, rank, size, _, hr => by
    rw [Filter.holds, Filter.Meets, Bool.and_eq_true, beq_iff_eq, decide_eq_true_iff]
    exact and_iff_left_of_imp fun h => h ▸ hr

/-- **A step selects the items of the spots it leads to.** -/
theorem Step.select_lists : ∀ (step : Step) {s : Spot}, s.Valid e.tree →
    Lists e.tree (step.select (.ofElement e) (s.item e.tree)) {u | step.Leads e.tree s u}
  | ⟨axis, test, filters⟩, s, hs => by
    have tested : Lists e.tree ((axis.items (.ofElement e) (s.item e.tree)).filter
        (test.accepts (.ofElement e) axis)) {u | axis.Leads e.tree s u ∧ test.Passes e.tree u} :=
      (axis.items_lists hs).filter fun u hu => NodeTest.accepts_iff hs hu
    simp only [Step.select, Step.Leads]
    exact keepAll_lists filters tested ((axis.items_ordered _ _).filter _)

/-- **Filters in turn keep the items of the spots that survive them.** -/
theorem keepAll_lists : ∀ (filters : List Filter) {axis : Axis} {is : List Item} {among : Set Spot},
    Lists e.tree is among → is.Pairwise (axis.orient Item.Before) →
      Lists e.tree (keepAll (.ofElement e) filters is) {u | Survives e.tree axis filters among u}
  | [], axis, is, among, h, _ => by
    simp only [keepAll, Survives]
    exact h
  | f :: rest, axis, is, among, h, ordered => by
    simp only [keepAll, Survives]
    exact keepAll_lists rest (lists_keepRanked h ordered fun s rank hs hr =>
      f.holds_iff_meets hs hr) (ordered.sublist keepRanked_sublist)

/-- **Steps in a row select the items of the spots they lead to.** -/
theorem walk_lists : ∀ (steps : List Step) {is : List Item} {among : Set Spot},
    Lists e.tree is among → Lists e.tree (walk (.ofElement e) steps is)
      {u | ∃ s, s ∈ among ∧ AllLead e.tree steps s u}
  | [], is, among, h => by
    simp only [walk, AllLead]
    exact h.congr fun s => ⟨fun hs => ⟨s, hs, rfl⟩, fun ⟨u, hu, same⟩ => same ▸ hu⟩
  | step :: rest, is, among, h => by
    have next := walk_lists rest (lists_inDocumentOrder h fun s hs => step.select_lists hs)
    rw [walk_cons]
    refine next.congr fun u => ?_
    simp only [AllLead]
    constructor
    · intro h
      obtain ⟨v, ⟨s, hs, hv⟩, hu⟩ := h
      exact ⟨s, hs, v, hv, hu⟩
    · intro h
      obtain ⟨s, hs, v, hv, hu⟩ := h
      exact ⟨v, ⟨s, hs, hv⟩, hu⟩

/-- **A branch selects the items of the spots it leads to.** -/
theorem Branch.select_lists : ∀ (b : Branch) {s : Spot}, s.Valid e.tree →
    Lists e.tree (b.select (.ofElement e) (s.item e.tree)) {u | b.Leads e.tree s u}
  | ⟨absolute, steps⟩, s, hs => by
    have start : (if absolute then .node (Document.ofElement e).root else s.item e.tree) =
        (if absolute then .node [] else s : Spot).item e.tree := by
      cases absolute with
      | true => exact congrArg Item.node Content.index_nil.symm
      | false => rfl
    have valid : (if absolute then .node [] else s : Spot).Valid e.tree := by
      cases absolute with
      | true => exact ⟨_, Content.at?_nil⟩
      | false => exact hs
    have listed := walk_lists steps (Lists.singleton valid)
    rw [Branch.select, start]
    refine listed.congr fun u => ?_
    simp only [Branch.Leads]
    exact ⟨fun ⟨v, hv, hu⟩ => hv ▸ hu, fun hu => ⟨_, rfl, hu⟩⟩

/-- **Branches one after the other select the items of the spots they lead to.** -/
theorem selectEach_lists : ∀ (union : List Branch) {s : Spot}, s.Valid e.tree →
    Lists e.tree (selectEach (.ofElement e) union (s.item e.tree)) {u | AnyLeads e.tree union s u}
  | [], s, _ => by
    simp only [selectEach, AnyLeads]
    exact .nil fun u => id
  | b :: rest, s, hs => by
    simp only [selectEach, AnyLeads]
    exact lists_append (b.select_lists hs) (selectEach_lists rest hs)
end

/-! ## 4. Expressions -/

theorem within_iff_exists_spot {context : Item} :
    context.within (.ofElement e) = true ↔ ∃ s, context.spot? e.tree = some s := by
  rw [Item.within_iff, Document.size_ofElement]
  constructor
  · intro h
    obtain ⟨s, hs, same⟩ := Spot.exists_item_eq h
    exact ⟨s, Item.spot?_eq_some.mpr ⟨hs, same⟩⟩
  · intro h
    obtain ⟨s, h⟩ := h
    obtain ⟨⟨c, hc⟩, rfl⟩ := Item.spot?_eq_some.mp h
    have lt := Content.index_lt_size hc
    rcases s with p | ⟨p, name⟩ <;> exact lt

theorem Branch.leads_of_absolute {b : Branch} (h : b.absolute = true) (s s' : Spot) :
    b.Leads t s u ↔ b.Leads t s' u := by
  obtain ⟨absolute, steps⟩ := b
  cases h
  rfl

/-- **A branch selects an item if it leads to its spot**, from the spot of the context or, if it is
    absolute, from any. -/
theorem Branch.mem_select_iff {b : Branch} {context j : Item}
    (h : b.absolute = true ∨ ∃ s, context.spot? e.tree = some s) :
    j ∈ b.select (.ofElement e) context ↔
      ∃ s u, (b.absolute = true ∨ context.spot? e.tree = some s) ∧ j.spot? e.tree = some u ∧
        b.Leads e.tree s u := by
  obtain ⟨s, valid, start, same⟩ : ∃ s : Spot, s.Valid e.tree ∧
      (b.absolute = true ∨ context.spot? e.tree = some s) ∧
        b.select (.ofElement e) context = b.select (.ofElement e) (s.item e.tree) := by
    rcases h with absolute | ⟨s, hs⟩
    · exact ⟨.node [], ⟨_, Content.at?_nil⟩, .inl absolute, b.select_of_absolute _ absolute _ _⟩
    · obtain ⟨valid, rfl⟩ := Item.spot?_eq_some.mp hs
      exact ⟨s, valid, .inr hs, rfl⟩
  have listed := b.select_lists valid
  rw [same, listed.mem_iff]
  constructor
  · intro h
    obtain ⟨u, hu, rfl⟩ := h
    exact ⟨s, u, start, Item.spot?_eq_some.mpr ⟨listed.valid u hu, rfl⟩, hu⟩
  · intro h
    obtain ⟨s', u, start', hu, leads⟩ := h
    refine ⟨u, ?_, (Item.spot?_eq_some.mp hu).2⟩
    rcases start with absolute | hs
    · exact (Branch.leads_of_absolute absolute s' s).mp leads
    · rcases start' with absolute | hs'
      · exact (Branch.leads_of_absolute absolute s' s).mp leads
      · cases hs.symm.trans hs'
        exact leads

/-- **Selection is sound and complete.** There is an answer for every context in the document, and
    for any context if the expression does not look at it. An item is selected if and only if one
    of the branches leads to its spot: from the spot of the context, or from wherever else if the
    branch is absolute. -/
theorem Expr.select?_sound_and_complete (e : Element) (x : Expr) (context : Item) :
    ((x.select? (.ofElement e) context).isSome = true ↔
      x.isAbsolute = true ∨ ∃ s, context.spot? e.tree = some s) ∧
    ∀ selected, x.select? (.ofElement e) context = some selected → ∀ j, j ∈ selected ↔
      ∃ b ∈ x.union, ∃ s u, (b.absolute = true ∨ context.spot? e.tree = some s) ∧
        j.spot? e.tree = some u ∧ b.Leads e.tree s u := by
  have answered : (x.select? (.ofElement e) context).isSome = true ↔
      x.isAbsolute = true ∨ ∃ s, context.spot? e.tree = some s := by
    rw [← within_iff_exists_spot, Expr.select?, Expr.looksAtContext]
    cases x.isAbsolute <;> cases context.within (.ofElement e) <;> simp
  refine ⟨answered, fun selected h j => ?_⟩
  have known : ∀ b ∈ x.union, b.absolute = true ∨ ∃ s, context.spot? e.tree = some s := by
    intro b hb
    rcases answered.mp (by rw [h]; rfl) with all | hs
    · exact .inl (List.all_eq_true.mp all b hb)
    · exact .inr hs
  have selected_eq : selected = selectUnion (.ofElement e) x.union context := by
    rw [Expr.select?] at h
    split at h
    · cases h
    · exact (Option.some.inj h).symm
  rw [selected_eq, mem_selectUnion]
  exact exists_congr fun b => and_congr_right fun hb => Branch.mem_select_iff (known b hb)

/-- An article with two paragraphs. -/
def twoParagraphs : Element :=
  ({ name := "article" } : Element).child { name := "p" } |>.child { name := "p" }

/-- What `p[2]/preceding-sibling::*[1]` is compiled to. -/
def paragraphBefore : Expr where
  source := "p[2]/preceding-sibling::*[1]"
  union := [⟨false, [⟨.child, .name "p", [.position 2]⟩,
    ⟨.precedingSibling, .wildcard, [.position 1]⟩]⟩]

theorem select?_paragraphBefore :
    paragraphBefore.select? (.ofElement twoParagraphs) (.node 1) = some [.node 2] ∧
      ∃ b ∈ paragraphBefore.union, ∃ s u,
        (b.absolute = true ∨ Item.spot? twoParagraphs.tree (.node 1) = some s) ∧
          Item.spot? twoParagraphs.tree (.node 2) = some u ∧ b.Leads twoParagraphs.tree s u := by
  have selected : paragraphBefore.select? (.ofElement twoParagraphs) (.node 1) =
      some [.node 2] := by decide +kernel
  exact ⟨selected, ((Expr.select?_sound_and_complete twoParagraphs paragraphBefore (.node 1)).2 _
    selected _).mp (List.mem_singleton_self _)⟩

end MarkupRules.Path
