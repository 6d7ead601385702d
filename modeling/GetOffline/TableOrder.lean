import GetOffline.Table
import Mathlib.Data.List.Sort
import Mathlib.Data.Prod.Lex

set_option autoImplicit true

namespace Table

/-- `SELECT WHERE p ORDER BY key`. -/
def orderBy [LinearOrder β] (p : κ → ρ → Bool) (key : κ → ρ → β) (t : Table κ ρ) : List (κ × ρ) :=
  ((t.entries.map fun e => (e.1, e.2)).filter fun e => p e.1 e.2).insertionSort
    fun d e => key d.1 d.2 ≤ key e.1 e.2

/-- Rows of different primary keys stand in different places of the order. -/
def Orders [LinearOrder β] (key : κ → ρ → β) : Prop :=
  ∀ j r k s, key j r = key k s → j = k

section
variable [DecidableEq κ] [LinearOrder β] {p : κ → ρ → Bool} {key : κ → ρ → β} {t u : Table κ ρ}

theorem mem_orderBy {e : κ × ρ} :
    e ∈ t.orderBy p key ↔ t.lookup e.1 = some e.2 ∧ p e.1 e.2 = true := by
  rw [orderBy, List.mem_insertionSort, List.mem_filter, ← mem_entries_iff, List.mem_map]
  constructor
  · rintro ⟨⟨d, hd, rfl⟩, hp⟩
    exact ⟨hd, hp⟩
  · rintro ⟨he, hp⟩
    exact ⟨⟨_, he, rfl⟩, hp⟩

omit [DecidableEq κ] in
theorem nodup_orderBy : ((t.orderBy p key).map Prod.fst).Nodup := by
  rw [orderBy, ((List.perm_insertionSort _ _).map Prod.fst).nodup_iff]
  apply List.Nodup.sublist (List.filter_sublist.map Prod.fst)
  rw [List.map_map]
  exact t.nodupKeys

omit [DecidableEq κ] in
theorem length_orderBy : (t.orderBy p key).length = t.count p := by
  rw [orderBy, List.length_insertionSort, List.filter_map, List.length_map, count,
    List.countP_eq_length_filter]
  rfl

omit [DecidableEq κ] in
theorem pairwise_orderBy :
    (t.orderBy p key).Pairwise fun d e => key d.1 d.2 ≤ key e.1 e.2 := by
  have : Std.Total fun d e : κ × ρ => key d.1 d.2 ≤ key e.1 e.2 := ⟨fun d e => le_total _ _⟩
  have : IsTrans (κ × ρ) fun d e => key d.1 d.2 ≤ key e.1 e.2 := ⟨fun _ _ _ => le_trans⟩
  exact List.pairwise_insertionSort _ _

omit [DecidableEq κ] in
theorem orderBy_lt (hkey : Orders key) :
    (t.orderBy p key).Pairwise fun d e => key d.1 d.2 < key e.1 e.2 := by
  have hne : (t.orderBy p key).Pairwise fun d e => d.1 ≠ e.1 := List.pairwise_map.1 nodup_orderBy
  refine (pairwise_orderBy.and hne).imp ?_
  rintro d e ⟨hle, hde⟩
  exact lt_of_le_of_ne hle fun he => hde (hkey _ _ _ _ he)

/-- The list of the selected rows in strict order is the answer of the query. -/
theorem orderBy_eq {l : List (κ × ρ)}
    (hmem : ∀ e, e ∈ l ↔ t.lookup e.1 = some e.2 ∧ p e.1 e.2 = true)
    (hl : l.Pairwise fun d e => key d.1 d.2 < key e.1 e.2) : t.orderBy p key = l := by
  have hkeys : (l.map fun e => key e.1 e.2).Nodup := List.pairwise_map.2 (hl.imp ne_of_lt)
  have hperm : (t.orderBy p key).Perm l :=
    (List.perm_ext_iff_of_nodup (List.Nodup.of_map _ nodup_orderBy) (.of_map _ hkeys)).2 fun e => by
      rw [mem_orderBy, hmem]
  refine hperm.eq_of_pairwise ?_ pairwise_orderBy (hl.imp le_of_lt)
  intro d e hd he hde hed
  exact List.inj_on_of_nodup_map hkeys (hperm.mem_iff.1 hd) he (le_antisymm hde hed)

theorem filter_orderBy (hkey : Orders key) (p q : κ → ρ → Bool) (t : Table κ ρ) :
    (t.orderBy p key).filter (fun e => q e.1 e.2) =
      t.orderBy (fun k r => p k r && q k r) key := by
  refine (orderBy_eq ?_ ((orderBy_lt hkey).filter _)).symm
  intro e
  rw [List.mem_filter, mem_orderBy, Bool.and_eq_true, and_assoc]

/-- A query sees the selected rows only. -/
theorem orderBy_congr (hkey : Orders key)
    (h : ∀ k, (t.lookup k).filter (p k) = (u.lookup k).filter (p k)) :
    t.orderBy p key = u.orderBy p key := by
  refine orderBy_eq ?_ (orderBy_lt hkey)
  intro e
  rw [mem_orderBy, ← Option.filter_eq_some_iff, ← Option.filter_eq_some_iff, h]

/-- What a deletion leaves of an answer stands in the order it stood in. -/
theorem orderBy_delete (hkey : Orders key) (q : κ → ρ → Bool) (t : Table κ ρ) :
    (t.delete q).orderBy p key = (t.orderBy p key).filter fun e => !q e.1 e.2 := by
  refine orderBy_eq ?_ ((orderBy_lt hkey).filter _)
  intro e
  rw [List.mem_filter, mem_orderBy, lookup_delete, Option.filter_eq_some_iff, and_right_comm]

theorem orderBy_insert {k : κ} {r : ρ} (hkey : Orders key) (hk : t.lookup k = none)
    (hlast : ∀ e ∈ t.orderBy p key, key e.1 e.2 < key k r) :
    orderBy p key (AList.insert k r t) =
      t.orderBy p key ++ if p k r then [(k, r)] else [] := by
  have hnew : ∀ e : κ × ρ, (e ∈ if p k r then [(k, r)] else []) ↔ e = (k, r) ∧ p k r = true := by
    intro e
    split
    · next h => rw [List.mem_singleton, and_iff_left h]
    · next h => exact iff_of_false List.not_mem_nil fun he => h he.2
  apply orderBy_eq
  · rintro ⟨j, s⟩
    rw [List.mem_append, mem_orderBy, hnew, Prod.mk.injEq]
    dsimp only
    by_cases hj : j = k
    · subst j
      rw [AList.lookup_insert, hk, Option.some.injEq]
      constructor
      · rintro (⟨h, -⟩ | ⟨⟨-, rfl⟩, hp⟩)
        · cases h
        · exact ⟨rfl, hp⟩
      · rintro ⟨rfl, hp⟩
        exact .inr ⟨⟨rfl, rfl⟩, hp⟩
    · rw [AList.lookup_insert_ne hj]
      exact or_iff_left fun h => hj h.1.1
  · rw [List.pairwise_append]
    refine ⟨orderBy_lt hkey, ?_, ?_⟩
    · split
      · exact List.pairwise_singleton _ _
      · exact List.Pairwise.nil
    · intro d hd e he
      obtain ⟨rfl, -⟩ := (hnew e).1 he
      exact hlast d hd

/-- An update that keeps what the query selects and sorts by. -/
theorem orderBy_update (hkey : Orders key) {q : κ → ρ → Bool} {f : ρ → ρ}
    (hp : ∀ k r, p k (f r) = p k r) (hf : ∀ k r, key k (f r) = key k r) (t : Table κ ρ) :
    (t.update q f).orderBy p key =
      (t.orderBy p key).map fun e => (e.1, if q e.1 e.2 then f e.2 else e.2) := by
  have hp' (k : κ) (r : ρ) : p k (if q k r then f r else r) = p k r := by
    split
    · exact hp k r
    · rfl
  have hf' (k : κ) (r : ρ) : key k (if q k r then f r else r) = key k r := by
    split
    · exact hf k r
    · rfl
  apply orderBy_eq
  · rintro ⟨k, s⟩
    rw [List.mem_map, lookup_update, Option.map_eq_some_iff]
    constructor
    · rintro ⟨⟨j, r⟩, hj, he⟩
      obtain ⟨rfl, rfl⟩ := Prod.mk.inj he
      obtain ⟨hr, hpr⟩ := mem_orderBy.1 hj
      exact ⟨⟨r, hr, rfl⟩, (hp' _ _).trans hpr⟩
    · rintro ⟨⟨r, hr, he⟩, hps⟩
      dsimp only at he hps
      refine ⟨(k, r), mem_orderBy.2 ⟨hr, ?_⟩, congrArg (Prod.mk k) he⟩
      rw [← he, hp'] at hps
      exact hps
  · rw [List.pairwise_map]
    refine (orderBy_lt hkey).imp fun {d e} hde => ?_
    dsimp only
    rw [hf', hf']
    exact hde

/-- Rows keep their places while new ones come in front of them. -/
theorem orderBy_suffix (hkey : Orders key)
    (hkept : ∀ k r, t.lookup k = some r → ∃ s, u.lookup k = some s ∧ p k s = p k r ∧ key k s = key k r)
    (hnew : ∀ j s, t.lookup j = none → u.lookup j = some s → ∀ k r, t.lookup k = some r → key j s < key k r) :
    (t.orderBy p key).map Prod.fst <:+ (u.orderBy p key).map Prod.fst := by
  have hsame {e : κ × ρ} {r : ρ} (he : e ∈ u.orderBy p key) (hr : t.lookup e.1 = some r) :
      p e.1 r = true ∧ key e.1 r = key e.1 e.2 := by
    obtain ⟨hs, hp⟩ := mem_orderBy.1 he
    obtain ⟨s, hs', hps, hks⟩ := hkept e.1 r hr
    rw [hs] at hs'
    obtain rfl := Option.some.inj hs'
    exact ⟨hps.symm.trans hp, hks.symm⟩
  have hold : t.orderBy p key = ((u.orderBy p key).filter fun e => (t.lookup e.1).isSome).map
      fun e => (e.1, (t.lookup e.1).getD e.2) := by
    refine orderBy_eq ?_ ?_
    · rintro ⟨k, r⟩
      rw [List.mem_map]
      constructor
      · rintro ⟨e, he, heq⟩
        obtain ⟨he, hsome⟩ := List.mem_filter.1 he
        obtain ⟨r', hr'⟩ := Option.isSome_iff_exists.1 hsome
        rw [hr', Option.getD_some] at heq
        cases heq
        exact ⟨hr', (hsame he hr').1⟩
      · rintro ⟨hr, hp⟩
        obtain ⟨s, hs, hps, -⟩ := hkept k r hr
        refine ⟨(k, s), List.mem_filter.2 ⟨mem_orderBy.2 ⟨hs, hps.trans hp⟩, ?_⟩, ?_⟩
        · dsimp only
          rw [hr]
          rfl
        · dsimp only
          rw [hr, Option.getD_some]
    · rw [List.pairwise_map]
      refine ((orderBy_lt hkey).filter _).imp_of_mem ?_
      intro d e hd he hlt
      have hkeep {x : κ × ρ} (hx : x ∈ (u.orderBy p key).filter fun e => (t.lookup e.1).isSome) :
          key x.1 ((t.lookup x.1).getD x.2) = key x.1 x.2 := by
        obtain ⟨hx, hsome⟩ := List.mem_filter.1 hx
        obtain ⟨r, hr⟩ := Option.isSome_iff_exists.1 hsome
        rw [hr, Option.getD_some]
        exact (hsame hx hr).2
      dsimp only
      rw [hkeep hd, hkeep he]
      exact hlt
  have hsplit : u.orderBy p key = ((u.orderBy p key).filter fun e => (t.lookup e.1).isNone) ++
      (u.orderBy p key).filter fun e => (t.lookup e.1).isSome := by
    refine orderBy_eq ?_ ?_
    · intro e
      rw [List.mem_append, List.mem_filter, List.mem_filter, ← and_or_left, mem_orderBy]
      refine and_iff_left ?_
      cases t.lookup e.1 with
      | none => exact .inl rfl
      | some r => exact .inr rfl
    · rw [List.pairwise_append]
      refine ⟨(orderBy_lt hkey).filter _, (orderBy_lt hkey).filter _, ?_⟩
      intro d hd e he
      obtain ⟨hd, hnone⟩ := List.mem_filter.1 hd
      obtain ⟨he, hsome⟩ := List.mem_filter.1 he
      obtain ⟨r, hr⟩ := Option.isSome_iff_exists.1 hsome
      rw [← (hsame he hr).2]
      exact hnew d.1 d.2 (Option.isNone_iff_eq_none.1 hnone) (mem_orderBy.1 hd).1 e.1 r hr
  rw [hsplit, List.map_append, hold, List.map_map]
  exact List.suffix_append _ _

/-- Lists in strict order are told by their elements. -/
theorem eq_of_pairwise_lt {f : α → β} {l m : List α} (hl : l.Pairwise fun a b => f a < f b)
    (hm : m.Pairwise fun a b => f a < f b) (h : ∀ a, a ∈ l ↔ a ∈ m) : l = m := by
  have hkeys : (m.map f).Nodup := List.pairwise_map.2 (hm.imp ne_of_lt)
  have hnodup : l.Nodup := .of_map f (List.pairwise_map.2 (hl.imp ne_of_lt))
  have hperm : l.Perm m := (List.perm_ext_iff_of_nodup hnodup (.of_map f hkeys)).2 h
  refine hperm.eq_of_pairwise ?_ (hl.imp le_of_lt) (hm.imp le_of_lt)
  intro a b ha hb hab hba
  exact List.inj_on_of_nodup_map hkeys ((h a).1 ha) hb (le_antisymm hab hba)

/-- The rows that stand before another one are those that are less in the order. -/
theorem mem_take_of_pairwise {f : α → β} {l : List α} (hl : l.Pairwise fun a b => f a < f b)
    (n : Nat) (ha : a ∈ l) : a ∈ l.take n ↔ (l.countP fun b => f b < f a) < n := by
  induction l generalizing n with
  | nil => exact (List.not_mem_nil ha).elim
  | cons b l ih =>
    obtain ⟨hb, hl'⟩ := List.pairwise_cons.1 hl
    cases n with
    | zero => exact iff_of_false List.not_mem_nil (Nat.not_lt_zero _)
    | succ n =>
      rw [List.take_succ_cons, List.mem_cons, List.countP_cons]
      rcases List.mem_cons.1 ha with rfl | hal
      · have hnone : (l.countP fun b => decide (f b < f a)) = 0 :=
          List.countP_eq_zero.2 fun b hbl h => (lt_asymm (hb b hbl) (of_decide_eq_true h))
        rw [hnone, if_neg (by simp only [lt_irrefl, decide_false, Bool.false_eq_true,
          not_false_eq_true])]
        exact iff_of_true (.inl rfl) (Nat.succ_pos n)
      · have hne : a ≠ b := fun h => lt_irrefl _ (h ▸ hb a hal)
        rw [if_pos (decide_eq_true (hb a hal)), or_iff_right hne, ih hl' n hal]
        exact Nat.succ_lt_succ_iff.symm

omit [DecidableEq κ] in
theorem countP_orderBy (p q : κ → ρ → Bool) (key : κ → ρ → β) (t : Table κ ρ) :
    ((t.orderBy p key).countP fun e => q e.1 e.2) = t.count fun k r => p k r && q k r := by
  rw [orderBy, (List.perm_insertionSort _ _).countP_eq, List.countP_filter, List.countP_map, count]
  congr 1
  funext e
  exact Bool.and_comm _ _

omit [DecidableEq κ] in
/-- A row is among the first `n` of a query if fewer than `n` selected rows are before it. -/
theorem mem_take_orderBy (hkey : Orders key) {e : κ × ρ} (he : e ∈ t.orderBy p key) (n : Nat) :
    e ∈ (t.orderBy p key).take n ↔
      (t.count fun k r => p k r && decide (key k r < key e.1 e.2)) < n := by
  rw [mem_take_of_pairwise (f := fun e : κ × ρ => key e.1 e.2) (orderBy_lt hkey) n he,
    ← countP_orderBy p (fun k r => decide (key k r < key e.1 e.2)) key]

theorem first_le (h : t.first p key = some e) (hr : t.lookup k = some r) (hp : p k r = true) :
    key e.1 e.2 ≤ key k r := by
  obtain ⟨d, hd, rfl⟩ := Option.map_eq_some_iff.1 h
  have hm : (⟨k, r⟩ : Sigma fun _ => ρ) ∈ t.entries.filter fun e => p e.1 e.2 :=
    List.mem_filter.2 ⟨mem_entries_iff.2 hr, hp⟩
  exact List.le_of_mem_argmin hm hd

theorem first_eq_some (hkey : Orders key) : t.first p key = some (k, r) ↔
    t.lookup k = some r ∧ p k r = true ∧
      ∀ j s, t.lookup j = some s → p j s = true → key k r ≤ key j s := by
  constructor
  · intro h
    obtain ⟨hr, hp⟩ := lookup_of_first h
    exact ⟨hr, hp, fun j s hs hps => first_le h hs hps⟩
  · rintro ⟨hr, hp, hle⟩
    cases h : t.first p key with
    | none =>
      rw [first_eq_none.1 h k r hr] at hp
      cases hp
    | some e =>
      obtain ⟨he, hpe⟩ := lookup_of_first h
      have hk := hkey _ _ _ _ (le_antisymm (first_le h hr hp) (hle _ _ he hpe))
      rw [hk, hr] at he
      exact congrArg some (Prod.ext hk (Option.some.inj he).symm)

/-- The first row of a query is the head of its answer. -/
theorem first_eq_head (hkey : Orders key) : t.first p key = (t.orderBy p key).head? := by
  cases hl : t.orderBy p key with
  | nil =>
    rw [List.head?_nil, first_eq_none]
    intro k r hr
    by_contra hp
    have hm : (k, r) ∈ t.orderBy p key := mem_orderBy.2 ⟨hr, eq_true_of_ne_false hp⟩
    rw [hl] at hm
    exact List.not_mem_nil hm
  | cons d l =>
    obtain ⟨hd, hpd⟩ := mem_orderBy.1 (hl ▸ List.mem_cons_self : d ∈ t.orderBy p key)
    cases h : t.first p key with
    | none =>
      rw [first_eq_none.1 h d.1 d.2 hd] at hpd
      cases hpd
    | some e =>
      obtain ⟨he, hpe⟩ := lookup_of_first h
      have hle := first_le h hd hpd
      have hmem : e ∈ d :: l := hl ▸ mem_orderBy.2 ⟨he, hpe⟩
      have hge : key d.1 d.2 ≤ key e.1 e.2 := by
        rcases List.mem_cons.1 hmem with rfl | hm
        · exact le_rfl
        · have hs := orderBy_lt (t := t) (p := p) hkey
          rw [hl] at hs
          exact ((List.pairwise_cons.1 hs).1 e hm).le
      have hk := hkey _ _ _ _ (le_antisymm hle hge)
      rw [hk, hd] at he
      rw [List.head?_cons]
      exact congrArg some (Prod.ext hk (Option.some.inj he).symm)

end

end Table
