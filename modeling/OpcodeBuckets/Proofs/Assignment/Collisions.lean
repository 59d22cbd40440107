import OpcodeBuckets.Assignment.Collision
import OpcodeBuckets.Proofs.Opcodes
import Mathlib.Data.List.Induction

/-!
# What a Collision Lists

Gathering, said without the gathering.

`holders` builds its groups one pair at a time, and `collisionsOf` then filters
and sorts them. Neither is a statement about the list that was gathered. The
instructions that share an opcode have a description of their own, `sharers`,
which reads the list once and keeps no groups at all.

`Gathers` says that groups are right for the part of a list that was read:
every opcode of it has one group, and the group holds its sharers. One more
pair keeps it so, hence the finished groups satisfy it for the whole list.

Groups are kept by a key that no two of them share. A pair either joins the group
of its key or opens one at the end, and `withKey` is what that does to the keys.

The order in which opcodes first arrive is visible in the groups and gone from
the collisions. They ascend strictly, so a collision list is settled by what is
in it, and what is in it is settled by the sharers.

## Main definitions

* `withKey`: Keys with one more.
* `sharers`: The instructions that a list pairs with an opcode.
* `Gathers`: Groups that are right for a list.
* `crowded`: The groups of more than one instruction, as collisions.

## Theorems

* `gathers_addHolder`: One more pair keeps the groups right.
* `gathers_holders`: The groups of a whole list are right.
* `collisionsOf_perm`: Collisions are the crowded groups, in some order.
* `pairwise_collisionsOf`: Collisions ascend strictly.
* `collisions_ext`: Ascending collisions with the same members are the same.
* `mem_collisionsOf_holders`: What the collisions of a list are.
* `eq_collisionsOf`: No order of the groups, and no sort of them, is in the outcome.
* `checkDistinct_eq_ok_iff`, `checkDistinct_eq_error_iff`: When a list is
  accepted, and what its refusal holds.
* `checkDistinct_congr`: The outcome depends on the sharers alone.
-/

namespace OpcodeBuckets

namespace Assignment

section Keys

variable {α : Type} [DecidableEq α]

/-- Keys with one more, which goes to the end unless it is among them. -/
def withKey (key : α) (keys : List α) : List α :=
  if key ∈ keys then keys else keys ++ [key]

theorem withKey_cons_self (key : α) (keys : List α) : withKey key (key :: keys) = key :: keys :=
  if_pos List.mem_cons_self

theorem withKey_cons_of_ne {key other : α} (h : other ≠ key) (keys : List α) :
    withKey key (other :: keys) = other :: withKey key keys := by
  -- The head is another key, so it has no say in whether the key is new.
  have hmem : key ∈ other :: keys ↔ key ∈ keys := by
    rw [List.mem_cons, or_iff_right (Ne.symm h)]
  rw [withKey, withKey]
  by_cases hkey : key ∈ keys
  · rw [if_pos hkey, if_pos (hmem.mpr hkey)]
  · rw [if_neg hkey, if_neg (fun h => hkey (hmem.mp h)), List.cons_append]

theorem mem_withKey {key other : α} {keys : List α} :
    other ∈ withKey key keys ↔ other ∈ keys ∨ other = key := by
  rw [withKey]
  by_cases hkey : key ∈ keys
  · rw [if_pos hkey]
    exact (or_iff_left_of_imp fun h => h ▸ hkey).symm
  · rw [if_neg hkey, List.mem_append, List.mem_singleton]

/-- A key that goes to the end is new. -/
theorem nodup_withKey {keys : List α} (h : keys.Nodup) (key : α) : (withKey key keys).Nodup := by
  rw [withKey]
  by_cases hkey : key ∈ keys
  · rwa [if_pos hkey]
  · rw [if_neg hkey, (List.perm_append_singleton key keys).nodup_iff, List.nodup_cons]
    exact ⟨hkey, h⟩

end Keys

/-- The instructions that a list pairs with an opcode, in the order of the list. -/
def sharers (assigned : List (Opcode × Instruction)) (opcode : Opcode) : List Instruction :=
  (assigned.filter fun pair => decide (pair.1 = opcode)).map Prod.snd

theorem sharers_append_singleton (assigned : List (Opcode × Instruction)) (opcode other : Opcode)
    (instruction : Instruction) :
    sharers (assigned ++ [(opcode, instruction)]) other =
      sharers assigned other ++ if opcode = other then [instruction] else [] := by
  rw [sharers, sharers, List.filter_append, List.map_append]
  congr 1
  by_cases h : opcode = other
  · rw [if_pos h, List.filter_cons, if_pos (decide_eq_true h), List.filter_nil, List.map_singleton]
  · rw [if_neg h, List.filter_cons, if_neg (by rwa [decide_eq_true_eq]), List.filter_nil,
      List.map_nil]

theorem sharers_eq_nil {assigned : List (Opcode × Instruction)} {opcode : Opcode}
    (h : opcode ∉ assigned.map Prod.fst) : sharers assigned opcode = [] := by
  rw [sharers, List.map_eq_nil_iff, List.filter_eq_nil_iff]
  intro pair hpair
  rw [decide_eq_true_eq]
  intro hopcode
  exact h (hopcode ▸ List.mem_map_of_mem hpair)

theorem mem_of_length_sharers_pos {assigned : List (Opcode × Instruction)} {opcode : Opcode}
    (h : 0 < (sharers assigned opcode).length) : opcode ∈ assigned.map Prod.fst := by
  by_contra hnew
  rw [sharers_eq_nil hnew, List.length_nil] at h
  omega

/-- What a function hands out is shared by those it hands the same. -/
theorem sharers_map (f : Instruction → Opcode) (instructions : List Instruction)
    (opcode : Opcode) :
    sharers (instructions.map fun i => (f i, i)) opcode =
      instructions.filter fun i => decide (f i = opcode) := by
  rw [sharers, List.filter_map, List.map_map]
  exact List.map_id _

theorem map_fst_addHolder (opcode : Opcode) (instruction : Instruction) (groups : Holders) :
    (addHolder opcode instruction groups).map Prod.fst = withKey opcode (groups.map Prod.fst) := by
  induction groups with
  | nil => rfl
  | cons group rest ih =>
      rcases group with ⟨other, held⟩
      by_cases hother : other = opcode
      · -- The pair joins the group at the head.
        subst hother
        rw [addHolder, if_pos rfl, List.map_cons, List.map_cons, withKey_cons_self]
      · rw [addHolder, if_neg hother, List.map_cons, List.map_cons, withKey_cons_of_ne hother, ih]

/-- The groups after a further pair are the old ones, but for the one of its
    opcode. -/
theorem mem_addHolder {opcode : Opcode} {instruction : Instruction} {groups : Holders}
    (hnodup : (groups.map Prod.fst).Nodup) {group : Opcode × List Instruction}
    (h : group ∈ addHolder opcode instruction groups) :
    (group ∈ groups ∧ group.1 ≠ opcode) ∨
      (∃ held, (opcode, held) ∈ groups ∧ group = (opcode, held ++ [instruction])) ∨
      (opcode ∉ groups.map Prod.fst ∧ group = (opcode, [instruction])) := by
  induction groups with
  | nil =>
      rw [addHolder, List.mem_singleton] at h
      exact Or.inr (Or.inr ⟨List.not_mem_nil, h⟩)
  | cons head rest ih =>
      rcases head with ⟨other, held⟩
      rw [List.map_cons, List.nodup_cons] at hnodup
      rcases hnodup with ⟨hfresh, hrest⟩
      by_cases hother : other = opcode
      · rw [addHolder, if_pos hother, List.mem_cons] at h
        rcases h with rfl | h
        · exact Or.inr (Or.inl ⟨held, by rw [hother]; exact List.mem_cons_self, by rw [hother]⟩)
        · -- The opcode has its group at the head, so none of the rest is about it.
          refine Or.inl ⟨List.mem_cons_of_mem _ h, fun hgroup => hfresh ?_⟩
          exact List.mem_map.mpr ⟨group, h, hgroup.trans hother.symm⟩
      · rw [addHolder, if_neg hother, List.mem_cons] at h
        rcases h with rfl | h
        · exact Or.inl ⟨List.mem_cons_self, hother⟩
        · -- The pair goes to the rest, and each case there is the same case here.
          rcases ih hrest h with ⟨hmem, hne⟩ | ⟨held', hmem, hgroup⟩ | ⟨hnew, hgroup⟩
          · exact Or.inl ⟨List.mem_cons_of_mem _ hmem, hne⟩
          · exact Or.inr (Or.inl ⟨held', List.mem_cons_of_mem _ hmem, hgroup⟩)
          · refine Or.inr (Or.inr ⟨?_, hgroup⟩)
            rw [List.map_cons, List.mem_cons, not_or]
            exact ⟨Ne.symm hother, hnew⟩

/-- Groups that are right for a list: every opcode of it has one group, and the
    group holds the sharers of its opcode. -/
structure Gathers (assigned : List (Opcode × Instruction)) (groups : Holders) : Prop where
  /-- No opcode has two groups. -/
  nodup : (groups.map Prod.fst).Nodup
  /-- The opcodes with a group are those of the list. -/
  mem_opcodes : ∀ opcode, opcode ∈ groups.map Prod.fst ↔ opcode ∈ assigned.map Prod.fst
  /-- A group holds all that share its opcode. -/
  held_eq : ∀ group ∈ groups, group.2 = sharers assigned group.1

/-- One more pair keeps the groups right. -/
theorem gathers_addHolder {assigned : List (Opcode × Instruction)} {groups : Holders}
    (h : Gathers assigned groups) (opcode : Opcode) (instruction : Instruction) :
    Gathers (assigned ++ [(opcode, instruction)]) (addHolder opcode instruction groups) where
  nodup := by
    rw [map_fst_addHolder]
    exact nodup_withKey h.nodup opcode
  mem_opcodes other := by
    rw [map_fst_addHolder, mem_withKey, h.mem_opcodes other, List.map_append, List.mem_append,
      List.map_singleton, List.mem_singleton]
  held_eq group hgroup := by
    -- The group is one that stayed, the one that grew or the one that opened.
    rcases mem_addHolder h.nodup hgroup with ⟨hmem, hne⟩ | ⟨held, hmem, rfl⟩ | ⟨hnew, rfl⟩
    · rw [sharers_append_singleton, if_neg (Ne.symm hne), List.append_nil]
      exact h.held_eq group hmem
    · rw [sharers_append_singleton, if_pos rfl, ← h.held_eq _ hmem]
    · rw [sharers_append_singleton, if_pos rfl,
        sharers_eq_nil (fun hmem => hnew ((h.mem_opcodes opcode).mpr hmem)), List.nil_append]

/-- The groups of a whole list are right, by induction on how much of it was read. -/
theorem gathers_holders (assigned : List (Opcode × Instruction)) :
    Gathers assigned (holders assigned) := by
  induction assigned using List.reverseRecOn with
  | nil => exact ⟨List.nodup_nil, fun _ => Iff.rfl, fun _ h => absurd h List.not_mem_nil⟩
  | append_singleton read pair ih =>
      have hstep : holders (read ++ [pair]) = addHolder pair.1 pair.2 (holders read) := by
        rw [holders, List.foldl_append, List.foldl_cons, List.foldl_nil, holders]
      rw [hstep]
      exact gathers_addHolder ih pair.1 pair.2

/-- The groups of more than one instruction as collisions, in the order of the groups. -/
def crowded (groups : Holders) : List Collision :=
  (groups.filter fun group => decide (1 < group.2.length)).map fun group => ⟨group.1, group.2⟩

theorem collisionsOf_perm (groups : Holders) : (collisionsOf groups).Perm (crowded groups) :=
  List.mergeSort_perm _ _

theorem mem_collisionsOf {groups : Holders} {collision : Collision} :
    collision ∈ collisionsOf groups ↔
      (collision.opcode, collision.instructions) ∈ groups ∧
        1 < collision.instructions.length := by
  rw [(collisionsOf_perm groups).mem_iff, crowded, List.mem_map]
  constructor
  · rintro ⟨group, hgroup, rfl⟩
    rw [List.mem_filter, decide_eq_true_eq] at hgroup
    exact hgroup
  · intro h
    refine ⟨(collision.opcode, collision.instructions), ?_, rfl⟩
    rw [List.mem_filter, decide_eq_true_eq]
    exact h

/-- Collisions ascend strictly. The sort alone gives an ascent that may stand
    still; it never does because no opcode has two groups. -/
theorem pairwise_collisionsOf {groups : Holders} (hnodup : (groups.map Prod.fst).Nodup) :
    (collisionsOf groups).Pairwise fun a b => a.opcode < b.opcode := by
  -- The sort asks for its comparison to be transitive and total, as a Boolean.
  have htrans : ∀ a b c : Collision, decide (a.opcode ≤ b.opcode) = true →
      decide (b.opcode ≤ c.opcode) = true → decide (a.opcode ≤ c.opcode) = true := by
    intro a b c hab hbc
    rw [decide_eq_true_eq] at hab hbc ⊢
    exact Std.le_trans hab hbc
  have htotal : ∀ a b : Collision,
      (decide (a.opcode ≤ b.opcode) || decide (b.opcode ≤ a.opcode)) = true := by
    intro a b
    rw [Bool.or_eq_true, decide_eq_true_eq, decide_eq_true_eq]
    exact Std.le_total
  have hsorted : (collisionsOf groups).Pairwise fun a b => a.opcode ≤ b.opcode := by
    have h := List.pairwise_mergeSort htrans htotal (crowded groups)
    simpa only [collisionsOf, crowded, decide_eq_true_eq] using h
  -- Groups are dropped and moved about, and none comes to stand there twice.
  have hdistinct : ((collisionsOf groups).map Collision.opcode).Nodup := by
    rw [((collisionsOf_perm groups).map Collision.opcode).nodup_iff, crowded, List.map_map]
    exact hnodup.sublist (List.filter_sublist.map Prod.fst)
  rw [List.Nodup, List.pairwise_map] at hdistinct
  refine (hsorted.and hdistinct).imp fun h => ?_
  rw [Opcode.lt_iff]
  exact Nat.lt_of_le_of_ne (Opcode.le_iff.mp h.1) fun heq => h.2 (Opcode.eq_of_toNat heq)

/-- Ascending collisions with the same members are the same. -/
theorem collisions_ext {a b : List Collision}
    (ha : a.Pairwise fun x y => x.opcode < y.opcode)
    (hb : b.Pairwise fun x y => x.opcode < y.opcode)
    (h : ∀ collision, collision ∈ a ↔ collision ∈ b) : a = b := by
  have hnodup : ∀ {l : List Collision}, l.Pairwise (fun x y => x.opcode < y.opcode) → l.Nodup := by
    intro l hl
    refine hl.imp fun hlt heq => ?_
    rw [heq, Opcode.lt_iff] at hlt
    exact Nat.lt_irrefl _ hlt
  have hperm : a.Perm b := (List.perm_ext_iff_of_nodup (hnodup ha) (hnodup hb)).mpr h
  refine hperm.eq_of_pairwise (fun x y _ _ hxy hyx => ?_) ha hb
  rw [Opcode.lt_iff] at hxy hyx
  exact absurd hxy (Nat.not_lt.mpr (Nat.le_of_lt hyx))

/-- What the collisions of a list are: the opcodes with more than one sharer,
    each with all its sharers. -/
theorem mem_collisionsOf_holders {assigned : List (Opcode × Instruction)} {collision : Collision} :
    collision ∈ collisionsOf (holders assigned) ↔
      collision.instructions = sharers assigned collision.opcode ∧
        1 < collision.instructions.length := by
  have hgathers := gathers_holders assigned
  rw [mem_collisionsOf]
  constructor
  · rintro ⟨hmem, hlength⟩
    exact ⟨hgathers.held_eq _ hmem, hlength⟩
  · rintro ⟨heq, hlength⟩
    refine ⟨?_, hlength⟩
    -- An opcode with a sharer is in the list, so it has a group, and that group is the one.
    have hlisted : collision.opcode ∈ (holders assigned).map Prod.fst := by
      rw [hgathers.mem_opcodes]
      rw [heq] at hlength
      exact mem_of_length_sharers_pos (Nat.zero_lt_of_lt hlength)
    rcases List.mem_map.mp hlisted with ⟨⟨opcode, held⟩, hmem, hopcode⟩
    have hheld := hgathers.held_eq _ hmem
    simp only at hopcode hheld
    rw [heq, ← hopcode, ← hheld]
    exact hmem

theorem pairwise_collisionsOf_holders (assigned : List (Opcode × Instruction)) :
    (collisionsOf (holders assigned)).Pairwise fun a b => a.opcode < b.opcode :=
  pairwise_collisionsOf (gathers_holders assigned).nodup

/-- No opcode has two collisions, for want of a second group. -/
theorem eq_of_opcode_eq {assigned : List (Opcode × Instruction)} {a b : Collision}
    (ha : a ∈ collisionsOf (holders assigned))
    (hb : b ∈ collisionsOf (holders assigned)) (h : a.opcode = b.opcode) : a = b := by
  rw [mem_collisionsOf_holders] at ha hb
  rcases a with ⟨opcode, instructions⟩
  rcases b with ⟨other, others⟩
  simp only at h ha hb
  rw [ha.1, hb.1, h]

/-- The groups of a list may be enumerated in any order, and the crowded ones sorted by
    opcode in any way: the collisions come out the same. -/
theorem eq_collisionsOf {assigned : List (Opcode × Instruction)} {groups : Holders}
    {listed : List Collision}
    (hgroups : groups.Perm (holders assigned)) (hlisted : listed.Perm (crowded groups))
    (hsorted : listed.Pairwise fun a b => a.opcode ≤ b.opcode) :
    listed = collisionsOf (holders assigned) := by
  have hcrowded : (crowded groups).Perm (crowded (holders assigned)) :=
    (hgroups.filter _).map _
  have hperm : listed.Perm (collisionsOf (holders assigned)) :=
    (hlisted.trans hcrowded).trans (collisionsOf_perm _).symm
  have hascend : (collisionsOf (holders assigned)).Pairwise fun a b => a.opcode ≤ b.opcode := by
    refine (pairwise_collisionsOf_holders assigned).imp fun h => ?_
    exact Opcode.le_iff.mpr (Nat.le_of_lt (Opcode.lt_iff.mp h))
  -- Two members that are equal to the sort are one, so there is one way to sort them.
  refine hperm.eq_of_pairwise (fun a b ha hb hab hba => ?_) hsorted hascend
  exact eq_of_opcode_eq (hperm.mem_iff.mp ha) hb (Std.le_antisymm hab hba)

theorem checkDistinct_eq_error_iff {assigned : List (Opcode × Instruction)}
    {error : UniquenessError} :
    checkDistinct assigned = .error error ↔
      error.collisions = collisionsOf (holders assigned) ∧ error.collisions ≠ [] := by
  rcases error with ⟨collisions⟩
  rw [checkDistinct]
  cases hcollisions : collisionsOf (holders assigned) with
  | nil =>
      refine ⟨fun h => ?_, fun h => absurd h.1 h.2⟩
      simp only [reduceCtorEq] at h
  | cons first rest =>
      simp only [Except.error.injEq, UniquenessError.mk.injEq]
      exact ⟨fun h => ⟨h.symm, h ▸ List.cons_ne_nil _ _⟩, fun h => h.1.symm⟩

theorem checkDistinct_eq_ok_iff {assigned : List (Opcode × Instruction)} :
    checkDistinct assigned = .ok () ↔
      ∀ opcode, (sharers assigned opcode).length ≤ 1 := by
  have hempty : checkDistinct assigned = .ok () ↔ collisionsOf (holders assigned) = [] := by
    rw [checkDistinct]
    cases collisionsOf (holders assigned) with
    | nil => exact iff_of_true rfl rfl
    | cons first rest => simp only [reduceCtorEq]
  rw [hempty, List.eq_nil_iff_forall_not_mem]
  constructor
  · intro h opcode
    -- Were the sharers more than one, they would be a collision.
    have hno := h ⟨opcode, sharers assigned opcode⟩
    rw [mem_collisionsOf_holders, not_and] at hno
    exact Nat.not_lt.mp (hno rfl)
  · intro h collision hmem
    rw [mem_collisionsOf_holders] at hmem
    have hfew := h collision.opcode
    rw [← hmem.1] at hfew
    omega

/-- The outcome depends on the sharers alone. -/
theorem checkDistinct_congr {a b : List (Opcode × Instruction)}
    (h : ∀ opcode, sharers a opcode = sharers b opcode) : checkDistinct a = checkDistinct b := by
  have hcollisions : collisionsOf (holders a) = collisionsOf (holders b) := by
    refine collisions_ext (pairwise_collisionsOf_holders a) (pairwise_collisionsOf_holders b)
      fun collision => ?_
    rw [mem_collisionsOf_holders, mem_collisionsOf_holders, h]
  rw [checkDistinct, checkDistinct, hcollisions]

end Assignment

end OpcodeBuckets
