import Mathlib.Data.List.Basic
import Mathlib.Data.List.Pairwise
import Mathlib.Data.List.TakeWhile

/-!
# Ordered sets

A set that is kept in an order holds no two members of which neither comes before the other, and
finds a member by comparing: what is erased is the member that is equivalent to the one asked
for. The order is an argument of every operation, since it may be read from something that
changes. As long as the members compare as before, the set stays in order.
-/

namespace Math.KeyedSet

variable {Member : Type} (less : Member → Member → Bool)

/-- Neither comes before the other. -/
def equivalent (first second : Member) : Bool := !less first second && !less second first

/-- Remove the equivalent member. -/
def erase (members : List Member) (member : Member) : List Member :=
  members.filter fun other => !equivalent less member other

/-- Put a member in its place, unless there is an equivalent one. -/
def insert (members : List Member) (member : Member) : List Member :=
  if members.any (equivalent less member) then members
  else members.takeWhile (less · member) ++ member :: members.dropWhile (less · member)

/-- Each member comes before all that follow. -/
def Sorted (members : List Member) : Prop := members.Pairwise fun first second => less first second

section Laws

variable {less} {less' : Member → Member → Bool} {members : List Member} {member other : Member}

theorem equivalent_self (irreflexive : ∀ member, less member member = false) (member : Member) :
    equivalent less member member = true := by
  unfold equivalent
  rw [irreflexive]
  rfl

theorem mem_erase : other ∈ erase less members member ↔
    other ∈ members ∧ equivalent less member other = false := by
  unfold erase
  rw [List.mem_filter, Bool.not_eq_true']

theorem ne_of_mem_erase (irreflexive : ∀ member, less member member = false)
    (isMember : other ∈ erase less members member) : other ≠ member := by
  rintro rfl
  have apart := (mem_erase.mp isMember).2
  rw [equivalent_self irreflexive] at apart
  cases apart

theorem length_erase_le (members : List Member) (member : Member) :
    (erase less members member).length ≤ members.length := List.length_filter_le _ _

/-- If a member is equivalent, erasing makes the set smaller. -/
theorem length_erase_lt (found : members.any (equivalent less member) = true) :
    (erase less members member).length < members.length := by
  obtain ⟨other, isMember, same⟩ := List.any_eq_true.mp found
  refine List.length_filter_lt_length_iff_exists.mpr ⟨other, isMember, ?_⟩
  rw [same]
  exact Bool.false_ne_true

/-- Nothing is erased, if and only if no member is equivalent. -/
theorem erase_eq_self_iff : erase less members member = members ↔
    ∀ other ∈ members, equivalent less member other = false := by
  unfold erase
  rw [List.filter_eq_self]
  exact forall₂_congr fun other _ => .of_eq (Bool.not_eq_true' _)

theorem mem_of_mem_insert (isMember : other ∈ insert less members member) :
    other = member ∨ other ∈ members := by
  unfold insert at isMember
  split at isMember
  · exact .inr isMember
  · rcases List.mem_append.mp isMember with before | after
    · exact .inr ((List.takeWhile_sublist _).subset before)
    · rcases List.mem_cons.mp after with same | behind
      · exact .inl same
      · exact .inr ((List.dropWhile_sublist _).subset behind)

theorem length_insert_le (members : List Member) (member : Member) :
    (insert less members member).length ≤ members.length + 1 := by
  unfold insert
  split
  · exact Nat.le_succ _
  · have whole := congrArg List.length
      (List.takeWhile_append_dropWhile (p := (less · member)) (l := members))
    rw [List.length_append] at whole ⊢
    rw [List.length_cons]
    omega

theorem Sorted.sublist {fewer : List Member} (sorted : Sorted less members)
    (sublist : fewer.Sublist members) : Sorted less fewer :=
  List.Pairwise.sublist sublist sorted

theorem Sorted.erase (sorted : Sorted less members) (member : Member) :
    Sorted less (KeyedSet.erase less members member) :=
  sorted.sublist List.filter_sublist

/-- An order that compares the members as before keeps them in order. -/
theorem Sorted.congr (sorted : Sorted less members)
    (same : ∀ first ∈ members, ∀ second ∈ members, less' first second = less first second) :
    Sorted less' members :=
  List.Pairwise.imp_of_mem (fun first second before => (same _ first _ second).trans before) sorted

theorem Sorted.nodup (irreflexive : ∀ member, less member member = false)
    (sorted : Sorted less members) : members.Nodup := by
  refine List.Pairwise.imp (fun {first second} before => ?_) sorted
  rintro rfl
  rw [irreflexive] at before
  cases before

/-- Insertion keeps the order. -/
theorem Sorted.insert (trans : ∀ first second third, less first second = true →
    less second third = true → less first third = true)
    (sorted : Sorted less members) (member : Member) :
    Sorted less (KeyedSet.insert less members member) := by
  unfold KeyedSet.insert
  split
  · exact sorted
  · rename_i absent
    have before : ∀ first ∈ members.takeWhile (less · member), less first member = true :=
      fun first taken => List.all_eq_true.mp List.all_takeWhile first taken
    -- The first member that is left does not come before the new one, so it comes after it.
    have after : ∀ second ∈ members.dropWhile (less · member), less member second = true := by
      have rest : Sorted less (members.dropWhile (less · member)) :=
        sorted.sublist (List.dropWhile_sublist _)
      cases shape : members.dropWhile (less · member) with
      | nil => exact fun _ => nofun
      | cons head tail =>
          have isMember : head ∈ members := by
            apply (List.dropWhile_sublist (less · member)).subset
            rw [shape]
            exact .head _
          have stays := List.head?_dropWhile_not (less · member) members
          rw [shape] at stays rest
          have first : less member head = true := by
            by_contra not
            apply absent
            refine List.any_eq_true.mpr ⟨head, isMember, ?_⟩
            unfold equivalent
            rw [Bool.not_eq_true] at not
            have stays : less head member = false := by simpa using stays
            rw [not, stays]
            rfl
          intro second inRest
          rcases List.mem_cons.mp inRest with rfl | later
          · exact first
          · exact trans _ _ _ first ((List.pairwise_cons.mp rest).1 second later)
    refine List.pairwise_append.mpr ⟨sorted.sublist (List.takeWhile_sublist _),
      List.pairwise_cons.mpr ⟨after, sorted.sublist (List.dropWhile_sublist _)⟩, ?_⟩
    intro first taken second behind
    rcases List.mem_cons.mp behind with rfl | later
    · exact before first taken
    · exact trans _ _ _ (before first taken) (after second later)

end Laws

end Math.KeyedSet
