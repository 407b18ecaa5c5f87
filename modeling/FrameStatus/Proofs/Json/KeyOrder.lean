import FrameStatus.Json.Basic
import Mathlib.Data.List.Perm.Basic

/-!
# The order of keys

Sorting keys moves members about and does nothing else: every value stays the same up to the order
of its members, and a key leads to the same value as before.
-/

namespace FrameStatus.Json

/-- The member of an object under a key, the first if there are more. -/
def member? (key : String) : Json → Option Json
  | object members => members.lookup key
  | _ => none

/-- One value becomes the other by changing the order of members, in it or in what it holds. -/
inductive Reorders : Json → Json → Prop
  | refl (value : Json) : Reorders value value
  | trans {a b c : Json} (hfirst : Reorders a b) (hsecond : Reorders b c) : Reorders a c
  | members {members others : List (String × Json)} (hperm : members.Perm others) :
      Reorders (object members) (object others)
  | item {before after : List Json} {a b : Json} (hitem : Reorders a b) :
      Reorders (array (before ++ a :: after)) (array (before ++ b :: after))
  | member {before after : List (String × Json)} {key : String} {a b : Json}
      (hmember : Reorders a b) :
      Reorders (object (before ++ (key, a) :: after)) (object (before ++ (key, b) :: after))

/-! ## Sorting -/

theorem perm_insertMember (key : String) (value : Json) (members : List (String × Json)) :
    ((key, value) :: members).Perm (insertMember key value members) := by
  induction members with
  | nil => exact List.Perm.refl _
  | cons member rest ih =>
      obtain ⟨other, held⟩ := member
      rw [insertMember]
      split
      · exact (List.Perm.swap _ _ rest).trans (ih.cons (other, held))
      · exact List.Perm.refl _

mutual

/-- Sorting the keys of a value changes nothing but the order of members. -/
theorem reorders_sortKeys : ∀ value : Json, Reorders value (sortKeys value)
  | number value => by
      rw [sortKeys]
      exact .refl _
  | bool value => by
      rw [sortKeys]
      exact .refl _
  | string text => by
      rw [sortKeys]
      exact .refl _
  | array items => by
      rw [sortKeys]
      exact reorders_sortItems [] items
  | object members => by
      rw [sortKeys]
      exact reorders_sortMembers [] members

theorem reorders_sortItems (before : List Json) :
    ∀ items, Reorders (array (before ++ items)) (array (before ++ sortItems items))
  | [] => .refl _
  | item :: rest => by
      have hrest := reorders_sortItems (before ++ [sortKeys item]) rest
      rw [List.append_assoc, List.append_assoc] at hrest
      exact .trans (.item (reorders_sortKeys item)) hrest

theorem reorders_sortMembers (before : List (String × Json)) :
    ∀ members, Reorders (object (before ++ members)) (object (before ++ sortMembers members))
  | [] => .refl _
  | (key, value) :: rest => by
      have hrest := reorders_sortMembers (before ++ [(key, sortKeys value)]) rest
      rw [List.append_assoc, List.append_assoc] at hrest
      have hinsert := (perm_insertMember key (sortKeys value) (sortMembers rest)).append_left before
      exact .trans (.member (reorders_sortKeys value)) (.trans hrest (.members hinsert))

end

/-! ## Looking up -/

theorem lookup_insertMember (key : String) (value : Json) (members : List (String × Json))
    (other : String) :
    (insertMember key value members).lookup other =
      ((key, value) :: members).lookup other := by
  induction members with
  | nil => rfl
  | cons member rest ih =>
      obtain ⟨first, held⟩ := member
      rw [insertMember]
      split
      next hless =>
        -- The member that is passed over has another key.
        have hne : first ≠ key := by
          rintro rfl
          exact absurd hless (String.lt_irrefl first)
        rw [List.lookup_cons, ih, List.lookup_cons, List.lookup_cons, List.lookup_cons]
        cases hfirst : other == first with
        | false => rfl
        | true =>
            have hkey : (other == key) = false := by
              rw [beq_iff_eq.mp hfirst]
              exact beq_false_of_ne hne
            rw [hkey]
      next => rfl

theorem lookup_sortMembers (members : List (String × Json)) (key : String) :
    (sortMembers members).lookup key = (members.lookup key).map sortKeys := by
  induction members with
  | nil => rfl
  | cons member rest ih =>
      obtain ⟨first, value⟩ := member
      rw [sortMembers, lookup_insertMember, List.lookup_cons, List.lookup_cons, ih]
      cases key == first <;> rfl

/-- A key leads to the same value after sorting, sorted itself. -/
theorem member?_sortKeys (key : String) (value : Json) :
    member? key (sortKeys value) = (member? key value).map sortKeys := by
  cases value with
  | object members => exact lookup_sortMembers members key
  | _ => rfl

theorem sortItems_eq_map (items : List Json) : sortItems items = items.map sortKeys := by
  induction items with
  | nil => rfl
  | cons item rest ih => rw [sortItems, ih, List.map_cons]

end FrameStatus.Json
