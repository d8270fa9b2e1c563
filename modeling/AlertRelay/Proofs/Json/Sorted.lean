import AlertRelay.Json

/-!
# Sorted members

The members of an object are sorted by name, each name once (`Sorted`). Sorting gives sorted members
whatever it is given (`sorted_sortMembers`), and leaves sorted members as they are
(`sortMembers_eq`).
-/

namespace AlertRelay

namespace Json

variable {α : Type} {name : String} {value : α} {members : List (String × α)}

/-- Whether members are sorted by name, each name once. -/
def Sorted (members : List (String × α)) : Prop :=
  members.Pairwise fun first second => first.1 < second.1

/-- What is among the members after an insertion was there or was inserted. -/
theorem mem_insertMember {member : String × α} (among : member ∈ insertMember name value members) :
    member = (name, value) ∨ member ∈ members := by
  induction members with
  | nil => exact .inl (List.mem_singleton.mp among)
  | cons first rest ih =>
      rw [insertMember] at among
      split at among
      · exact List.mem_cons.mp among
      · split at among
        · exact (List.mem_cons.mp among).imp_right (List.mem_cons_of_mem _)
        · rcases List.mem_cons.mp among with here | later
          · exact .inr (here ▸ List.mem_cons_self)
          · exact (ih later).imp_right (List.mem_cons_of_mem _)

/-- An insertion keeps members sorted. -/
theorem sorted_insertMember (sorted : Sorted members) :
    Sorted (insertMember name value members) := by
  induction members with
  | nil => exact List.pairwise_singleton _ _
  | cons first rest ih =>
      obtain ⟨below, later⟩ := List.pairwise_cons.mp sorted
      rw [insertMember]
      split
      · next before =>
        refine List.pairwise_cons.mpr ⟨fun other among => ?_, sorted⟩
        rcases List.mem_cons.mp among with rfl | among
        · exact before
        · exact String.lt_trans before (below other among)
      · next notBefore =>
        split
        · next same =>
          exact List.pairwise_cons.mpr ⟨fun other among => same ▸ below other among, later⟩
        · next other =>
          refine List.pairwise_cons.mpr ⟨fun member among => ?_, ih later⟩
          rcases mem_insertMember among with rfl | among
          · exact Std.lt_of_le_of_ne (String.not_lt.mp notBefore) (Ne.symm other)
          · exact below member among

/-- Several insertions keep members sorted. -/
theorem sorted_foldl (more : List (String × α)) (sorted : Sorted members) :
    Sorted (more.foldl (fun sorted (name, value) => insertMember name value sorted) members) := by
  induction more generalizing members with
  | nil => exact sorted
  | cons first rest ih => exact ih (sorted_insertMember sorted)

/-- Sorting gives sorted members. -/
theorem sorted_sortMembers (members : List (String × α)) : Sorted (sortMembers members) :=
  sorted_foldl members .nil

theorem mem_foldl {member : String × α} (more : List (String × α)) :
    member ∈ more.foldl (fun sorted (name, value) => insertMember name value sorted) members →
      member ∈ members ∨ member ∈ more := by
  induction more generalizing members with
  | nil => exact .inl
  | cons first rest ih =>
      intro among
      rcases ih among with inserted | later
      · rcases mem_insertMember inserted with rfl | before
        · exact .inr List.mem_cons_self
        · exact .inl before
      · exact .inr (List.mem_cons_of_mem _ later)

/-- Nothing comes in by sorting. -/
theorem mem_sortMembers {member : String × α} (among : member ∈ sortMembers members) :
    member ∈ members :=
  (mem_foldl members among).resolve_left List.not_mem_nil

/-- The greatest name is inserted at the end. -/
theorem insertMember_eq_append (last : ∀ member ∈ members, member.1 < name) :
    insertMember name value members = members ++ [(name, value)] := by
  induction members with
  | nil => rfl
  | cons first rest ih =>
      have before := last first List.mem_cons_self
      have notAfter : ¬ name < first.1 := String.lt_asymm before
      have other : name ≠ first.1 := fun same => String.lt_irrefl _ (same ▸ before)
      rw [insertMember, if_neg notAfter, if_neg other,
        ih fun member among => last member (List.mem_cons_of_mem _ among), List.cons_append]

/-- Sorted members stay as they are. -/
theorem sortMembers_eq (sorted : Sorted members) : sortMembers members = members := by
  have appended : ∀ more before : List (String × α), Sorted (before ++ more) →
      more.foldl (fun sorted (name, value) => insertMember name value sorted) before =
        before ++ more := by
    intro more
    induction more with
    | nil => exact fun before _ => (List.append_nil before).symm
    | cons first rest ih =>
        intro before sorted
        have last : ∀ member ∈ before, member.1 < first.1 := fun member among =>
          (List.pairwise_append.mp sorted).2.2 member among first List.mem_cons_self
        rw [List.foldl_cons]
        dsimp only
        rw [insertMember_eq_append last, ih]
        · exact (List.append_cons before first rest).symm
        · rw [← List.append_cons]
          exact sorted
  exact appended members [] sorted

end Json

end AlertRelay
