/-!
# Components and their levels

A finite map from component names to levels, as a list with strictly ascending names. Ascending
means by the code points of the characters. So a map has one form, and two maps are equal exactly
if they give the same levels to the same names.
-/

namespace ResilientProxy.Logging

/-- Names that ascend strictly. -/
abbrev Ascending (entries : List (String × String)) : Prop :=
  entries.Pairwise fun a b => a.1 < b.1

@[ext]
structure Components where
  entries : List (String × String)
  ascending : Ascending entries
  deriving DecidableEq, Repr

/-- Puts an entry into its place; an entry of the same name gives way. -/
def insertEntry (name level : String) : List (String × String) → List (String × String)
  | [] => [(name, level)]
  | (n, l) :: rest =>
    if name < n then (name, level) :: (n, l) :: rest
    else if n < name then (n, l) :: insertEntry name level rest
    else (name, level) :: rest

theorem mem_insertEntry {name level : String} {entries : List (String × String)}
    {e : String × String} (h : e ∈ insertEntry name level entries) :
    e = (name, level) ∨ e ∈ entries := by
  induction entries with
  | nil => simpa [insertEntry] using h
  | cons head rest ih =>
    simp only [insertEntry] at h
    split at h
    · simpa using h
    · split at h
      · rcases List.mem_cons.1 h with rfl | h
        · simp
        · rcases ih h with rfl | h
          · simp
          · simp [h]
      · rcases List.mem_cons.1 h with rfl | h
        · simp
        · simp [h]

theorem ascending_insertEntry {name level : String} {entries : List (String × String)}
    (h : Ascending entries) : Ascending (insertEntry name level entries) := by
  induction entries with
  | nil => simp [insertEntry, Ascending]
  | cons head rest ih =>
    obtain ⟨n, l⟩ := head
    obtain ⟨above, tail⟩ := List.pairwise_cons.1 h
    simp only [insertEntry]
    split
    · next below =>
      refine List.pairwise_cons.2 ⟨fun e he => ?_, h⟩
      rcases List.mem_cons.1 he with rfl | he
      · exact below
      · exact String.lt_trans below (above e he)
    · next notBelow =>
      split
      · next behind =>
        refine List.pairwise_cons.2 ⟨fun e he => ?_, ih tail⟩
        rcases mem_insertEntry he with rfl | he
        · exact behind
        · exact above e he
      · next notBehind =>
        have same : name = n :=
          String.le_antisymm (String.not_lt.1 notBehind) (String.not_lt.1 notBelow)
        refine List.pairwise_cons.2 ⟨fun e he => ?_, tail⟩
        rw [same]
        exact above e he

/-- An entry of a new name comes in beside those that are there. -/
theorem insertEntry_perm {name level : String} {entries : List (String × String)}
    (h : ∀ e ∈ entries, e.1 ≠ name) :
    (insertEntry name level entries).Perm ((name, level) :: entries) := by
  induction entries with
  | nil => exact .refl _
  | cons head rest ih =>
    rw [List.forall_mem_cons] at h
    simp only [insertEntry]
    split
    · exact .refl _
    · next notBelow =>
      split
      · exact ((ih h.2).cons head).trans (.swap ..)
      · next notBehind =>
        exact absurd (String.le_antisymm (String.not_lt.1 notBelow) (String.not_lt.1 notBehind)) h.1

namespace Components

def empty : Components := ⟨[], List.Pairwise.nil⟩

/-- Sets the level of a name; a level that it had before is lost. -/
def insert (c : Components) (name level : String) : Components :=
  ⟨insertEntry name level c.entries, ascending_insertEntry c.ascending⟩

/-- The map that a list of entries describes; of a name that comes twice the last level counts. -/
def ofList (entries : List (String × String)) : Components :=
  entries.foldl (fun c e => c.insert e.1 e.2) empty

theorem perm_foldl_insert {entries : List (String × String)} (c : Components)
    (h : entries.Pairwise fun a b => a.1 ≠ b.1)
    (hc : ∀ e ∈ entries, ∀ f ∈ c.entries, f.1 ≠ e.1) :
    (entries.foldl (fun c e => c.insert e.1 e.2) c).entries.Perm (entries ++ c.entries) := by
  induction entries generalizing c with
  | nil => exact .refl _
  | cons head rest ih =>
    obtain ⟨apart, tail⟩ := List.pairwise_cons.1 h
    rw [List.forall_mem_cons] at hc
    have hinsert : (insertEntry head.1 head.2 c.entries).Perm (head :: c.entries) :=
      insertEntry_perm hc.1
    refine (ih (c.insert head.1 head.2) tail fun e he f hf => ?_).trans ?_
    · rcases mem_insertEntry hf with rfl | hf
      · exact apart e he
      · exact hc.2 e he f hf
    · exact (hinsert.append_left rest).trans List.perm_middle

/-- In whatever order the entries of a map are listed, they describe that map. -/
theorem ofList_of_perm {c : Components} {entries : List (String × String)}
    (h : entries.Perm c.entries) : ofList entries = c := by
  have happart : entries.Pairwise fun a b => a.1 ≠ b.1 := by
    refine (h.pairwise_iff Ne.symm).2 (c.ascending.imp fun {a b} hab heq => ?_)
    exact String.lt_irrefl b.1 (heq ▸ hab)
  have hperm : (ofList entries).entries.Perm c.entries := by
    have hall := perm_foldl_insert empty happart (by simp [empty])
    rw [empty, List.append_nil] at hall
    exact hall.trans h
  -- of two ascending lists with the same entries there is only one
  have heq : (ofList entries).entries = c.entries :=
    hperm.eq_of_pairwise (fun a b _ _ hab hba => absurd (String.lt_trans hab hba)
      (String.lt_irrefl a.1)) (ofList entries).ascending c.ascending
  exact Components.ext heq

end Components

end ResilientProxy.Logging
